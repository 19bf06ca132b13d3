namespace Rollout

namespace Yaml

-- The characters a YAML stream may consist of.
def isPrintable (c : Char) : Bool :=
  let n := c.toNat
  n = 0x9 || n = 0xA || n = 0xD || (0x20 ≤ n && n ≤ 0x7E) || n = 0x85
    || (0xA0 ≤ n && n ≤ 0xD7FF) || (0xE000 ≤ n && n ≤ 0xFFFD) || 0x10000 ≤ n

def isBlank (c : Char) : Bool := c = ' ' || c = '\t'

-- Carriage return, line feed, next line, line and paragraph separator.
def isBreak (c : Char) : Bool :=
  c = '\r' || c = '\n' || c = '\u0085' || c = '\u2028' || c = '\u2029'

-- Letters, digits, hyphen and underscore: what names consist of.
def isNameChar (c : Char) : Bool := c.isAlphanum || c = '_' || c = '-'

-- A place in a text: what is left to read, and where that begins.
structure Cursor where
  rest : List Char
  index : Nat
  line : Nat
  column : Nat

namespace Cursor

def start (chars : List Char) : Cursor := ⟨chars, 0, 0, 0⟩

def peek? (here : Cursor) : Option Char := here.rest.head?

def second? (here : Cursor) : Option Char := here.rest.tail.head?

def isAt (here : Cursor) (c : Char) : Bool := here.peek? == some c

def atBlank (here : Cursor) : Bool := here.peek?.any isBlank

def atBreak (here : Cursor) : Bool := here.peek?.any isBreak

def atEnd (here : Cursor) : Bool := here.rest.isEmpty

def endsWord : List Char → Bool
  | [] => true
  | c :: _ => isBlank c || isBreak c

-- Whether a blank, a break or the end of the text is here.
def atGap (here : Cursor) : Bool := endsWord here.rest

-- Whether the character after this one is a blank, a break or the end of the text.
def beforeGap (here : Cursor) : Bool := endsWord here.rest.tail

def advance (here : Cursor) : Cursor :=
  match here.rest with
  | [] => here
  | _ :: rest => ⟨rest, here.index + 1, here.line, here.column + 1⟩

def advanceBy : Nat → Cursor → Cursor
  | 0, here => here
  | n + 1, here => advanceBy n here.advance

-- Reads a line break. Separators are kept as they are, all others become line feeds.
def readBreak (here : Cursor) : List Char × Cursor :=
  match here.rest with
  | '\r' :: '\n' :: rest => (['\n'], ⟨rest, here.index + 2, here.line + 1, 0⟩)
  | c :: rest =>
    if isBreak c then
      let kept := if c = '\u2028' || c = '\u2029' then c else '\n'
      ([kept], ⟨rest, here.index + 1, here.line + 1, 0⟩)
    else ([], here)
  | [] => ([], here)

def skipBreak (here : Cursor) : Cursor := here.readBreak.2

def skipWhile (p : Char → Bool) (here : Cursor) : Cursor :=
  let taken := (here.rest.takeWhile p).length
  ⟨here.rest.drop taken, here.index + taken, here.line, here.column + taken⟩

def takeWhile (p : Char → Bool) (here : Cursor) : List Char × Cursor :=
  (here.rest.takeWhile p, here.skipWhile p)

def skipBlanks (here : Cursor) : Cursor := here.skipWhile isBlank

-- Skips a comment up to the end of its line.
def skipComment (here : Cursor) : Cursor :=
  if here.isAt '#' then here.skipWhile fun c => !isBreak c else here

-- Three equal characters that stand alone at the beginning of a line.
def atMarker (c : Char) (here : Cursor) : Bool :=
  here.column = 0 && [c, c, c].isPrefixOf here.rest && endsWord (here.rest.drop 3)

def atDocumentMarker (here : Cursor) : Bool := here.atMarker '-' || here.atMarker '.'

end Cursor

-- White space between two words of a scalar.
structure Gap where
  blanks : List Char
  first : List Char
  more : List Char
  broken : Bool

namespace Gap

def none : Gap := ⟨[], [], [], false⟩

-- What is left of the white space: blanks within a line stay, one line break becomes a space,
-- and of several the first one goes.
def folded (gap : Gap) : List Char :=
  if gap.broken then
    if gap.first = ['\n'] then if gap.more.isEmpty then [' '] else gap.more
    else gap.first ++ gap.more
  else gap.blanks

-- Reads on through white space. A line that is indented by a tab where more than `indent`
-- spaces are due is refused.
def read (indent : Int) : Nat → Gap → Cursor → Option (Gap × Cursor)
  | 0, gap, here => some (gap, here)
  | steps + 1, gap, here =>
    match here.peek? with
    | Option.none => some (gap, here)
    | some c =>
      if isBlank c then
        if gap.broken then
          if (here.column : Int) < indent && c = '\t' then Option.none
          else read indent steps gap here.advance
        else read indent steps { gap with blanks := gap.blanks ++ [c] } here.advance
      else if isBreak c then
        let (kept, next) := here.readBreak
        if gap.broken then read indent steps { gap with more := gap.more ++ kept } next
        else read indent steps ⟨[], kept, [], true⟩ next
      else some (gap, here)

end Gap

end Yaml

end Rollout
