import Rollout.Document
import Rollout.Yaml.ScalarText

namespace Rollout

namespace Yaml

-- What a YAML stream consists of once its scalars are read and its indentation is understood.
inductive Token where
  | version (major minor : Nat)
  | tagHandle (handle expansion : String)
  | documentStart
  | documentEnd
  | blockSequence
  | blockMapping
  | blockEnd
  | sequenceStart
  | sequenceEnd
  | mappingStart
  | mappingEnd
  | blockEntry
  | flowEntry
  | key
  | value
  | alias (name : String)
  | anchor (name : String)
  | tag (handle suffix : String)
  | scalar (text : String) (style : ScalarStyle)
  | streamEnd
  deriving Repr, DecidableEq

-- A token that turns out to be a key when a colon follows: its place among the tokens,
-- where it begins, and whether it cannot be anything else.
structure PendingKey where
  position : Nat
  index : Nat
  line : Nat
  required : Bool

-- A key stands on one line and is not longer than this.
def PendingKey.maxLength : Nat := 1024

def PendingKey.isStale (key : PendingKey) (here : Cursor) : Bool :=
  key.line < here.line || key.index + PendingKey.maxLength < here.index

-- The state of reading tokens. Tokens are held in reverse.
structure Scanner where
  here : Cursor
  tokens : List Token
  count : Nat
  -- Indentation of the innermost block collection, −1 outside of all.
  indent : Int
  outerIndents : List Int
  keyAllowed : Bool
  -- The pending key of the innermost flow collection, or of the block context.
  pending : Option PendingKey
  -- Those of the enclosing flow collections and of the block context around them.
  outerPending : List (Option PendingKey)

namespace Scanner

def start (chars : List Char) : Scanner := ⟨.start chars, [], 0, -1, [], true, none, []⟩

def inFlow (s : Scanner) : Bool := !s.outerPending.isEmpty

def push (token : Token) (s : Scanner) : Scanner :=
  { s with tokens := token :: s.tokens, count := s.count + 1 }

def insertAt (position : Nat) (token : Token) (s : Scanner) : Scanner :=
  let behind := s.count - position
  { s with
    tokens := s.tokens.take behind ++ token :: s.tokens.drop behind
    count := s.count + 1 }

def skip (s : Scanner) (n : Nat) : Scanner := { s with here := s.here.advanceBy n }

def allow (allowed : Bool) (s : Scanner) : Scanner := { s with keyAllowed := allowed }

-- Forgets a pending key that is stale; none when it was required.
def refresh (here : Cursor) : Option PendingKey → Option (Option PendingKey)
  | none => some none
  | some key =>
    if key.isStale here then if key.required then none else some none
    else some (some key)

def dropStale (s : Scanner) : Option Scanner :=
  match refresh s.here s.pending, s.outerPending.mapM (refresh s.here) with
  | some pending, some outer => some { s with pending := pending, outerPending := outer }
  | _, _ => none

-- Forgets the pending key; none when it was required.
def dropPending (s : Scanner) : Option Scanner :=
  match s.pending with
  | some key => if key.required then none else some { s with pending := none }
  | none => some s

def notePending (s : Scanner) : Option Scanner :=
  if s.keyAllowed then
    match s.dropPending with
    | none => none
    | some s =>
      let required := !s.inFlow && s.indent = s.here.column
      some { s with pending := some ⟨s.count, s.here.index, s.here.line, required⟩ }
  else some s

-- Closes the block collections that are indented more than a column.
def unrollFrom (column : Int) : List Int → Scanner → Scanner
  | [], s => if s.indent > column then { s.push .blockEnd with indent := -1 } else s
  | outer :: rest, s =>
    if s.indent > column then
      unrollFrom column rest { s.push .blockEnd with indent := outer, outerIndents := rest }
    else s

def unroll (column : Int) (s : Scanner) : Scanner :=
  if s.inFlow then s else unrollFrom column s.outerIndents s

-- Opens a block collection at a column, unless one is open there.
def roll (column : Int) (position : Option Nat) (token : Token) (s : Scanner) : Scanner :=
  if s.inFlow then s
  else if s.indent < column then
    let s := { s with outerIndents := s.indent :: s.outerIndents, indent := column }
    match position with
    | some position => s.insertAt position token
    | none => s.push token
  else s

def byteOrderMark : Char := '\ufeff'

-- Skips white space, breaks and comments up to the next token.
def toNext : Nat → Scanner → Scanner
  | 0, s => s
  | steps + 1, s =>
    let tabs := s.inFlow || !s.keyAllowed
    let start := if s.here.index = 0 && s.here.isAt byteOrderMark then s.here.advance else s.here
    let here := (start.skipWhile fun c => c = ' ' || (tabs && c = '\t')).skipComment
    let s := { s with here := here }
    if here.atBreak then
      toNext steps { s with here := here.skipBreak, keyAllowed := s.keyAllowed || !s.inFlow }
    else s

def streamEnd (s : Scanner) : Option Scanner :=
  (s.unroll (-1)).dropPending.map fun s => s.push .streamEnd

def versionNumber? (here : Cursor) : Option (Nat × Cursor) :=
  let (digits, here) := here.takeWhile Char.isDigit
  if digits.isEmpty || 9 < digits.length then none
  else some (digits.foldl (fun n c => 10 * n + (c.toNat - '0'.toNat)) 0, here)

def version? (here : Cursor) : Option (Token × Cursor) :=
  match versionNumber? here with
  | none => none
  | some (major, here) =>
    if here.isAt '.' then
      match versionNumber? here.advance with
      | none => none
      | some (minor, here) => some (.version major minor, here)
    else none

-- A tag handle: an exclamation mark, or a name between two of them.
def tagHandle? (directive : Bool) (here : Cursor) : Option (String × Cursor) :=
  if here.isAt '!' then
    let (name, here) := here.advance.takeWhile isNameChar
    if here.isAt '!' then some (String.ofList ('!' :: name ++ ['!']), here.advance)
    else if directive && !name.isEmpty then none
    else some (String.ofList ('!' :: name), here)
  else none

def isUriChar (verbatim : Bool) (c : Char) : Bool :=
  isNameChar c || ";/?:@&=+$.%!~*'()".contains c || (verbatim && (c = ',' || c = '[' || c = ']'))

-- One octet, written as a percent sign and two hexadecimal digits.
def octet? : List Char → Option (Nat × List Char)
  | '%' :: a :: b :: rest =>
    match Quoted.hexDigit? a, Quoted.hexDigit? b with
    | some a, some b => some (16 * a + b, rest)
    | _, _ => none
  | _ => none

def octets? : Nat → List Char → Option (List Nat)
  | 0, _ => some []
  | n + 1, chars =>
    match octet? chars with
    | some (o, rest) =>
      if o / 64 = 2 then (octets? n rest).map (o :: ·) else none
    | none => none

-- A character written as the octets of its UTF-8 form.
def uriEscape? (here : Cursor) : Option (Char × Cursor) :=
  match octet? here.rest with
  | none => none
  | some (first, rest) =>
    let width :=
      if first < 0x80 then 1
      else if first / 32 = 6 then 2
      else if first / 16 = 14 then 3
      else if first / 8 = 30 then 4
      else 0
    if width = 0 then none
    else
      let lead := if width = 1 then first else first % (0x80 >>> width)
      match octets? (width - 1) rest with
      | none => none
      | some more =>
        some (Char.ofNat (more.foldl (fun n o => 64 * n + o % 64) lead),
          here.advanceBy (3 * width))

def uri (verbatim : Bool) : Nat → List Char → Cursor → Option (List Char × Cursor)
  | 0, done, here => some (done, here)
  | steps + 1, done, here =>
    match here.peek? with
    | none => some (done, here)
    | some c =>
      if c = '%' then
        match uriEscape? here with
        | some (c, here) => uri verbatim steps (c :: done) here
        | none => none
      else if isUriChar verbatim c then uri verbatim steps (c :: done) here.advance
      else some (done, here)

-- Reads the rest of a tag after `begun`; it must not be empty altogether.
def uri? (verbatim : Bool) (begun : String) (here : Cursor) : Option (String × Cursor) :=
  match uri verbatim here.rest.length [] here with
  | none => none
  | some (done, here) =>
    if done.isEmpty && begun.isEmpty then none
    else some (String.ofList (begun.toList.drop 1) ++ collected done, here)

def tagDirective? (here : Cursor) : Option (Token × Cursor) :=
  match tagHandle? true here with
  | none => none
  | some (handle, here) =>
    if !here.atBlank then none
    else
      match uri? true "" here.skipBlanks with
      | none => none
      | some (expansion, here) =>
        if here.atGap then some (.tagHandle handle expansion, here) else none

def directive (s : Scanner) : Option Scanner :=
  match (s.unroll (-1)).dropPending with
  | none => none
  | some s =>
    let (name, here) := s.here.advance.takeWhile isNameChar
    if name.isEmpty || !here.atGap then none
    else
      let read :=
        if name = ['Y', 'A', 'M', 'L'] then version? here.skipBlanks
        else if name = ['T', 'A', 'G'] then tagDirective? here.skipBlanks
        else none
      match read with
      | none => none
      | some (token, here) =>
        let here := here.skipBlanks.skipComment
        if here.atEnd || here.atBreak then
          some { (s.push token).allow false with here := here.skipBreak }
        else none

def documentMarker (token : Token) (s : Scanner) : Option Scanner :=
  (s.unroll (-1)).dropPending.map fun s => ((s.allow false).skip 3).push token

def flowStart (token : Token) (s : Scanner) : Option Scanner :=
  s.notePending.map fun s =>
    (({ s with pending := none, outerPending := s.pending :: s.outerPending }.allow true).skip 1).push
      token

def flowEnd (token : Token) (s : Scanner) : Option Scanner :=
  s.dropPending.map fun s =>
    let s := match s.outerPending with
      | [] => s
      | pending :: outer => { s with pending := pending, outerPending := outer }
    ((s.allow false).skip 1).push token

def flowEntry (s : Scanner) : Option Scanner :=
  s.dropPending.map fun s => ((s.allow true).skip 1).push .flowEntry

def blockEntry (s : Scanner) : Option Scanner :=
  if !s.inFlow && !s.keyAllowed then none
  else
    (s.roll s.here.column none .blockSequence).dropPending.map fun s =>
      ((s.allow true).skip 1).push .blockEntry

def key (s : Scanner) : Option Scanner :=
  if !s.inFlow && !s.keyAllowed then none
  else
    (s.roll s.here.column none .blockMapping).dropPending.map fun s =>
      ((s.allow !s.inFlow).skip 1).push .key

def value (s : Scanner) : Option Scanner :=
  match s.pending with
  | some pending =>
    let column : Int := s.here.column - (s.here.index - pending.index : Nat)
    let s := (s.insertAt pending.position .key).roll column (some pending.position) .blockMapping
    some ((({ s with pending := none }.allow false).skip 1).push .value)
  | none =>
    if !s.inFlow && !s.keyAllowed then none
    else
      let s := s.roll s.here.column none .blockMapping
      some (((s.allow !s.inFlow).skip 1).push .value)

def name (make : String → Token) (s : Scanner) : Option Scanner :=
  match s.notePending with
  | none => none
  | some s =>
    let (name, here) := s.here.advance.takeWhile isNameChar
    let ends := here.atGap || here.peek?.any fun c => "?:,]\x7d%@`".contains c
    if name.isEmpty || !ends then none
    else some { (s.push (make (String.ofList name))).allow false with here := here }

def tag? (here : Cursor) : Option (Token × Cursor) :=
  if here.second? = some '<' then
    match uri? true "" (here.advanceBy 2) with
    | some (suffix, here) =>
      if here.isAt '>' then some (.tag "" suffix, here.advance) else none
    | none => none
  else
    match tagHandle? false here with
    | none => none
    | some (handle, after) =>
      if 1 < handle.length && handle.endsWith "!" then
        match uri? false "" after with
        | some (suffix, here) => some (.tag handle suffix, here)
        | none => none
      else
        match uri? false handle after with
        | some ("", here) => some (.tag "" "!", here)
        | some (suffix, here) => some (.tag "!" suffix, here)
        | none => none

def tag (s : Scanner) : Option Scanner :=
  match s.notePending with
  | none => none
  | some s =>
    match tag? s.here with
    | none => none
    | some (token, here) =>
      if here.atGap || (s.inFlow && here.isAt ',') then
        some { (s.push token).allow false with here := here }
      else none

def scalar (text : ScalarText) (style : ScalarStyle) (allowed : Bool) (s : Scanner) : Scanner :=
  { (s.push (.scalar text.text style)).allow allowed with here := text.after }

def blockScalar (literal : Bool) (s : Scanner) : Option Scanner :=
  match s.dropPending with
  | none => none
  | some s =>
    (block literal s.indent s.here).map fun text =>
      s.scalar text (if literal then .literal else .quoted) true

def quotedScalar (double : Bool) (s : Scanner) : Option Scanner :=
  match s.notePending with
  | none => none
  | some s => (quoted double s.here).map fun text => s.scalar text .quoted false

def plainScalar (s : Scanner) : Option Scanner :=
  match s.notePending with
  | none => none
  | some s =>
    (plain s.inFlow (s.indent + 1) s.here).map fun text => s.scalar text .plain text.broken

-- Reads the next token, with all that has to be put around it.
def next (s : Scanner) : Option Scanner :=
  match (s.toNext (s.here.rest.length + 1)).dropStale with
  | none => none
  | some s =>
    let s := s.unroll s.here.column
    let here := s.here
    match here.peek? with
    | none => s.streamEnd
    | some c =>
      let indicator := s.inFlow || here.beforeGap
      if here.column = 0 && c = '%' then s.directive
      else if here.atMarker '-' then s.documentMarker .documentStart
      else if here.atMarker '.' then s.documentMarker .documentEnd
      else if c = '[' then s.flowStart .sequenceStart
      else if c = '{' then s.flowStart .mappingStart
      else if c = ']' then s.flowEnd .sequenceEnd
      else if c = '}' then s.flowEnd .mappingEnd
      else if c = ',' then s.flowEntry
      else if c = '-' && here.beforeGap then s.blockEntry
      else if c = '?' && indicator then s.key
      else if c = ':' && indicator then s.value
      else if c = '*' then s.name .alias
      else if c = '&' then s.name .anchor
      else if c = '!' then s.tag
      else if c = '|' && !s.inFlow then s.blockScalar true
      else if c = '>' && !s.inFlow then s.blockScalar false
      else if c = '\'' then s.quotedScalar false
      else if c = '"' then s.quotedScalar true
      else if isBlank c || ",[]\x7b\x7d#&*!|>%@`".contains c then none
      else s.plainScalar

-- The tokens that are certain: those in front of the first pending key.
def certain (s : Scanner) : List Token :=
  let positions := (s.pending :: s.outerPending).filterMap fun key => key.map (·.position)
  let certain := positions.foldl min s.count
  (s.tokens.drop (s.count - certain)).reverse

-- Reads all tokens; an error leaves those that were certain before it.
def run : Nat → Scanner → List Token
  | 0, s => s.certain
  | steps + 1, s =>
    match s.next with
    | none => s.certain
    | some after =>
      match after.dropStale with
      | none => s.certain
      | some after =>
        if after.tokens.head? = some .streamEnd then after.tokens.reverse
        else run steps after

end Scanner

-- The tokens of a text. They end with the end of the stream, unless an error comes before it.
def tokens (chars : List Char) : List Token := (Scanner.start chars).run (chars.length + 2)

end Yaml

end Rollout
