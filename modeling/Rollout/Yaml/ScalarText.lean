import Rollout.Yaml.Cursor

namespace Rollout

namespace Yaml

-- The text of a scalar, the cursor behind it, and whether it ended with a line break.
structure ScalarText where
  text : String
  after : Cursor
  broken : Bool

-- Collected text is held in reverse; this appends to it.
def append (piece done : List Char) : List Char := List.reverseAux piece done

def collected (done : List Char) : String := String.ofList done.reverse

namespace Plain

def isFlowEnd (c : Char) : Bool := c = ',' || c = '[' || c = ']' || c = '{' || c = '}'

-- Reads one word. In flow context a colon right before punctuation is refused.
def word (flow : Bool) : Nat → List Char → Cursor → Option (List Char × Cursor)
  | 0, done, here => some (done, here)
  | steps + 1, done, here =>
    match here.peek? with
    | none => some (done, here)
    | some c =>
      if isBlank c || isBreak c then some (done, here)
      else if flow && c = ':' && here.second?.any (fun d => isFlowEnd d || d = '?') then none
      else if (c = ':' && here.beforeGap) || (flow && isFlowEnd c) then some (done, here)
      else word flow steps (c :: done) here.advance

-- Reads words and the gaps between them. Outside of flow context a scalar ends before a line
-- that is indented by less than `indent`.
def words (flow : Bool) (indent : Int) : Nat → Gap → List Char → Cursor → Option ScalarText
  | 0, gap, done, here => some ⟨collected done, here, gap.broken⟩
  | steps + 1, gap, done, here =>
    if here.atDocumentMarker || here.isAt '#' then some ⟨collected done, here, gap.broken⟩
    else
      match word flow (steps + 1) [] here with
      | none => none
      | some ([], here) => some ⟨collected done, here, gap.broken⟩
      | some (letters, here) =>
        let done := letters ++ append gap.folded done
        if here.atEnd || !here.atGap then some ⟨collected done, here, false⟩
        else
          match Gap.read indent (steps + 1) .none here with
          | none => none
          | some (gap, here) =>
            if !flow && (here.column : Int) < indent then some ⟨collected done, here, gap.broken⟩
            else words flow indent steps gap done here

end Plain

-- Reads a plain scalar.
def plain (flow : Bool) (indent : Int) (here : Cursor) : Option ScalarText :=
  Plain.words flow indent (here.rest.length + 1) .none [] here

namespace Quoted

def hexDigit? (c : Char) : Option Nat :=
  if c.isDigit then some (c.toNat - '0'.toNat)
  else if 'a' ≤ c && c ≤ 'f' then some (c.toNat - 'a'.toNat + 10)
  else if 'A' ≤ c && c ≤ 'F' then some (c.toNat - 'A'.toNat + 10)
  else none

-- A character given by its code in a fixed number of hexadecimal digits.
def hexChar? (digits : Nat) (here : Cursor) : Option (Char × Cursor) :=
  let text := here.rest.take digits
  if text.length < digits then none
  else
    match text.mapM hexDigit? with
    | none => none
    | some values =>
      let code := values.foldl (fun n d => 16 * n + d) 0
      if (0xD800 ≤ code && code ≤ 0xDFFF) || 0x10FFFF < code then none
      else some (Char.ofNat code, here.advanceBy digits)

-- The character that an escape of one letter stands for.
def escape? (c : Char) : Option Char :=
  match c with
  | '0' => some '\x00'
  | 'a' => some '\x07'
  | 'b' => some '\x08'
  | 't' | '\t' => some '\t'
  | 'n' => some '\n'
  | 'v' => some '\x0b'
  | 'f' => some '\x0c'
  | 'r' => some '\r'
  | 'e' => some '\x1b'
  | ' ' | '"' | '/' | '\\' => some c
  | 'N' => some '\u0085'
  | '_' => some '\u00a0'
  | 'L' => some '\u2028'
  | 'P' => some '\u2029'
  | _ => none

-- Reads one word; the flag tells that it ended with an escaped line break.
def word (double : Bool) : Nat → List Char → Cursor → Option (List Char × Bool × Cursor)
  | 0, done, here => some (done, false, here)
  | steps + 1, done, here =>
    match here.rest with
    | [] => some (done, false, here)
    | c :: rest =>
      if isBlank c || isBreak c then some (done, false, here)
      else if !double && c = '\'' then
        if rest.head? = some '\'' then word double steps ('\'' :: done) (here.advanceBy 2)
        else some (done, false, here)
      else if double && c = '"' then some (done, false, here)
      else if double && c = '\\' then
        match rest with
        | [] => none
        | d :: _ =>
          if isBreak d then some (done, true, here.advance.skipBreak)
          else
            let after := here.advanceBy 2
            let decoded := match d with
              | 'x' => hexChar? 2 after
              | 'u' => hexChar? 4 after
              | 'U' => hexChar? 8 after
              | _ => (escape? d).map fun e => (e, after)
            match decoded with
            | none => none
            | some (e, after) => word double steps (e :: done) after
      else word double steps (c :: done) here.advance

def words (double : Bool) : Nat → List Char → Cursor → Option ScalarText
  | 0, _, _ => none
  | steps + 1, done, here =>
    if here.atDocumentMarker || here.atEnd then none
    else
      match word double (steps + 1) [] here with
      | none => none
      | some (letters, escaped, here) =>
        let done := letters ++ done
        if here.isAt (if double then '"' else '\'') then
          some ⟨collected done, here.advance, false⟩
        else
          match Gap.read 0 (steps + 1) ⟨[], [], [], escaped⟩ here with
          | none => none
          | some (gap, here) =>
            words double steps (append gap.folded done) here

end Quoted

-- Reads a quoted scalar, from its opening quote on.
def quoted (double : Bool) (here : Cursor) : Option ScalarText :=
  Quoted.words double (here.rest.length + 1) [] here.advance

namespace Block

-- What becomes of the line breaks at the end of a block.
inductive Chomping where
  | strip
  | clip
  | keep
  deriving DecidableEq

def chomping? (here : Cursor) : Option Chomping :=
  if here.isAt '+' then some .keep else if here.isAt '-' then some .strip else none

-- The indentation that a header names, if it names one.
def increment? (here : Cursor) : Option Nat :=
  match here.peek? with
  | some c => if c.isDigit then some (c.toNat - '0'.toNat) else none
  | none => none

-- Reads the chomping and the indentation, which stand in any order.
def header (here : Cursor) : Option (Chomping × Option Nat × Cursor) :=
  match chomping? here with
  | some chomping =>
    let here := here.advance
    match increment? here with
    | some 0 => none
    | some n => some (chomping, some n, here.advance)
    | none => some (chomping, none, here)
  | none =>
    match increment? here with
    | some 0 => none
    | some n =>
      let here := here.advance
      match chomping? here with
      | some chomping => some (chomping, some n, here.advance)
      | none => some (.clip, some n, here)
    | none => some (.clip, none, here)

-- Reads empty lines and the indentation of the first line with text. Indentation that is not
-- known yet is found here: `deepest` is the largest seen so far.
def breaks (indent : Option Nat) :
    Nat → Nat → List Char → Cursor → Option (List Char × Nat × Cursor)
  | 0, deepest, done, here => some (done, deepest, here)
  | steps + 1, deepest, done, here =>
    let within (here : Cursor) := match indent with
      | some n => here.column < n
      | none => true
    let spaces := (here.rest.takeWhile (· = ' ')).length
    let skipped := match indent with
      | some n => min spaces (n - here.column)
      | none => spaces
    let here := here.advanceBy skipped
    let deepest := max deepest here.column
    if within here && here.isAt '\t' then none
    else if here.atBreak then
      let (kept, here) := here.readBreak
      breaks indent steps deepest (done ++ kept) here
    else some (done, deepest, here)

-- Reads the lines of a block. `leading` is the break before the line, `trailing` the breaks
-- of the empty lines after it; a line is folded into the one before it unless one of the two
-- begins with a blank.
def lines (literal : Bool) (chomping : Chomping) (indent : Nat) :
    Nat → List Char → List Char → Bool → List Char → Cursor → Option ScalarText
  | 0, _, _, _, _, _ => none
  | steps + 1, leading, trailing, blankBefore, done, here =>
    if here.column = indent && !here.atEnd then
      let blank := here.atBlank
      let done :=
        if !literal && leading = ['\n'] && !blankBefore && !blank then
          if trailing.isEmpty then ' ' :: done else done
        else append leading done
      let done := append trailing done
      let (letters, here) := here.takeWhile fun c => !isBreak c
      let done := append letters done
      let (leading, here) := here.readBreak
      match breaks (some indent) (here.rest.length + 1) 0 [] here with
      | none => none
      | some (trailing, _, here) => lines literal chomping indent steps leading trailing blank done here
    else
      let done := if chomping = .strip then done else append leading done
      let done := if chomping = .keep then append trailing done else done
      some ⟨collected done, here, false⟩

end Block

-- Reads a block scalar, from its indicator on, below a node that is indented by `parent`.
def block (literal : Bool) (parent : Int) (here : Cursor) : Option ScalarText :=
  match Block.header here.advance with
  | none => none
  | some (chomping, increment, here) =>
    let here := here.skipBlanks.skipComment
    if !here.atEnd && !here.atBreak then none
    else
      let here := here.skipBreak
      let indent := increment.map fun n => if parent ≥ 0 then parent.toNat + n else n
      match Block.breaks indent (here.rest.length + 1) 0 [] here with
      | none => none
      | some (trailing, deepest, here) =>
        let indent := indent.getD (max deepest (max (parent + 1) 1).toNat)
        Block.lines literal chomping indent (here.rest.length + 2) [] trailing false [] here

end Yaml

end Rollout
