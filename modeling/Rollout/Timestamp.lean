import Rollout.Calendar

namespace Rollout

-- An instant, in nanoseconds from the beginning of 1970.
structure Timestamp where
  nanoseconds : Int
  deriving Repr, DecidableEq, Inhabited

namespace Timestamp

instance : LT Timestamp := ⟨fun a b => a.nanoseconds < b.nanoseconds⟩

instance (a b : Timestamp) : Decidable (a < b) :=
  inferInstanceAs (Decidable (a.nanoseconds < b.nanoseconds))

def perSecond : Int := 1000000000

-- The second the instant is in.
def seconds (t : Timestamp) : Int := t.nanoseconds / perSecond

def ofSeconds (s : Int) : Timestamp := ⟨s * perSecond⟩

-- The instant without its fraction of a second.
def floor (t : Timestamp) : Timestamp := ofSeconds t.seconds

-- The earliest instant: 9999 BC, January 2, 01:59:59.
def earliest : Timestamp := ofSeconds ((Date.mk (-9999) 1 2).toDays * 86400 + 7199)

-- The latest instant: 9999, December 30, the last nanosecond of 22:00:00.
def latest : Timestamp := ⟨((Date.mk 9999 12 30).toDays * 86400 + 79200) * perSecond + 999999999⟩

def isRepresentable (t : Timestamp) : Bool :=
  earliest.nanoseconds ≤ t.nanoseconds && t.nanoseconds ≤ latest.nanoseconds

-- The functions that read give what they have read and what is left to read.

def digits? : Nat → List Char → Option (Nat × List Char)
  | 0, chars => some (0, chars)
  | n + 1, c :: rest =>
    if c.isDigit then
      (digits? n rest).map fun (value, rest) =>
        ((c.toNat - '0'.toNat) * Nat.pow 10 n + value, rest)
    else none
  | _ + 1, [] => none

def within (low high : Nat) : Option (Nat × List Char) → Option (Nat × List Char) :=
  Option.filter fun (n, _) => low ≤ n && n ≤ high

def startsWithDigits : List Char → Bool
  | a :: b :: _ => a.isDigit && b.isDigit
  | _ => false

-- Four digits, or a sign and six of them; there is no year minus zero.
def year? : List Char → Option (Int × List Char)
  | '+' :: rest => (digits? 6 rest).map fun (n, rest) => ((n : Int), rest)
  | '-' :: rest =>
    ((digits? 6 rest).filter fun (n, _) => n ≠ 0).map fun (n, rest) => (-(n : Int), rest)
  | chars => (digits? 4 chars).map fun (n, rest) => ((n : Int), rest)

def skipChar (c : Char) : List Char → Option (List Char)
  | [] => none
  | d :: rest => if c = d then some rest else none

-- Year, month and day, with hyphens between all of them or none.
def date? (chars : List Char) : Option (Date × List Char) := do
  let (year, chars) ← (year? chars).filter fun (year, _) => -9999 ≤ year && year ≤ 9999
  let hyphen := chars.head? = some '-'
  let separator (chars : List Char) := if hyphen then skipChar '-' chars else some chars
  let (month, chars) ← within 1 12 (digits? 2 (← separator chars))
  let (day, chars) ← within 1 31 (digits? 2 (← separator chars))
  let date : Date := ⟨year, month, day⟩
  if date.isValid then some (date, chars) else none

-- Up to nine digits behind a point or a comma, as nanoseconds.
def fraction? (chars : List Char) : Option (Nat × List Char) :=
  match chars with
  | c :: rest =>
    if c = '.' || c = ',' then
      let digits := (rest.take 9).takeWhile Char.isDigit
      if digits.isEmpty then none
      else
        (digits? digits.length rest).map fun (n, rest) => (n * Nat.pow 10 (9 - digits.length), rest)
    else some (0, chars)
  | [] => some (0, chars)

-- Two digits, if a colon announces them or, where there are no colons, if they are there.
def part? (colons : Bool) (chars : List Char) : Option (List Char) :=
  if colons then skipChar ':' chars
  else if startsWithDigits chars then some chars
  else none

-- Nanoseconds since midnight. Minutes and seconds may be left out; a leap second is read as the
-- second before it.
def time? (chars : List Char) : Option (Int × List Char) := do
  let (hour, chars) ← within 0 23 (digits? 2 chars)
  let colons := chars.head? = some ':'
  match part? colons chars with
  | none => some (hour * 3600 * perSecond, chars)
  | some chars =>
    let (minute, chars) ← within 0 59 (digits? 2 chars)
    match part? colons chars with
    | none => some ((hour * 3600 + minute * 60 : Nat) * perSecond, chars)
    | some chars =>
      let (second, chars) ← within 0 60 (digits? 2 chars)
      let (fraction, chars) ← fraction? chars
      some ((hour * 3600 + minute * 60 + min second 59 : Nat) * perSecond + fraction, chars)

-- The offset from UTC in seconds.
def offset? : List Char → Option (Int × List Char)
  | [] => none
  | sign :: rest => do
    if sign = 'Z' || sign = 'z' then return (0, rest)
    let signed (n : Nat) : Int := if sign = '-' then -(n : Int) else n
    if sign ≠ '+' && sign ≠ '-' then none
    let (hour, chars) ← within 0 25 (digits? 2 rest)
    let colons := chars.head? = some ':'
    match part? colons chars with
    | none => some (signed (hour * 3600), chars)
    | some chars =>
      let (minute, chars) ← within 0 59 (digits? 2 chars)
      match part? colons chars with
      | none => some (signed (hour * 3600 + minute * 60), chars)
      | some chars =>
        let (second, chars) ← within 0 59 (digits? 2 chars)
        some (signed (hour * 3600 + minute * 60 + second), chars)

def isKeyChar (c : Char) : Bool := c.isLower || c.isDigit || c = '_' || c = '-'

def isValueChar (c : Char) : Bool := c.isAlphanum || c = '-'

def isZoneChar (c : Char) : Bool := c.isAlphanum || "._+-/".contains c

-- A key and the parts of its value, which hyphens separate.
def isAssignment (body : List Char) : Bool :=
  let key := body.takeWhile isKeyChar
  let value := (body.drop key.length).drop 1
  key.head?.any (fun c => c.isLower || c = '_') && (body.drop key.length).head? = some '='
    && value.all isValueChar
    && ((String.ofList value).splitOn "-").all fun part => !part.isEmpty

def isZone (body : List Char) : Bool :=
  match body with
  | [] => false
  | c :: rest =>
    if c = '+' || c = '-' then
      match offset? body with
      | some (_, []) => true
      | _ => false
    else (c.isAlpha || c = '_' || c = '.') && rest.all isZoneChar

-- Annotations in brackets do not change the instant. The first may name a time zone; the others
-- assign a value to a key, and may not insist on it.
def annotated (first : Bool) : Nat → List Char → Bool
  | _, [] => true
  | 0, _ => false
  | fuel + 1, '[' :: rest =>
    let (critical, rest) := match rest with
      | '!' :: rest => (true, rest)
      | _ => (false, rest)
    let body := rest.takeWhile (· ≠ ']')
    let after := rest.drop body.length
    ((first && isZone body) || (isAssignment body && !critical)) && !after.isEmpty
      && annotated false fuel (after.drop 1)
  | _, _ => false

-- Reads a date, a time and an offset.
def parse? (text : String) : Option Timestamp := do
  let (date, chars) ← date? text.toList
  let (separator, chars) ← match chars with
    | c :: rest => some (c, rest)
    | [] => none
  if separator ≠ 'T' && separator ≠ 't' && separator ≠ ' ' then none
  let (time, chars) ← time? chars
  let (offset, chars) ← offset? chars
  let t : Timestamp := ⟨(date.toDays * 86400 - offset) * perSecond + time⟩
  if annotated true chars.length chars && t.isRepresentable then some t else none

-- A number in at least so many digits.
def padded (width : Nat) (n : Nat) : String :=
  let text := toString n
  String.ofList (List.replicate (width - text.length) '0') ++ text

def renderYear (year : Int) : String :=
  if year < 0 then "-" ++ padded 6 year.natAbs else padded 4 year.toNat

-- Writes the instant in UTC, to the second.
def render (t : Timestamp) : String :=
  let days := t.seconds / 86400
  let second := (t.seconds % 86400).toNat
  let date := Date.ofDays days
  s!"{renderYear date.year}-{padded 2 date.month}-{padded 2 date.day}T"
    ++ s!"{padded 2 (second / 3600)}:{padded 2 (second / 60 % 60)}:{padded 2 (second % 60)}Z"

end Timestamp

end Rollout
