import Rollout.Json.Number

namespace Rollout

-- The core schema: what the text of a plain scalar stands for.
namespace Scalar

def isNullWord (s : String) : Bool := s == "null" || s == "Null" || s == "NULL" || s == "~"

def boolWord? (s : String) : Option Bool :=
  if s == "true" || s == "True" || s == "TRUE" then some true
  else if s == "false" || s == "False" || s == "FALSE" then some false
  else none

def isSign (c : Char) : Bool := c = '+' || c = '-'

def startsWithSign : List Char → Bool
  | c :: _ => isSign c
  | [] => false

def radixDigit? (radix : Nat) (c : Char) : Option Nat :=
  let digit :=
    if c.isDigit then some (c.toNat - '0'.toNat)
    else if 'a' ≤ c && c ≤ 'f' then some (c.toNat - 'a'.toNat + 10)
    else if 'A' ≤ c && c ≤ 'F' then some (c.toNat - 'A'.toNat + 10)
    else none
  digit.filter (· < radix)

-- One digit at least, and nothing but digits.
def natural? (radix : Nat) : List Char → Option Nat
  | [] => none
  | chars => (chars.mapM (radixDigit? radix)).map fun digits =>
    digits.foldl (fun n d => radix * n + d) 0

def integer? (radix : Nat) : List Char → Option Int
  | '-' :: chars => (natural? radix chars).map fun n => -(n : Int)
  | '+' :: chars => (natural? radix chars).map fun n => (n : Int)
  | chars => (natural? radix chars).map fun n => (n : Int)

-- Digits with a needless zero in front are a text.
def hasLeadingZero (chars : List Char) : Bool :=
  let chars := match chars with
    | c :: rest => if isSign c then rest else chars
    | [] => []
  match chars with
  | '0' :: rest => !rest.isEmpty && rest.all Char.isDigit
  | _ => false

-- A radix other than ten, by the letter that announces it.
def radix? (c : Char) : Option Nat :=
  if c = 'x' then some 16
  else if c = 'o' then some 8
  else if c = 'b' then some 2
  else none

def withinRange (low high : Int) (i : Int) : Bool := low ≤ i && i ≤ high

-- An integer without a minus, up to a bound.
def unsigned? (high : Int) (chars : List Char) : Option Int :=
  let body := match chars with
    | '+' :: rest => rest
    | _ => chars
  let decimal :=
    if startsWithSign body || hasLeadingZero chars then none
    else (integer? 10 body).filter (withinRange 0 high)
  match body with
  | '0' :: c :: digits =>
    match radix? c with
    | some radix =>
      if startsWithSign digits then none
      else ((integer? radix digits).filter (withinRange 0 high)).or decimal
    | none => decimal
  | _ => decimal

-- An integer written with a minus before its radix, from a bound on.
def negative? (low high : Int) (chars : List Char) : Option Int :=
  let decimal :=
    if hasLeadingZero chars then none else (integer? 10 chars).filter (withinRange low high)
  match chars with
  | '-' :: '0' :: c :: digits =>
    match radix? c with
    | some radix => ((integer? radix ('-' :: digits)).filter (withinRange low high)).or decimal
    | none => decimal
  | _ => decimal

def int64? (s : String) : Option Int :=
  let low : Int := -0x8000000000000000
  let high : Int := 0x7FFFFFFFFFFFFFFF
  let chars := s.toList
  match chars with
  | '+' :: rest =>
    if startsWithSign rest then none
    else (unsigned? high chars).or (negative? low high rest)
  | '-' :: _ => negative? low high chars
  | _ => (unsigned? high chars).or (negative? low high chars)

-- A decimal fraction with an optional exponent, rounded to the nearest float;
-- none when it is too large.
def decimal? (chars : List Char) : Option Float :=
  let (negative, chars) := match chars with
    | '-' :: rest => (true, rest)
    | '+' :: rest => (false, rest)
    | _ => (false, chars)
  let (whole, rest) := Digits.scan chars
  let (fraction, rest) := match rest with
    | '.' :: rest => Digits.scan rest
    | _ => ([], rest)
  if whole.isEmpty && fraction.isEmpty then none
  else
    let exponent? : Option Int := match rest with
      | [] => some 0
      | c :: rest =>
        if c = 'e' || c = 'E' then
          match Numeral.scanExponent rest with
          | some ((negative, digits), []) =>
            some (if negative then -(digits.value : Int) else digits.value)
          | _ => none
        else none
    match exponent? with
    | none => none
    | some exponent =>
      let significand := (whole ++ fraction).value
      let exponent := exponent - fraction.length
      let magnitude := (Nat.toDigits 10 significand).length + exponent
      let size :=
        if significand == 0 || magnitude < -400 then some 0
        else if 400 < magnitude then none
        else
          let x := Float.ofScientific significand (exponent < 0) exponent.natAbs
          if x.isInf then none else some x
      size.map fun x => if negative then -x else x

-- A float that is not finite has a word of its own.
def float? (s : String) : Option Float :=
  let chars := s.toList
  let body? := match chars with
    | '+' :: rest => if startsWithSign rest then none else some rest
    | _ => some chars
  match body? with
  | none => none
  | some body =>
    let word := String.ofList body
    if word == ".inf" || word == ".Inf" || word == ".INF" then some (1 / 0)
    else if s == "-.inf" || s == "-.Inf" || s == "-.INF" then some (-1 / 0)
    else if s == ".nan" || s == ".NaN" || s == ".NAN" then some (0 / 0)
    else decimal? body

-- What a scalar stands for where anything may stand.
inductive Meaning where
  | null
  | bool (value : Bool)
  | int (value : Int)
  | wide
  | float (value : Float)
  | text (value : String)

-- An integer in the smallest range that holds it.
def int? (s : String) : Option Meaning :=
  let chars := s.toList
  match (unsigned? 0xFFFFFFFFFFFFFFFF chars).or
      (negative? (-0x8000000000000000) 0x7FFFFFFFFFFFFFFF chars) with
  | some i => some (.int i)
  | none =>
    match (unsigned? 0xFFFFFFFFFFFFFFFFFFFFFFFFFFFFFFFF chars).or
        (negative? (-0x80000000000000000000000000000000) 0x7FFFFFFFFFFFFFFFFFFFFFFFFFFFFFFF
          chars) with
    | some _ => some .wide
    | none => none

def plainMeaning (s : String) : Meaning :=
  if s.isEmpty || isNullWord s then .null
  else
    match boolWord? s with
    | some b => .bool b
    | none =>
      match int? s with
      | some meaning => meaning
      | none =>
        if hasLeadingZero s.toList then .text s
        else
          match float? s with
          | some x => .float x
          | none => .text s

def meaning (s : Scalar) : Except Fault Meaning :=
  match s.tag with
  | some .application => .error .wrongType
  | some .bool =>
    match boolWord? s.text with
    | some b => .ok (.bool b)
    | none => .error .wrongValue
  | some .int =>
    match int? s.text with
    | some meaning => .ok meaning
    | none => .error .wrongValue
  | some .float =>
    match float? s.text with
    | some x => .ok (.float x)
    | none => .error .wrongValue
  | some .null => if isNullWord s.text then .ok .null else .error .wrongValue
  | some .other => .ok (.text s.text)
  | none => .ok (if s.style = .plain then plainMeaning s.text else .text s.text)

-- Whether the scalar may be read as a number or a truth value: plain ones always may,
-- literal blocks when a tag says so.
def readsAs (tag : Tag) (s : Scalar) : Bool :=
  s.style = .plain || (s.style = .literal && s.tag = some tag)

def isBlank (s : Scalar) : Bool := s.style = .plain && s.text.isEmpty

def isAbsent (s : Scalar) : Except Fault Bool :=
  if s.style ≠ .plain then .ok false
  else
    match s.tag with
    | some .null => if isNullWord s.text then .ok true else .error .wrongValue
    | some _ => .ok false
    | none => .ok (s.text.isEmpty || isNullWord s.text)

end Scalar

end Rollout
