namespace Rollout

-- How texts are kept as bytes.
namespace Encoding

-- Pairs of bytes as numbers of 16 bits; none when a byte is left over.
def units? (bigEndian : Bool) : List UInt8 → Option (List Nat)
  | [] => some []
  | [_] => none
  | a :: b :: rest =>
    let unit := if bigEndian then 256 * a.toNat + b.toNat else 256 * b.toNat + a.toNat
    (units? bigEndian rest).map (unit :: ·)

def isHigh (unit : Nat) : Bool := 0xD800 ≤ unit && unit < 0xDC00

def isLow (unit : Nat) : Bool := 0xDC00 ≤ unit && unit < 0xE000

-- The characters of 16-bit units, of which a high and a low one together make a character.
def chars? : List Nat → Option (List Char)
  | [] => some []
  | high :: low :: rest =>
    if isHigh high then
      if isLow low then
        let code := 0x10000 + 0x400 * (high - 0xD800) + (low - 0xDC00)
        (chars? rest).map (Char.ofNat code :: ·)
      else none
    else if isLow high then none
    else (chars? (low :: rest)).map (Char.ofNat high :: ·)
  | [unit] => if isHigh unit || isLow unit then none else some [Char.ofNat unit]

-- The text of some bytes, which a mark in front may say to be of 16-bit units.
def text? (bytes : ByteArray) : Option String :=
  match bytes.toList with
  | 0xFF :: 0xFE :: rest => ((units? false rest).bind chars?).map String.ofList
  | 0xFE :: 0xFF :: rest => ((units? true rest).bind chars?).map String.ofList
  | 0xEF :: 0xBB :: 0xBF :: rest => String.fromUTF8? ⟨rest.toArray⟩
  | _ => String.fromUTF8? bytes

end Encoding

end Rollout
