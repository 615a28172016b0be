/-!
Texts in the encodings of the character standard. Bytes that encode nothing become replacement
characters: in bytes of eight bits one for the longest start of a character that is cut off, in
units of sixteen bits one for each unit without its partner.
-/

namespace DocPath.Charset

def replacement : Char := '\ufffd'

/-- What follows the start of a character of several bytes: how many bytes, the value of the ones
before them, and the bounds of the next one. -/
structure Pending where
  needed : Nat
  value : Nat
  low : Nat
  high : Nat

def firstByte (b : Nat) : List Char × Option Pending :=
  if b < 0x80 then ([Char.ofNat b], none)
  else if 0xC2 ≤ b && b ≤ 0xDF then ([], some ⟨1, b - 0xC0, 0x80, 0xBF⟩)
  else if b = 0xE0 then ([], some ⟨2, 0, 0xA0, 0xBF⟩)
  else if b = 0xED then ([], some ⟨2, 0xD, 0x80, 0x9F⟩)
  else if 0xE1 ≤ b && b ≤ 0xEF then ([], some ⟨2, b - 0xE0, 0x80, 0xBF⟩)
  else if b = 0xF0 then ([], some ⟨3, 0, 0x90, 0xBF⟩)
  else if 0xF1 ≤ b && b ≤ 0xF3 then ([], some ⟨3, b - 0xF0, 0x80, 0xBF⟩)
  else if b = 0xF4 then ([], some ⟨3, 4, 0x80, 0x8F⟩)
  else ([replacement], none)

def utf8From : Option Pending → List UInt8 → List Char
  | none, [] => []
  | some _, [] => [replacement]
  | none, b :: bs =>
    let (cs, p) := firstByte b.toNat
    cs ++ utf8From p bs
  | some p, b :: bs =>
    let n := b.toNat
    if p.low ≤ n && n ≤ p.high then
      let value := p.value * 64 + (n - 0x80)
      if p.needed = 1 then Char.ofNat value :: utf8From none bs
      else utf8From (some ⟨p.needed - 1, value, 0x80, 0xBF⟩) bs
    else
      let (cs, q) := firstByte n
      replacement :: (cs ++ utf8From q bs)

def decodeUtf8 (bs : List UInt8) : List Char := utf8From none bs

def singleUnit (n : Nat) : List Char × Option Nat :=
  if 0xD800 ≤ n && n < 0xDC00 then ([], some n)
  else if 0xDC00 ≤ n && n < 0xE000 then ([replacement], none)
  else ([Char.ofNat n], none)

/-- Text in units of sixteen bits, each written with its high byte first or last; `first` is the
first half of a pair. -/
def utf16From (bigEndian : Bool) : Option Nat → List UInt8 → List Char
  | none, [] => []
  | some _, [] => [replacement]
  | _, [_] => [replacement]
  | first, a :: b :: bs =>
    let n := if bigEndian then a.toNat * 256 + b.toNat else b.toNat * 256 + a.toNat
    match first with
    | some high =>
      if 0xDC00 ≤ n && n < 0xE000 then
        Char.ofNat (0x10000 + (high - 0xD800) * 0x400 + (n - 0xDC00)) :: utf16From bigEndian none bs
      else
        let (cs, next) := singleUnit n
        replacement :: (cs ++ utf16From bigEndian next bs)
    | none =>
      let (cs, next) := singleUnit n
      cs ++ utf16From bigEndian next bs

def decodeUtf16 (bigEndian : Bool) (bs : List UInt8) : List Char := utf16From bigEndian none bs

end DocPath.Charset
