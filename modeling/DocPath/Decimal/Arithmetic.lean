import DocPath.Binary.Arithmetic
import DocPath.Decimal.Basic

/-!
Arithmetic of decimal numbers. A sum keeps the larger scale and a product adds the scales, as
far as they fit; a quotient has as many digits as fit, without zeros at its end. There is no
result where the whole part does not fit.
-/

namespace DocPath.Decimal

open scoped NatPower

/-- The sign of a difference of equal values.
It is that of the first operand, unless the first has the larger scale and the alignment
does not fit 32 bits. -/
def differenceSign (a b : Decimal) : Bool :=
  let word := 2 ^ (32 : Nat)
  let low := if b.scale < a.scale then b else a
  let narrow := a.coefficient < word && b.coefficient < word &&
    low.coefficient * 10 ^ (max a.scale b.scale - low.scale) < word &&
    max a.scale b.scale - low.scale ≤ 9
  if b.scale < a.scale && !narrow then !a.negative else a.negative

def sum? (a b : Decimal) : Option Decimal :=
  let scale := max a.scale b.scale
  let x := a.coefficient * 10 ^ (scale - a.scale)
  let y := b.coefficient * 10 ^ (scale - b.scale)
  if a.negative = b.negative then fit a.negative (x + y) scale
  else if x = y then ofParts? (differenceSign a b) 0 scale
  else if y < x then fit a.negative (x - y) scale
  else fit b.negative (y - x) scale

/-- A zero leaves the other operand as it is written. -/
def add? (a b : Decimal) : Option Decimal :=
  if a.isZero then some b else if b.isZero then some a else sum? a b

def sub? (a b : Decimal) : Option Decimal :=
  if a.isZero then some (if b.isZero then b else b.neg)
  else if b.isZero then some a
  else sum? a b.neg

/-- A product of short coefficients with more than 47 fraction digits is a plain zero. -/
def mul? (a b : Decimal) : Option Decimal :=
  let scale := a.scale + b.scale
  if a.isZero || b.isZero then some zero
  else if a.coefficient < 2 ^ (32 : Nat) && b.coefficient < 2 ^ (32 : Nat) && 47 < scale then
    some zero
  else fit (a.negative != b.negative) (a.coefficient * b.coefficient) scale

def div? (a b : Decimal) : Option Decimal :=
  let num (s : Nat) := a.coefficient * 10 ^ (s + b.scale)
  let den := b.coefficient * 10 ^ a.scale
  if a.isZero then some zero
  else
    let places := (List.range (maxScale + 1)).reverse.find? fun s => num s / den < limit
    places.bind fun s =>
      let m := roundEven (num s) den
      let negative := a.negative != b.negative
      let result :=
        if m < limit then ofUnsignedZero? negative m s
        else if s = 0 then none
        else ofUnsignedZero? negative (roundEven m 10) (s - 1)
      result.map normalize

def rem? (a b : Decimal) : Option Decimal :=
  let scale := max a.scale b.scale
  let x := a.coefficient * 10 ^ (scale - a.scale)
  let y := b.coefficient * 10 ^ (scale - b.scale)
  if a.isZero || x = y then some zero
  else if x < y then some a
  else ofUnsignedZero? a.negative (x % y) scale

/-- The binary number for a decimal one.
The fraction is rounded to the scale of the decimal after the parts are added. -/
def toBinary64 (d : Decimal) : Binary64 :=
  let sign (x : Binary64) : Binary64 := if d.negative then x.neg else x
  let unit := 10 ^ d.scale
  if d.scale = 0 then Binary.ofInt d.signed
  else
    let whole : Binary64 := Binary.ofInt (d.coefficient / unit : Nat)
    let fraction : Binary64 :=
      (Binary.ofInt (d.coefficient % unit : Nat)).div (Binary.ofInt (unit : Nat))
    if fraction.magnitude = 0 then sign whole
    else
      let power := (Binary.ofInt 10 : Binary64).power d.scale
      sign ((((whole.add fraction).mul power).round).div power)

/-- Moves twos from a power into a coefficient: as a factor while the coefficient has room, else as
a fifth and a factor of ten. The factors of ten are counted. -/
def moveTwos : Nat → Nat → Nat → Nat × Nat
  | 0, coefficient, tens => (coefficient, tens)
  | twos + 1, coefficient, tens =>
    if coefficient < 2 ^ (95 : Nat) then moveTwos twos (2 * coefficient) tens
    else moveTwos twos (coefficient / 5) (tens + 1)

/-- The decimal for a double whose digits are too large to be one; only the first double beyond the
decimals has such a decimal, a smaller one. -/
def ofLarge? (x : Binary64) : Option Decimal :=
  if x.isFinite && 0 ≤ x.exponent then
    let (coefficient, tens) := moveTwos x.exponent.toNat x.significand 0
    ofUnsignedZero? x.negative (coefficient * 10 ^ tens) 0
  else none

end DocPath.Decimal
