import DocPath.Text.Basic

/-!
Binary floating point numbers of a fixed format, kept as a sign and the encoded magnitude.
Magnitudes of one format are ordered as the absolute values they stand for, infinity comes
after every finite one and the numbers beyond it are not numbers.
`Format.encode` rounds an exact ratio to the nearest magnitude, a half to the even one.
-/

namespace DocPath

open scoped NatPower

/-- A quotient rounded to the nearest whole number, a half to the even neighbour. -/
def roundEven (num den : Nat) : Nat :=
  let q := num / den
  let r := num % den
  if den < 2 * r ∨ (2 * r = den ∧ q % 2 = 1) then q + 1 else q

/-- A binary format, given by the widths of its stored fraction and of its exponent. -/
structure Binary.Format where
  fractionBits : Nat
  exponentBits : Nat
  deriving DecidableEq, Repr

namespace Binary

def Format.single : Format := ⟨23, 8⟩

def Format.double : Format := ⟨52, 11⟩

def Format.top (f : Format) : Nat :=
  (2 ^ f.exponentBits - 1) * 2 ^ f.fractionBits

def Format.minExponent (f : Format) : Int :=
  2 - (2 ^ (f.exponentBits - 1) : Nat) - f.fractionBits

def floorLog2 (num den : Nat) : Int :=
  let e : Int := (num.log2 : Int) - den.log2
  if num * 2 ^ (-e).toNat < den * 2 ^ e.toNat then e - 1 else e

def Format.encode (f : Format) (num den : Nat) : Nat :=
  if num = 0 then 0
  else
    let q := max f.minExponent (floorLog2 num den - f.fractionBits)
    let m := roundEven (num * 2 ^ (-q).toNat) (den * 2 ^ q.toNat)
    min f.top ((q - f.minExponent).toNat * 2 ^ f.fractionBits + m)

end Binary

/-- A binary floating point number; the sign of a number that is not a number is kept too. -/
structure Binary (f : Binary.Format) where
  negative : Bool
  magnitude : Nat
  deriving DecidableEq, Repr

abbrev Binary32 := Binary .single

abbrev Binary64 := Binary .double

namespace Binary
variable {f : Format}

instance : Inhabited (Binary f) := ⟨⟨false, 0⟩⟩

def zero (negative : Bool) : Binary f := ⟨negative, 0⟩

def infinity (negative : Bool) : Binary f := ⟨negative, f.top⟩

def nan (negative : Bool) : Binary f := ⟨negative, f.top + 2 ^ (f.fractionBits - 1)⟩

def isNaN (x : Binary f) : Bool := decide (f.top < x.magnitude)

def isInfinite (x : Binary f) : Bool := decide (x.magnitude = f.top)

def isFinite (x : Binary f) : Bool := decide (x.magnitude < f.top)

def significand (x : Binary f) : Nat :=
  if x.magnitude < 2 ^ f.fractionBits then x.magnitude
  else x.magnitude % 2 ^ f.fractionBits + 2 ^ f.fractionBits

def exponent (x : Binary f) : Int :=
  f.minExponent + (x.magnitude / 2 ^ f.fractionBits - 1 : Nat)

def ofRatio (negative : Bool) (num den : Nat) : Binary f :=
  ⟨negative, f.encode num den⟩

def ofScaled (negative : Bool) (m : Nat) (q : Int) : Binary f :=
  ofRatio negative (m * 2 ^ q.toNat) (2 ^ (-q).toNat)

def ofInt (n : Int) : Binary f :=
  ofRatio (decide (n < 0)) n.natAbs 1

protected def neg (x : Binary f) : Binary f := ⟨!x.negative, x.magnitude⟩

protected def abs (x : Binary f) : Binary f := ⟨false, x.magnitude⟩

def convert (g : Format) (x : Binary f) : Binary g :=
  if x.isNaN then .nan x.negative
  else if x.isInfinite then .infinity x.negative
  else .ofScaled x.negative x.significand x.exponent

/-- The place of a number in the order of its signed magnitude; the two zeros differ. -/
def orderKey (x : Binary f) : Int :=
  if x.negative then -(x.magnitude : Int) - 1 else x.magnitude

def totalCompare (x y : Binary f) : Ordering :=
  compare x.orderKey y.orderKey

/-- Equality of arithmetic: zeros are equal and a number that is not a number equals nothing. -/
def numEq (x y : Binary f) : Bool :=
  !x.isNaN && !y.isNaN && (x == y || (x.magnitude == 0 && y.magnitude == 0))

/-- The whole number toward zero, kept within the signed words of `bits` bits; zero if there is
none. -/
def truncClamped (bits : Nat) (x : Binary f) : Int :=
  if x.isNaN then 0
  else
    let limit : Nat := 2 ^ (bits - 1)
    let whole : Nat :=
      if x.isInfinite then limit
      else x.significand * 2 ^ x.exponent.toNat / 2 ^ (-x.exponent).toNat
    if x.negative then -(min whole limit : Nat) else (min whole (limit - 1) : Nat)

@[simp] theorem neg_neg (x : Binary f) : x.neg.neg = x := by
  simp [Binary.neg]

theorem orderKey_inj {x y : Binary f} : x.orderKey = y.orderKey ↔ x = y := by
  obtain ⟨nx, mx⟩ := x
  obtain ⟨ny, my⟩ := y
  cases nx <;> cases ny <;> simp [orderKey] <;> omega

end Binary
end DocPath
