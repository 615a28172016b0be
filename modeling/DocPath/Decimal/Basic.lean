import DocPath.Binary.Basic

/-!
Decimal numbers with a coefficient of 96 bits and up to 28 fraction digits. The scale is part
of a number, so `1.50` and `1.5` differ although they stand for the same value, and a zero keeps
its sign. A result that does not fit is shortened by the fewest digits that make it fit, a half
rounded to the even coefficient; if no fraction digit is left to drop there is no result.
-/

namespace DocPath

open scoped NatPower

/-- A signed coefficient over a power of ten. -/
structure Decimal where
  negative : Bool
  coefficient : Nat
  scale : Nat
  coefficient_lt : coefficient < 2 ^ (96 : Nat) := by decide
  scale_le : scale ≤ 28 := by decide
  deriving DecidableEq, Repr

namespace Decimal

def limit : Nat := 2 ^ (96 : Nat)

def maxScale : Nat := 28

def zero : Decimal := ⟨false, 0, 0, by decide, by decide⟩

instance : Inhabited Decimal := ⟨zero⟩

def ofParts? (negative : Bool) (coefficient scale : Nat) : Option Decimal :=
  if h : coefficient < 2 ^ (96 : Nat) ∧ scale ≤ 28 then
    some ⟨negative, coefficient, scale, h.1, h.2⟩
  else none

/-- A number from its parts, without a sign on zero. -/
def ofUnsignedZero? (negative : Bool) (coefficient scale : Nat) : Option Decimal :=
  ofParts? (negative && coefficient != 0) coefficient scale

def ofInt? (n : Int) : Option Decimal :=
  ofUnsignedZero? (decide (n < 0)) n.natAbs 0

theorem ofInt64_bound (n : Int64) : n.toInt.natAbs < 2 ^ (96 : Nat) := by
  have h1 := n.toInt_lt
  have h2 := n.le_toInt
  omega

def ofInt64 (n : Int64) : Decimal :=
  ⟨decide (n.toInt < 0), n.toInt.natAbs, 0, ofInt64_bound n, by decide⟩

def isZero (d : Decimal) : Bool := d.coefficient == 0

protected def neg (d : Decimal) : Decimal := { d with negative := !d.negative }

protected def abs (d : Decimal) : Decimal := { d with negative := false }

def signed (d : Decimal) : Int :=
  if d.negative then -(d.coefficient : Int) else d.coefficient

protected def compare (a b : Decimal) : Ordering :=
  compare (a.signed * 10 ^ b.scale) (b.signed * 10 ^ a.scale)

def truncate (d : Decimal) : Int :=
  let whole : Nat := d.coefficient / 10 ^ d.scale
  if d.negative then -(whole : Int) else whole

def excess (n : Nat) : Nat :=
  ((List.range 30).find? fun k => n / 10 ^ k < limit).getD 30

/-- A number with as many of its fraction digits as fit. -/
def fit (negative : Bool) (n scale : Nat) : Option Decimal :=
  let k := max (excess n) (scale - maxScale)
  if scale < k then none
  else
    let m := roundEven n (10 ^ k)
    if m < limit then ofUnsignedZero? negative m (scale - k)
    else if scale = k then none
    else ofUnsignedZero? negative (roundEven m 10) (scale - k - 1)

/-- Drops the zeros at the end of the fraction; a zero loses its scale and sign. -/
def normalize (d : Decimal) : Decimal :=
  if d.coefficient = 0 then zero else go d.scale d
where
  go : Nat → Decimal → Decimal
    | 0, d => d
    | k + 1, d =>
      if d.coefficient % 10 = 0 ∧ d.scale ≠ 0 then
        go k ⟨d.negative, d.coefficient / 10, d.scale - 1,
          Nat.lt_of_le_of_lt (Nat.div_le_self ..) d.coefficient_lt,
          Nat.le_trans (Nat.sub_le ..) d.scale_le⟩
      else d

def withScale? (d : Decimal) (scale : Nat) : Option Decimal :=
  ofParts? d.negative d.coefficient scale

@[simp] theorem neg_coefficient (d : Decimal) : d.neg.coefficient = d.coefficient := rfl

@[simp] theorem neg_scale (d : Decimal) : d.neg.scale = d.scale := rfl

@[simp] theorem neg_neg (d : Decimal) : d.neg.neg = d := by
  simp [Decimal.neg]

theorem compare_self (d : Decimal) : d.compare d = .eq := by
  simp [Decimal.compare]

end Decimal
end DocPath
