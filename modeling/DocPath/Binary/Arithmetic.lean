import DocPath.Binary.Basic

/-!
Arithmetic of binary floating point numbers: every operation is the exact result on the
significands, rounded once.
-/

namespace DocPath.Binary

open scoped NatPower
variable {f : Format}

/-- An operation without a result; an operand that is not a number is passed on. -/
def invalid (x y : Binary f) : Binary f :=
  if x.isNaN then x else if y.isNaN then y else nan true

/-- A signed whole number times a power of two; `negativeZero` is the sign of a zero. -/
def ofInteger (n : Int) (q : Int) (negativeZero : Bool) : Binary f :=
  if n = 0 then zero negativeZero else ofScaled (decide (n < 0)) n.natAbs q

def signed (negative : Bool) (m : Nat) : Int := if negative then -(m : Int) else m

def significandAt (x : Binary f) (q : Int) : Nat :=
  x.significand * 2 ^ (x.exponent - q).toNat

protected def add (x y : Binary f) : Binary f :=
  if x.isNaN || y.isNaN then invalid x y
  else if x.isInfinite then
    if y.isInfinite && x.negative != y.negative then invalid x y else x
  else if y.isInfinite then y
  else
    let q := min x.exponent y.exponent
    ofInteger (signed x.negative (x.significandAt q) + signed y.negative (y.significandAt q)) q
      (x.negative && y.negative)

protected def sub (x y : Binary f) : Binary f :=
  if y.isNaN then invalid x y else x.add y.neg

protected def mul (x y : Binary f) : Binary f :=
  let negative := x.negative != y.negative
  if x.isNaN || y.isNaN then invalid x y
  else if x.isInfinite || y.isInfinite then
    if x.magnitude = 0 || y.magnitude = 0 then invalid x y else infinity negative
  else ofScaled negative (x.significand * y.significand) (x.exponent + y.exponent)

protected def div (x y : Binary f) : Binary f :=
  let negative := x.negative != y.negative
  if x.isNaN || y.isNaN then invalid x y
  else if x.isInfinite then
    if y.isInfinite then invalid x y else infinity negative
  else if y.isInfinite then zero negative
  else if y.magnitude = 0 then
    if x.magnitude = 0 then invalid x y else infinity negative
  else
    let q := x.exponent - y.exponent
    ofRatio negative (x.significand * 2 ^ q.toNat) (y.significand * 2 ^ (-q).toNat)

/-- The remainder of the division truncated toward zero; it has the sign of the dividend. -/
protected def rem (x y : Binary f) : Binary f :=
  if x.isNaN || y.isNaN then invalid x y
  else if x.isInfinite || y.magnitude = 0 then invalid x y
  else if y.isInfinite then x
  else
    let q := min x.exponent y.exponent
    ofScaled x.negative (x.significandAt q % y.significandAt q) q

/-- The nearest whole number, a half away from zero. -/
def round (x : Binary f) : Binary f :=
  if x.isFinite && x.exponent < 0 then
    let den := 2 ^ (-x.exponent).toNat
    ofRatio x.negative ((2 * x.significand + den) / (2 * den)) 1
  else x

def power (x : Binary f) (n : Nat) : Binary f :=
  go n n x (ofInt 1)
where
  go : Nat → Nat → Binary f → Binary f → Binary f
    | 0, _, _, r => r
    | fuel + 1, n, x, r =>
      let r := if n % 2 = 1 then r.mul x else r
      if n / 2 = 0 then r else go fuel (n / 2) (x.mul x) r

end DocPath.Binary
