import DocPath.Binary.Arithmetic
import DocPath.Binary.Basic
import DocPath.Decimal.Basic
import DocPath.Json.Basic
import DocPath.Number.Basic

/-!
Objects of a known shape, and the numbers in their fields. A record has named fields, each of a
shape of its own; an optional field may be absent. The significand of a fraction has as many digits
as fit 64 bits; it is multiplied or divided by one power of ten, so that its last bit may differ
from that of the nearest number.
-/

namespace DocPath

open scoped NatPower

inductive Shape where
  /-- Whole numbers of some bits, with or without a sign. -/
  | word (signed : Bool) (bits : Nat)
  | float
  | double
  | decimal
  | bool
  | char
  | string
  /-- Any document at all. -/
  | any
  | option (s : Shape)
  | list (s : Shape)
  | map (s : Shape)
  | record (fields : List (String × Shape))
  deriving Inhabited

/-- An object; what its parts are called is known from its shape. -/
inductive Object where
  | word (n : Int)
  | float (x : Binary32)
  | double (x : Binary64)
  | decimal (d : Decimal)
  | bool (b : Bool)
  | char (c : Char)
  | string (s : String)
  | any (j : Json)
  | option (o : Option Object)
  | list (os : List Object)
  | map (entries : List (String × Object))
  | record (values : List Object)
  deriving Inhabited

namespace Shape

def wordHolds (signed : Bool) (bits : Nat) (n : Int) : Bool :=
  if signed then -(2 ^ (bits - 1) : Nat) ≤ n && n < (2 ^ (bits - 1) : Nat)
  else 0 ≤ n && n < (2 ^ bits : Nat)

def absent? : Shape → Option Object
  | .option _ => some (.option none)
  | _ => none

end Shape

/-- Digits put behind a number as long as it stays below `2 ^ 64`, with the count of those put. -/
def appendDigits : Nat → List Char → Nat × Nat
  | n, [] => (n, 0)
  | n, c :: cs =>
    let m := 10 * n + digitValue c
    if m < 2 ^ (64 : Nat) then
      let (k, count) := appendDigits m cs
      (k, count + 1)
    else (n, 0)

def binaryPower (n : Nat) : Binary64 := .ofRatio false (10 ^ n) 1

/-- A number times a power of ten. In each of at most `n` steps it is divided by `10 ^ 308`. -/
def scaleByTen : Nat → Binary64 → Int → Option Binary64
  | 0, x, _ => some x
  | n + 1, x, e =>
    if e.natAbs ≤ 308 then
      if 0 ≤ e then
        let y := Binary.mul x (binaryPower e.natAbs)
        if y.isFinite then some y else none
      else some (Binary.div x (binaryPower e.natAbs))
    else if x.magnitude = 0 then some x
    else if 0 ≤ e then none
    else scaleByTen n (Binary.div x (binaryPower 308)) (e + 308)

structure NumberParts where
  negative : Bool
  whole : List Char
  fraction : List Char
  /-- The exponent, if the text has one. -/
  exponent : Option Int

def NumberParts.ofText (text : String) : NumberParts :=
  let (negative, cs) := match text.toList with
    | '-' :: cs => (true, cs)
    | cs => (false, cs)
  let rest := cs.dropWhile isDigit
  let (fraction, rest) := match rest with
    | '.' :: r => (r.takeWhile isDigit, r.dropWhile isDigit)
    | r => ([], r)
  ⟨negative, cs.takeWhile isDigit, fraction,
    if rest.isEmpty then none else Binary.readExponent? rest⟩

/-- The whole number of parts without fraction and exponent, if 64 bits hold it. A negative zero is
no whole number. -/
def NumberParts.word? (p : NumberParts) : Option Int :=
  let (n, count) := appendDigits 0 p.whole
  if !p.fraction.isEmpty || p.exponent.isSome || count < p.whole.length then none
  else if !p.negative then some n
  else if n = 0 || 2 ^ (63 : Nat) < n then none
  else some (-(n : Int))

def NumberParts.binary? (p : NumberParts) : Option Binary64 :=
  let (n, count) := appendDigits 0 p.whole
  let (n, places) := appendDigits n p.fraction
  let exponent := p.exponent.getD 0
  let result : Option Binary64 :=
    if 2 ^ (31 : Nat) ≤ exponent then if n = 0 then some (.zero false) else none
    else if exponent ≤ -(2 ^ (31 : Nat)) then some (.zero false)
    else scaleByTen 4 (.ofInt n) (exponent + ((p.whole.length - count : Nat) : Int) - places)
  result.map fun x => if p.negative then Binary.neg x else x

def fieldDouble? (text : String) : Option Binary64 :=
  let p := NumberParts.ofText text
  match p.word? with
  | some n => some (.ofInt n)
  | none => p.binary?

/-- A field in single precision; a fraction is rounded twice. -/
def fieldFloat? (text : String) : Option Binary32 :=
  let p := NumberParts.ofText text
  match p.word? with
  | some n => some (.ofInt n)
  | none => p.binary?.map fun x => x.convert .single

end DocPath
