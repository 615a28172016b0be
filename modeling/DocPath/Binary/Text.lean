import DocPath.Binary.Basic
import DocPath.Text.Basic

/-!
The text of binary floating point numbers. `shortest` finds the fewest decimal digits that
read back to a number and, of those, the nearest; `plain` writes them without an exponent and
`read?` reads decimal text, rounding once. In documents a number is positional in a middle range of
magnitudes and has an exponent outside of it.
-/

namespace DocPath

open scoped NatPower

/-- Decimal digits with a power of ten: `digits * 10 ^ exponent`. -/
structure Digits where
  digits : Nat
  exponent : Int
  deriving DecidableEq, Repr

namespace Digits

def strip (d : Digits) : Digits :=
  go (decimalDigits d.digits).length d
where
  go : Nat → Digits → Digits
    | 0, d => d
    | k + 1, d =>
      if d.digits ≠ 0 ∧ d.digits % 10 = 0 then go k ⟨d.digits / 10, d.exponent + 1⟩ else d

/-- Positional text: a point appears only before a digit of the fraction. -/
def plain (d : Digits) : List Char :=
  let cs := decimalDigits d.digits
  if 0 ≤ d.exponent then
    if d.digits = 0 then cs else cs ++ List.replicate d.exponent.toNat '0'
  else
    let places := (-d.exponent).toNat
    let padded := List.replicate (places + 1 - cs.length) '0' ++ cs
    padded.take (padded.length - places) ++ '.' :: padded.drop (padded.length - places)

end Digits

namespace Binary
variable {f : Format}

/-- The power of ten above a positive ratio: the least `k` with `num / den < 10 ^ k`. -/
def decimalOrder (num den : Nat) : Int :=
  let guess := (floorLog2 num den * 30103) / 100000 + 1
  let below (k : Int) : Bool := decide (num * 10 ^ (-k).toNat < den * 10 ^ k.toNat)
  if below guess then (if below (guess - 1) then guess - 1 else guess) else guess + 1

/-- Which of two equally near digit strings is taken. -/
inductive Tie where
  | up
  | even
  deriving DecidableEq, Repr

/-- The fewest digits in the interval that rounds to a finite nonzero number, nearest to it. -/
def shortest (tie : Tie) (x : Binary f) : Digits :=
  let m := x.significand
  let q := x.exponent - 2
  let shift := 2 ^ q.toNat
  let den := 2 ^ (-q).toNat
  let lowGap := if m = 2 ^ f.fractionBits ∧ f.minExponent < x.exponent then 1 else 2
  let value := 4 * m * shift
  let low := (4 * m - lowGap) * shift
  let high := (4 * m + 2) * shift
  let closed := m % 2 = 0
  let order := decimalOrder value den
  let candidate (places : Nat) : Option Digits :=
    let e := order - places
    let up := 10 ^ e.toNat
    let down := 10 ^ (-e).toNat
    let scaled (n : Nat) : Nat := n * down
    let grid (c : Nat) : Nat := c * up * den
    let inside (c : Nat) : Bool :=
      if closed then decide (scaled low ≤ grid c ∧ grid c ≤ scaled high)
      else decide (scaled low < grid c ∧ grid c < scaled high)
    let c := scaled value / (up * den)
    let below := scaled value - grid c
    let above := grid (c + 1) - scaled value
    let upper : Bool := decide (above < below) || (above == below && (tie == .up || c % 2 == 1))
    if inside c && inside (c + 1) then some ⟨if upper then c + 1 else c, e⟩
    else if inside c then some ⟨c, e⟩
    else if inside (c + 1) then some ⟨c + 1, e⟩
    else none
  let exact : Digits := ⟨x.significand * 2 ^ x.exponent.toNat, 0⟩
  (((List.range 17).findSome? fun n => candidate (n + 1)).getD exact).strip

def toText (x : Binary f) : String :=
  if x.isNaN then "NaN"
  else
    let sign := if x.negative then "-" else ""
    if x.isInfinite then sign ++ "inf"
    else if x.magnitude = 0 then sign ++ "0"
    else sign ++ String.ofList (x.shortest .up).plain

/-- The number nearest to `± n * 10 ^ e`, settled by its order of magnitude where that is enough. -/
def ofDecimal (negative : Bool) (n : Nat) (e : Int) : Binary f :=
  let order := (decimalDigits n).length + e
  let bound : Int := (2 ^ f.exponentBits : Nat)
  if n = 0 then zero negative
  else if bound < order then infinity negative
  else if order < -bound then zero negative
  else ofRatio negative (n * 10 ^ e.toNat) (10 ^ (-e).toNat)

def lowerAscii (cs : List Char) : List Char := cs.map Char.toLower

def readExponent? : List Char → Option Int
  | [] => some 0
  | c :: cs =>
    if c = 'e' || c = 'E' then
      let (negative, ds) := match cs with
        | '-' :: ds => (true, ds)
        | '+' :: ds => (false, ds)
        | ds => (false, ds)
      if ds.isEmpty || !ds.all isDigit then none
      else some (if negative then -(numeral ds : Int) else numeral ds)
    else none

def readUnsigned? (negative : Bool) (cs : List Char) : Option (Binary f) :=
  let whole := cs.takeWhile isDigit
  let rest := cs.dropWhile isDigit
  let (fraction, rest) := match rest with
    | '.' :: r => (r.takeWhile isDigit, r.dropWhile isDigit)
    | r => ([], r)
  if whole.isEmpty && fraction.isEmpty then none
  else (readExponent? rest).map fun e =>
    ofDecimal negative (numeral (whole ++ fraction)) (e - fraction.length)

def read? (text : String) : Option (Binary f) :=
  let (negative, cs) := match text.toList with
    | '-' :: cs => (true, cs)
    | '+' :: cs => (false, cs)
    | cs => (false, cs)
  let word := String.ofList (lowerAscii cs)
  if word = "inf" || word = "infinity" then some (infinity negative)
  else if word = "nan" then some (nan negative)
  else readUnsigned? negative cs

/-- The decimal orders between which a number is written positionally. -/
structure Layout where
  above : Int
  upTo : Int

/-- Double precision is positional from `1e-5` up to, but not at, `1e16`. -/
def Layout.double : Layout := ⟨-5, 16⟩

/-- Single precision is positional from `1e-6` up to, but not at, `1e13`. -/
def Layout.single : Layout := ⟨-6, 13⟩

def scientific (d : Digits) : List Char :=
  let cs := decimalDigits d.digits
  let e := d.exponent + cs.length - 1
  let point := match cs.drop 1 with
    | [] => []
    | rest => '.' :: rest
  cs.take 1 ++ point ++ 'e' :: (if e < 0 then '-' else '+') :: decimalDigits e.natAbs

def layOut (l : Layout) (x : Binary f) : List Char :=
  let sign := if x.negative then ['-'] else []
  if x.magnitude = 0 then sign ++ "0.0".toList
  else
    let d := x.shortest .even
    let order := (decimalDigits d.digits).length + d.exponent
    sign ++
      if l.above < order ∧ order ≤ l.upTo then
        if 0 ≤ d.exponent then d.plain ++ ['.', '0'] else d.plain
      else scientific d

end Binary

end DocPath
