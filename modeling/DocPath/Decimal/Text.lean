import DocPath.Binary.Text
import DocPath.Decimal.Basic

/-!
The text of decimal numbers. Writing shows every fraction digit of the scale. Reading takes
digits, separators between them and one point; fraction digits beyond the range round the last
kept one and end the reading. An exponent moves the point where the result is in range.
-/

namespace DocPath.Decimal

open scoped NatPower

def toText (d : Decimal) : String :=
  let sign := if d.negative then "-" else ""
  let cs := decimalDigits d.coefficient
  let text :=
    if d.scale = 0 then cs
    else
      let padded := List.replicate (d.scale + 1 - cs.length) '0' ++ cs
      padded.take (padded.length - d.scale) ++ '.' :: padded.drop (padded.length - d.scale)
  sign ++ String.ofList text

structure Reading where
  coefficient : Nat
  scale : Nat
  pointSeen : Bool
  digitSeen : Bool

/-- Ends a reading by rounding at the next character. -/
def Reading.round? (negative : Bool) (r : Reading) (next : Char) : Option Decimal :=
  let digit? :=
    if isDigit next then some (digitValue next)
    else if next = '_' || (next = '.' && r.pointSeen) then some 0
    else none
  digit?.bind fun digit =>
    let m := if 5 ≤ digit then r.coefficient + 1 else r.coefficient
    if m < limit then ofUnsignedZero? negative m r.scale
    else if r.scale = 0 then none
    else ofUnsignedZero? negative ((m + 4) / 10) (r.scale - 1)

def Reading.read? (negative : Bool) (r : Reading) : List Char → Option Decimal
  | [] => if r.digitSeen then ofUnsignedZero? negative r.coefficient r.scale else none
  | c :: cs =>
    if r.pointSeen && maxScale ≤ r.scale then r.round? negative c
    else if isDigit c then
      let m := 10 * r.coefficient + digitValue c
      if m < limit then
        read? negative ⟨m, if r.pointSeen then r.scale + 1 else 0, r.pointSeen, true⟩ cs
      else if r.pointSeen then r.round? negative c
      else none
    else if c = '.' && !r.pointSeen then
      read? negative { r with pointSeen := true } cs
    else if c = '_' && r.digitSeen then read? negative r cs
    else none

def readPlain? (cs : List Char) : Option Decimal :=
  let start : Reading := ⟨0, 0, false, false⟩
  match cs with
  | '-' :: cs => start.read? true cs
  | '+' :: cs => start.read? false cs
  | cs => start.read? false cs

def readScale? (cs : List Char) : Option Nat :=
  let ds := match cs with
    | '+' :: ds => ds
    | ds => ds
  if ds.isEmpty || !ds.all isDigit then none
  else if numeral ds < 2 ^ (32 : Nat) then some (numeral ds) else none

def shiftUp? (d : Decimal) (places : Nat) : Option Decimal :=
  if places ≤ d.scale then d.withScale? (d.scale - places)
  else if maxScale < places then none
  else if d.coefficient = 0 then some zero
  else (fit d.negative (d.coefficient * 10 ^ places) d.scale).map normalize

def readScientific? (base exponent : List Char) : Option Decimal :=
  (readPlain? base).bind fun d =>
    match exponent with
    | '-' :: ds => (readScale? ds).bind fun n => d.withScale? (d.scale + n)
    | ds => (readScale? ds).bind d.shiftUp?

def isExponentMark (c : Char) : Bool := c = 'e' || c = 'E'

def read? (text : String) : Option Decimal :=
  let cs := text.toList
  let base := cs.takeWhile (!isExponentMark ·)
  match cs.dropWhile (!isExponentMark ·) with
  | [] => readPlain? base
  | _ :: exponent => readScientific? base exponent

end DocPath.Decimal
