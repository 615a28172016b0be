import DocPath.Binary.Text
import DocPath.Decimal.Arithmetic
import DocPath.Decimal.Text
import DocPath.Json.Basic

/-!
Numbers of documents and expressions. A number keeps the representation it was read or computed
in. Whole numbers take the narrowest of 32 bits, 64 bits and a decimal of scale zero; fractions
are read as the policy says. A number of a document out of the range of decimals keeps its text.
-/

namespace DocPath

open scoped NatPower

inductive Number where
  | int (n : Int32)
  | long (n : Int64)
  | bigInteger (d : Decimal)
  | float (x : Binary32)
  | double (x : Binary64)
  | bigDecimal (d : Decimal)
  | exact (text : String)
  deriving DecidableEq, Repr

inductive NumberPolicy where
  /-- Fractions are single precision where that keeps them finite and nonzero, else double. -/
  | floatAndDouble
  /-- Fractions are decimals. -/
  | bigDecimal
  /-- Fractions are double precision. -/
  | double
  /-- Every whole number is a decimal of scale zero; fractions are as in the first policy. -/
  | bigInteger
  deriving DecidableEq, Repr

/-- Whether fractions are binary and whole numbers narrow. -/
def NumberPolicy.isFloatOrDouble (p : NumberPolicy) : Bool :=
  p = .floatAndDouble || p = .double

def readInteger? (cs : List Char) : Option Int :=
  let (negative, ds) := match cs with
    | '-' :: ds => (true, ds)
    | '+' :: ds => (false, ds)
    | ds => (false, ds)
  if ds.isEmpty || !ds.all isDigit then none
  else some (if negative then -(numeral ds : Int) else numeral ds)

def readWord? (bits : Nat) (cs : List Char) : Option Int :=
  (readInteger? cs).filter fun n => -(2 ^ (bits - 1) : Nat) ≤ n && n < (2 ^ (bits - 1) : Nat)

namespace Number

instance : Inhabited Number := ⟨.int 0⟩

def hasFractionMark (text : String) : Bool :=
  text.toList.any fun c => c = '.' || c = 'e' || c = 'E'

def ofIntegerText? (text : String) : Option Number :=
  match readWord? 32 text.toList with
  | some n => some (.int (Int32.ofInt n))
  | none =>
    match readWord? 64 text.toList with
    | some n => some (.long (Int64.ofInt n))
    | none => ((Decimal.read? text).filter (·.scale == 0)).map .bigInteger

/-- A single precision number unless it is infinite or a zero that the double is not. -/
def ofBinaryText? (text : String) : Option Number :=
  match (Binary.read? text : Option Binary64), (Binary.read? text : Option Binary32) with
  | some d, some f =>
    if f.isFinite && (f.magnitude != 0 || d.magnitude == 0) then some (.float f)
    else some (.double d)
  | _, _ => none

/-- The number of a document's number text; none if it does not fit a decimal that it needs. -/
def ofDocumentText? (policy : NumberPolicy) (text : String) : Option Number :=
  if hasFractionMark text then
    match policy with
    | .bigDecimal => (Decimal.read? text).map .bigDecimal
    | .double => (Binary.read? text).map .double
    | .floatAndDouble | .bigInteger => ofBinaryText? text
  else if policy = .bigInteger then (Decimal.read? text).map .bigInteger
  else ofIntegerText? text

/-- A number of a document; out of range, the text itself. -/
def ofDocument (policy : NumberPolicy) (text : String) : Number :=
  (ofDocumentText? policy text).getD (.exact text)

def isIntegral : Number → Bool
  | .int _ | .long _ | .bigInteger _ => true
  | .exact t => !hasFractionMark t
  | _ => false

def isBinary : Number → Bool
  | .float _ | .double _ => true
  | _ => false

/-- The double with the shortest digits of a single. -/
def widen (x : Binary32) : Binary64 :=
  (Binary.read? x.toText).getD default

def toBinary64 : Number → Binary64
  | .int n => .ofInt n.toInt
  | .long n => .ofInt n.toInt
  | .bigInteger d | .bigDecimal d => d.toBinary64
  | .float x => widen x
  | .double x => x
  | .exact t => (Binary.read? t).getD (.nan false)

/-- The low 64 bits of the number that the digits among some characters denote; what goes beyond
them is lost at each digit. -/
def foldBits (cs : List Char) : UInt64 :=
  (cs.filter isDigit).foldl (fun bits c => bits * 10 + UInt64.ofNat (digitValue c)) 0

def lowBits (text : String) : Int64 :=
  let (negative, ds) := match text.toList with
    | '-' :: ds => (true, ds)
    | '+' :: ds => (false, ds)
    | ds => (false, ds)
  let bits := foldBits ds
  (if negative then -bits else bits).toInt64

/-- The low 64 bits of the whole part; a binary fraction is clamped to the range instead. -/
def toInt64 : Number → Int64
  | .int n => n.toInt64
  | .long n => n
  | .bigInteger d | .bigDecimal d => Int64.ofInt d.truncate
  | .float x => Int64.ofInt (x.truncClamped 64)
  | .double x => Int64.ofInt (x.truncClamped 64)
  | .exact t =>
    if (Number.exact t).isIntegral then lowBits t
    else Int64.ofInt ((Number.exact t).toBinary64.truncClamped 64)

/-- The decimal with the digits of a number, or that a large double is brought to; none where it is
out of range or kept as text. -/
def toDecimal? : Number → Option Decimal
  | .int n => some (.ofInt64 n.toInt64)
  | .long n => some (.ofInt64 n)
  | .bigInteger d | .bigDecimal d => some d
  | .float x => Decimal.read? x.toText
  | .double x => (Decimal.read? x.toText).or (Decimal.ofLarge? x)
  | .exact _ => none

/-- The text of a binary number, with a fraction digit even when it is whole. -/
def binaryText {f : Binary.Format} (x : Binary f) : String :=
  let t := x.toText
  if x.isFinite && !t.toList.contains '.' then t ++ ".0" else t

def toText : Number → String
  | .int n => integerText n.toInt
  | .long n => integerText n.toInt
  | .bigInteger d | .bigDecimal d => d.toText
  | .float x => binaryText x
  | .double x => binaryText x
  | .exact t => t

def toJson : Number → Json
  | .int n => .number (integerText n.toInt)
  | .long n => .number (integerText n.toInt)
  | .bigInteger d | .bigDecimal d => .number d.toText
  | .float x => if x.isFinite then .number (String.ofList (x.layOut .single)) else .null
  | .double x => if x.isFinite then .number (String.ofList (x.layOut .double)) else .null
  | .exact t => .number t

end Number
end DocPath
