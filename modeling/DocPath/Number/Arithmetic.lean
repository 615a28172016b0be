import DocPath.Number.Basic

/-!
The order of numbers and arithmetic across representations. Texts of whole numbers are ordered as
the integers they denote; a binary operand makes both sides binary, and otherwise both are decimals
where they have one. For arithmetic both operands are brought to the wider of their two ranks: words
wrap around, decimals fall back to doubles where the result does not fit, and a quotient of whole
numbers is a decimal. The only failure is a division by zero.
-/

namespace DocPath.Number

def significantDigits (text : String) : List Char :=
  (text.toList.dropWhile fun c => c = '-' || c = '+').dropWhile (· = '0')

/-- Longer digit strings are greater, of equally long ones the first difference decides. -/
def compareDigits (a b : List Char) : Ordering :=
  (compare a.length b.length).then (compareOfLessAndEq a b)

def compareIntegerText (a b : String) : Ordering :=
  match a.toList.head? == some '-', b.toList.head? == some '-' with
  | true, false => .lt
  | false, true => .gt
  | negative, _ =>
    let magnitude := compareDigits (significantDigits a) (significantDigits b)
    if negative then magnitude.swap else magnitude

/-- The order by decimals, or by doubles where a side has no decimal. -/
def compareByValue (a b : Number) : Ordering :=
  if a.isBinary || b.isBinary then a.toBinary64.totalCompare b.toBinary64
  else
    match a.toDecimal?, b.toDecimal? with
    | some x, some y => x.compare y
    | _, _ => a.toBinary64.totalCompare b.toBinary64

protected def compare (a b : Number) : Ordering :=
  match a, b with
  | .exact s, .exact t =>
    if a.isIntegral && b.isIntegral then compareIntegerText s t else compareByValue a b
  | _, _ => compareByValue a b

def numEq (a b : Number) : Bool := a.compare b == .eq

/-- Equality of representation; decimals are equal by value and binary numbers as in arithmetic. -/
def sameAs : Number → Number → Bool
  | .int a, .int b => a == b
  | .long a, .long b => a == b
  | .bigInteger a, .bigInteger b => a.compare b == .eq
  | .float a, .float b => a.numEq b
  | .double a, .double b => a.numEq b
  | .bigDecimal a, .bigDecimal b => a.compare b == .eq
  | .exact a, .exact b => a == b
  | _, _ => false

inductive Operation where
  | add
  | sub
  | mul
  | div
  | rem
  deriving DecidableEq, Repr

/-- The representations in the order in which one gives way to the next. -/
inductive Rank where
  | int
  | long
  | bigInteger
  | bigDecimal
  | double
  deriving DecidableEq, Repr

def Rank.index : Rank → Nat
  | .int => 0
  | .long => 1
  | .bigInteger => 2
  | .bigDecimal => 3
  | .double => 4

def Rank.max (a b : Rank) : Rank := if a.index < b.index then b else a

def rank : Number → Rank
  | .int _ => .int
  | .long _ => .long
  | .bigInteger _ => .bigInteger
  | .bigDecimal _ => .bigDecimal
  | .float _ | .double _ | .exact _ => .double

/-- The rank of a result: a quotient is at least a decimal. -/
def resultRank (op : Operation) (a b : Number) : Rank :=
  let r := a.rank.max b.rank
  if op = .div then r.max .bigDecimal else r

def binaryArithmetic (op : Operation) (a b : Binary64) : Binary64 :=
  match op with
  | .add => a.add b
  | .sub => a.sub b
  | .mul => a.mul b
  | .div => a.div b
  | .rem => a.rem b

def intArithmetic (op : Operation) (a b : Int32) : Option Int32 :=
  match op with
  | .add => some (a + b)
  | .sub => some (a - b)
  | .mul => some (a * b)
  | .div => none
  | .rem => if b = 0 ∨ (a = Int32.minValue ∧ b = -1) then none else some (a % b)

def longArithmetic (op : Operation) (a b : Int64) : Option Int64 :=
  match op with
  | .add => some (a + b)
  | .sub => some (a - b)
  | .mul => some (a * b)
  | .div => none
  | .rem => if b = 0 ∨ (a = Int64.minValue ∧ b = -1) then none else some (a % b)

/-- A decimal result where it fits. -/
def decimalArithmetic (op : Operation) (a b : Decimal) : Option Decimal :=
  match op with
  | .add => a.add? b
  | .sub => a.sub? b
  | .mul => a.mul? b
  | .div => a.div? b
  | .rem => a.rem? b

def doubleResult (op : Operation) (a b : Binary64) : Number :=
  .double (binaryArithmetic op a b)

def apply (op : Operation) (a b : Number) : Option Number :=
  match resultRank op a b with
  | .int => (intArithmetic op a.toInt64.toInt32 b.toInt64.toInt32).map .int
  | .long => (longArithmetic op a.toInt64 b.toInt64).map .long
  | .double => some (doubleResult op a.toBinary64 b.toBinary64)
  | r =>
    match a.toDecimal?, b.toDecimal? with
    | some x, some y =>
      if (op = .div ∨ op = .rem) ∧ y.isZero then none
      else
        match decimalArithmetic op x y with
        | some d => some (if r = .bigInteger then .bigInteger d else .bigDecimal d)
        | none => some (doubleResult op x.toBinary64 y.toBinary64)
    | _, _ => some (doubleResult op a.toBinary64 b.toBinary64)

def negateText (text : String) : String :=
  match text.toList with
  | '-' :: rest => String.ofList rest
  | cs => String.ofList ('-' :: cs)

protected def neg : Number → Number
  | .int n => .int (-n)
  | .long n => .long (-n)
  | .bigInteger d => .bigInteger d.neg
  | .float x => .float x.neg
  | .double x => .double x.neg
  | .bigDecimal d => .bigDecimal d.neg
  | .exact t => .exact (negateText t)

protected def abs : Number → Number
  | .int n => .int (if n < 0 then -n else n)
  | .long n => .long (if n < 0 then -n else n)
  | .bigInteger d => .bigInteger d.abs
  | .float x => .float x.abs
  | .double x => .double x.abs
  | .bigDecimal d => .bigDecimal d.abs
  | .exact t => .exact (if t.toList.head? = some '-' then negateText t else t)

end DocPath.Number
