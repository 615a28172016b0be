import DocPath.Value.Convert

/-!
The ways in which the evaluation of a path fails, the segment at which it does, and the names that
are visible to an expression: the bindings of closures, the latest first, and the parameters that
the caller supplies.
-/

namespace DocPath

inductive EvalError where
  /-- A segment does not apply to a kind of value. -/
  | incompatibleShape (segment : String) (found : Kind)
  /-- A kind of value has no properties. -/
  | missingProperty (name : String) (found : Kind)
  | indexOutOfBounds (index : Int64) (length : Nat)
  | undefinedParameter (name : String)
  | unknownMethod (name : String)
  | arguments (method message : String)
  | notNumeric (found : Kind)
  | incomparable (left right : Kind)
  | divisionByZero
  /-- A pattern, as it was to be read, is not a regular expression. -/
  | regex (pattern : String)
  | coercion (e : CoercionError)
  deriving DecidableEq, Repr

def undefinedParameterMessage (name : String) : String :=
  "The parameter \"" ++ name ++
    "\" was used but not defined. Define parameters using the param(...) function"

/-- What is said about a failure. What is wrong with a pattern depends on nothing but the pattern,
which stands for it. -/
def EvalError.message : EvalError → String
  | .incompatibleShape segment found => "cannot apply " ++ segment ++ " to a " ++ found.text
  | .missingProperty name found => "no such property " ++ name ++ " on a " ++ found.text
  | .indexOutOfBounds index length =>
    "index " ++ integerText index.toInt ++ " is out of bounds for a sequence of length " ++
      integerText length
  | .undefinedParameter name => undefinedParameterMessage name
  | .unknownMethod name => "unknown method " ++ name ++ "()"
  | .arguments method message => method ++ "(): " ++ message
  | .notNumeric found => "expected a number but found a " ++ found.text
  | .incomparable left right => "cannot compare a " ++ left.text ++ " with a " ++ right.text
  | .divisionByZero => "division by zero"
  | .regex pattern => "invalid regular expression: " ++ pattern
  | .coercion e => e.message

def OrderFailure.toEvalError : OrderFailure → EvalError
  | .notNumeric k => .notNumeric k
  | .incomparable l r => .incomparable l r

/-- A failure with the place and the text of its segment. -/
structure QueryError where
  index : Nat
  segment : String
  source : EvalError
  deriving DecidableEq, Repr

def QueryError.message (e : QueryError) : String :=
  "at segment " ++ integerText e.index ++ " (" ++ e.segment ++ "): " ++ e.source.message

abbrev Eval (α : Type) := Except EvalError α

structure Scope where
  bindings : List (String × Value)
  params : List (String × Value)

namespace Scope

def ofParams (params : List (String × Value)) : Scope := ⟨[], params⟩

/-- A later binding hides earlier ones of its name. -/
def bind (s : Scope) (name : String) (v : Value) : Scope :=
  { s with bindings := (name, v) :: s.bindings }

/-- Binds names in order; names without a value are null. -/
def bindAll (s : Scope) : List String → List Value → Scope
  | [], _ => s
  | n :: ns, [] => (s.bind n .null).bindAll ns []
  | n :: ns, v :: vs => (s.bind n v).bindAll ns vs

def get? (s : Scope) (name : String) : Option Value :=
  (s.bindings.lookup name).or (s.params.lookup name)

def lookup (s : Scope) (name : String) : Eval Value :=
  match s.get? name with
  | some v => .ok v
  | none => .error (.undefinedParameter name)

theorem get?_bind (s : Scope) (name other : String) (v : Value) :
    (s.bind name v).get? other = if other = name then some v else s.get? other := by
  simp only [get?, bind, List.lookup_cons]
  by_cases h : other = name <;> simp [h]
  have : (other == name) = false := by simp [h]
  simp [this]

theorem lookup_bind_self (s : Scope) (name : String) (v : Value) :
    (s.bind name v).lookup name = .ok v := by
  simp [lookup, get?_bind]

end Scope

end DocPath
