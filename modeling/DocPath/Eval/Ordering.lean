import DocPath.Eval.Callback
import DocPath.Number.Arithmetic

/-!
Sorting, extremes and sums. Items are ordered by themselves, by the key of a closure, or by the
sign of a closure of two parameters. Sorting inserts every item behind those that it is not
less than, so it is stable; its first failure is its result.
-/

namespace DocPath

/-- The number of a value for arithmetic; texts are no numbers but elements may be. -/
def numeric (v : Value) : Eval Number :=
  let of (n : Option Number) : Eval Number :=
    match n with
    | some n => .ok n
    | none => .error (.notNumeric v.kind)
  match v with
  | .number n => .ok n
  | _ => if v.isNodeLike then of v.toNumber? else .error (.notNumeric v.kind)

def toNumber (v : Value) : Eval Number :=
  match v.toNumber? with
  | some n => .ok n
  | none => .error (.notNumeric v.kind)

def compareValues (a b : Value) : Eval Ordering :=
  (a.compare b).mapError OrderFailure.toEvalError

def arithmetic (op : Number.Operation) (a b : Number) : Eval Number :=
  match Number.apply op a b with
  | some n => .ok n
  | none => .error .divisionByZero

def signOf (n : Number) : Ordering := n.compare (.int 0)

def sortOrder (c : Option Callback) (a b : Value) : Eval Ordering :=
  match c with
  | none => compareValues a b
  | some c =>
    if c.arity = 2 then do
      let r ← c.call [a, b]
      let n ← toNumber r
      .ok (signOf n)
    else do
      let x ← c.call [a]
      let y ← c.call [b]
      compareValues x y

/-- A list in reverse order with the first failure of a comparison. -/
abbrev Sorting := List Value × Option EvalError

/-- Puts an item behind the first one, from the end, that it is not less than.
Once a comparison has failed, or where it fails, the item stays where it is. -/
def insertFromEnd (order : Value → Value → Eval Ordering) (v : Value) :
    List Value → Option EvalError → Sorting
  | [], e => ([v], e)
  | w :: ws, e =>
    match order v w with
    | .ok .lt =>
      let (rest, e) := insertFromEnd order v ws e
      (w :: rest, e)
    | .ok _ => (v :: w :: ws, e)
    | .error f => (v :: w :: ws, e.or (some f))

def sortValues (order : Value → Value → Eval Ordering) (vs : List Value) : Eval (List Value) :=
  let (sorted, failure) :=
    vs.foldl (fun (s : Sorting) v => insertFromEnd order v s.1 s.2) ([], none)
  match failure with
  | some e => .error e
  | none => .ok sorted.reverse

def extremeKey (c : Option Callback) (v : Value) : Eval Value :=
  match c with
  | some c => if c.arity = 2 then .ok v else c.call [v]
  | none => .ok v

def extremeOrder (c : Option Callback) (v key best bestKey : Value) : Eval Ordering :=
  match c with
  | some c =>
    if c.arity = 2 then do
      let r ← c.call [v, best]
      let n ← numeric r
      .ok (signOf n)
    else compareValues key bestKey
  | none => compareValues key bestKey

/-- The first item, null aside, that no later one beats. -/
def extreme (wanted : Ordering) (c : Option Callback) :
    Option (Value × Value) → List Value → Eval Value
  | best, [] => .ok ((best.map Prod.fst).getD .null)
  | best, v :: vs =>
    if v.isNull then extreme wanted c best vs
    else do
      let key ← extremeKey c v
      let replaces ← match best with
        | none => .ok true
        | some (b, bKey) => do
          let o ← extremeOrder c v key b bKey
          .ok (o == wanted)
      extreme wanted c (if replaces then some (v, key) else best) vs

def addAll : Number → List Value → Eval Number
  | total, [] => .ok total
  | total, v :: vs => do
    let n ← numeric v
    let total ← arithmetic .add total n
    addAll total vs

/-- The sum of values after an initial one; nothing sums to null. -/
def sumValues (initial : Option Value) (vs : List Value) : Eval Value :=
  let start : Option (Value × List Value) :=
    match initial, vs with
    | some v, vs => some (v, vs)
    | none, v :: vs => some (v, vs)
    | none, [] => none
  match start with
  | none => .ok .null
  | some (first, rest) => do
    let n ← numeric first
    let total ← addAll n rest
    .ok (.number total)

end DocPath
