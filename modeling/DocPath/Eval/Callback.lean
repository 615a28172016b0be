import DocPath.Eval.Scope

/-!
Arguments of method calls as methods see them: values, and closures that they call. The entries
of a map reach a closure as key and value if it declares two parameters, else as one entry.
-/

namespace DocPath

/-- A closure with its scope: the number of declared parameters and the function. -/
structure Callback where
  arity : Nat
  call : List Value → Eval Value

inductive Argument where
  | value (v : Value)
  | closure (c : Callback)

def entry (key : String) (v : Value) : Value := .map [("key", .string key), ("value", v)]

namespace Callback

def callEntry (c : Callback) (key : String) (v : Value) : Eval Value :=
  if c.arity = 2 then c.call [.string key, v] else c.call [entry key v]

def test (c : Callback) (v : Value) : Eval Bool := do
  let r ← c.call [v]
  .ok r.truthy

def testEntry (c : Callback) (key : String) (v : Value) : Eval Bool := do
  let r ← c.callEntry key v
  .ok r.truthy

end Callback

def valueArgument? : List Argument → Option Value
  | [] => none
  | .value v :: _ => some v
  | .closure _ :: rest => valueArgument? rest

def closureArgument? (args : List Argument) : Option Callback :=
  match args.getLast? with
  | some (.closure c) => some c
  | _ => none

/-- The test of an item: a closure's, or truth. -/
def keeps (c : Option Callback) (v : Value) : Eval Bool :=
  match c with
  | some c => c.test v
  | none => .ok v.truthy

def keepsEntry (c : Option Callback) (p : String × Value) : Eval Bool :=
  match c with
  | some c => c.testEntry p.1 p.2
  | none => .ok p.2.truthy

def filterEval {α : Type} (test : α → Eval Bool) : List α → Eval (List α)
  | [] => .ok []
  | a :: as => do
    let keep ← test a
    let rest ← filterEval test as
    .ok (if keep then a :: rest else rest)

def findEval {α : Type} (test : α → Eval Bool) : List α → Eval (Option α)
  | [] => .ok none
  | a :: as => do
    let found ← test a
    if found then .ok (some a) else findEval test as

end DocPath
