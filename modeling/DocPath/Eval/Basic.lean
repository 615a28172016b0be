import DocPath.Eval.Invoke
import DocPath.Eval.Scope
import DocPath.Regex.Reader

/-!
Evaluation of expressions, segments and paths. A missing property inside an expression makes the
value of its path null; everywhere else a failure ends the evaluation.
-/

namespace DocPath

def matchesPattern (whole : Bool) (text pattern : Value) : Eval Bool :=
  let pattern := if whole then Regex.anchored pattern.text else pattern.text
  match Regex.read? pattern with
  | some p => .ok (p.isMatch text.text.toList)
  | none => .error (.regex pattern)

/-- Membership in a list, among the keys of a map or in a text. -/
def isMember (v container : Value) : Bool :=
  match container with
  | .map m => (m.lookup v.text).isSome
  | .list items =>
    if container.isNodeLike then containsText container.text v.text
    else items.any fun i => i.looseEq v
  | .null => false
  | other => containsText other.text v.text

def numericOperation (op : Number.Operation) (a b : Value) : Eval Value := do
  let x ← numeric a
  let y ← numeric b
  let n ← arithmetic op x y
  .ok (.number n)

/-- Lists are extended, texts are joined, anything else is added. -/
def addValues (a b : Value) : Eval Value :=
  match a, b with
  | .list xs, .list ys => .ok (.list (xs ++ ys))
  | .list xs, y => .ok (.list (xs ++ [y]))
  | .string s, y => .ok (.string (s ++ y.text))
  | x, .string t => .ok (.string (x.text ++ t))
  | x, y => numericOperation .add x y

def orderTest (holds : Ordering → Bool) (a b : Value) : Eval Value := do
  let o ← compareValues a b
  .ok (.bool (holds o))

def BinaryOp.apply (op : BinaryOp) (a b : Value) : Eval Value :=
  match op with
  | .or | .and => .ok (.bool b.truthy)
  | .eq => .ok (.bool (a.looseEq b))
  | .ne => .ok (.bool (!a.looseEq b))
  | .lt => orderTest Ordering.isLT a b
  | .le => orderTest Ordering.isLE a b
  | .gt => orderTest Ordering.isGT a b
  | .ge => orderTest Ordering.isGE a b
  | .find => (matchesPattern false a b).map .bool
  | .matches => (matchesPattern true a b).map .bool
  | .isIn => .ok (.bool (isMember a b))
  | .add => addValues a b
  | .sub => numericOperation .sub a b
  | .mul => numericOperation .mul a b
  | .div => numericOperation .div a b
  | .rem => numericOperation .rem a b

def BinaryOp.shortCut? (op : BinaryOp) (a : Value) : Option Value :=
  match op with
  | .and => if a.truthy then none else some (.bool false)
  | .or => if a.truthy then some (.bool true) else none
  | _ => none

def UnaryOp.apply (op : UnaryOp) (v : Value) : Eval Value :=
  match op with
  | .not => .ok (.bool (!v.truthy))
  | .neg => (numeric v).map fun n => .number n.neg

def closureArityError (expected given : Nat) : EvalError :=
  .arguments "closure"
    ("expects " ++ integerText expected ++ " parameter(s) but was given " ++ integerText given)

def bindArguments (params : List String) (args : List Value) (scope : Scope) : Eval Scope :=
  if params.isEmpty then .ok (scope.bind "it" (args.head?.getD .null))
  else if params.length < args.length then .error (closureArityError params.length args.length)
  else .ok (scope.bindAll params args)

mutual
def Expr.eval : Expr → Scope → Eval Value
  | .literal v, _ => .ok v
  | .list items, scope => (evalItems items scope).map .list
  | .ident name, scope => scope.lookup name
  | .path base segments, scope => do
    let v ← base.eval scope
    match evalSegments segments v scope with
    | .error (.missingProperty ..) => .ok .null
    | r => r
  | .unary op operand, scope => do
    let v ← operand.eval scope
    op.apply v
  | .binary op left right, scope => do
    let a ← left.eval scope
    match op.shortCut? a with
    | some v => .ok v
    | none =>
      let b ← right.eval scope
      op.apply a b
  | .ternary condition yes no, scope => do
    let v ← condition.eval scope
    if v.truthy then yes.eval scope else no.eval scope
  | .elvis value fallback, scope => do
    let v ← value.eval scope
    if v.truthy then .ok v else fallback.eval scope
  | .closure _, _ => .error (.arguments "closure" "a closure can only be passed to a method")
def evalItems : List Expr → Scope → Eval (List Value)
  | [], _ => .ok []
  | e :: es, scope => do
    let v ← e.eval scope
    let vs ← evalItems es scope
    .ok (v :: vs)
def evalSegments : List Segment → Value → Scope → Eval Value
  | [], v, _ => .ok v
  | s :: ss, v, scope => do
    let w ← s.eval v scope
    evalSegments ss w scope
def Segment.eval : Segment → Value → Scope → Eval Value
  | .field name, v, _ => v.field name
  | .index selector, v, _ => selector.apply v
  | .wildcard, v, _ => v.childValues.map .list
  | .descent, v, _ => .ok (.list v.descent)
  | .call name args, v, scope =>
    match Method.named? name with
    | none => .error (.unknownMethod name)
    | some m => do
      let as ← evalArguments args scope
      m.invoke v as
  | .spread inner, v, scope => (v.items.mapM fun i => inner.eval i scope).map .list
/-- Arguments in order; closures are kept to be called by the method. -/
def evalArguments : List Expr → Scope → Eval (List Argument)
  | [], _ => .ok []
  | .closure c :: es, scope => do
    let as ← evalArguments es scope
    .ok (.closure ⟨c.params.length, fun vs => c.call vs scope⟩ :: as)
  | e :: es, scope => do
    let v ← e.eval scope
    let as ← evalArguments es scope
    .ok (.value v :: as)
def Closure.call : Closure → List Value → Scope → Eval Value
  | .mk params locals body, vs, scope => do
    let inner ← bindArguments params vs scope
    let inner ← bindLocals locals inner
    body.eval inner
def bindLocals : List (String × Expr) → Scope → Eval Scope
  | [], scope => .ok scope
  | (name, e) :: ls, scope => do
    let v ← e.eval scope
    bindLocals ls (scope.bind name v)
end

def Closure.toCallback (c : Closure) (scope : Scope) : Callback :=
  ⟨c.params.length, fun vs => c.call vs scope⟩

namespace Path

/-- Segments applied to a value; a failure names the segment, counted from `index`. -/
def evalFrom (scope : Scope) : Nat → List Segment → Value → Except QueryError Value
  | _, [], v => .ok v
  | index, s :: ss, v =>
    match s.eval v scope with
    | .ok w => evalFrom scope (index + 1) ss w
    | .error e => .error ⟨index, s.text, e⟩

def eval (p : Path) (root : Value) (params : List (String × Value)) : Except QueryError Value :=
  evalFrom (.ofParams params) 0 p.segments root

def direct? (s : Segment) (v : Value) : Option Value :=
  match s, v with
  | .field name, .map m => m.lookup name
  | .index (.single i), .list items => (position? i items.length).bind fun k => items[k]?
  | _, _ => none

/-- Follows leading keys and indices as long as they lead somewhere, then evaluates the rest. -/
def evalDirect (scope : Scope) : Nat → List Segment → Value → Except QueryError Value
  | _, [], v => .ok v
  | index, s :: ss, v =>
    match direct? s v with
    | some w => evalDirect scope (index + 1) ss w
    | none => evalFrom scope index (s :: ss) v

def evalBorrowed (p : Path) (root : Value) (params : List (String × Value)) :
    Except QueryError Value :=
  evalDirect (.ofParams params) 0 p.segments root

def query (p : Path) (v : Value) (scope : Scope) : Eval Value := evalSegments p.segments v scope

end Path
end DocPath
