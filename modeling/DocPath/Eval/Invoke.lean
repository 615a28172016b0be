import DocPath.Eval.Access
import DocPath.Eval.Ordering
import DocPath.Path.Method
import DocPath.Text.Case

/-!
What the methods compute. The arguments are evaluated before a method is invoked, and every
method of null is null.
-/

namespace DocPath

def isInfix (needle : List Char) : List Char → Bool
  | [] => needle.isEmpty
  | c :: cs => needle.isPrefixOf (c :: cs) || isInfix needle cs

def containsText (text needle : String) : Bool := isInfix needle.toList text.toList

def countValue (n : Nat) : Value := .number (.int (Int32.ofInt n))

def unsupported {α : Type} (m : Method) (v : Value) : Eval α :=
  .error (.arguments m.label ("not supported on a " ++ v.kind.text))

def elementsOf (m : Method) (v : Value) : Eval (List Element) :=
  match v with
  | .node e => .ok [e]
  | .list vs =>
    vs.mapM fun
      | .node e => .ok e
      | other => unsupported m other
  | other => unsupported m other

def attributeMap (e : Element) : Value := .map (e.attributes.map fun p => (p.1, .string p.2))

/-- A receiver as one scalar: texts, numbers, booleans and the text of elements. -/
def scalar (m : Method) (v : Value) : Eval Value :=
  match v with
  | .string _ | .number _ | .bool _ => .ok v
  | _ => if v.isNodeLike then .ok (.string v.text) else unsupported m v

/-- A receiver as text; numbers and booleans are not. -/
def scalarText (m : Method) (v : Value) : Eval String := do
  let s ← scalar m v
  match s with
  | .string t => .ok t
  | other => .error (.coercion (other.shownError .string))

def scalarAs {α : Type} (m : Method) (v : Value) (f : Value → Except CoercionError α) :
    Eval α := do
  let s ← scalar m v
  (f s).mapError .coercion

mutual
def flattened : Value → List Value
  | .list vs => flattenedItems vs
  | v => [v]
def flattenedItems : List Value → List Value
  | [] => []
  | v :: vs => flattened v ++ flattenedItems vs
end

def uniqueItems : List Value → List Value → List Value
  | kept, [] => kept.reverse
  | kept, v :: vs =>
    if kept.reverse.any fun k => k.looseEq v then uniqueItems kept vs
    else uniqueItems (v :: kept) vs

def holds (v needle : Value) : Bool :=
  match v with
  | .list items =>
    if v.isNodeLike then containsText v.text needle.text else items.any fun i => i.looseEq needle
  | .map m => m.any fun p => p.2.looseEq needle
  | _ => containsText v.text needle.text

def itemAt (v : Value) (at_ : Option Value) : Eval Value :=
  match at_ with
  | some (.number n) =>
    if n.isIntegral then (Selector.single n.toInt64).apply v
    else .error (.arguments "get" "expected an index or a key but found a number")
  | some (.string key) => v.field key
  | some other =>
    .error (.arguments "get" ("expected an index or a key but found a " ++ other.kind.text))
  | none => .error (.arguments "get" "expected an index or a key")

/-- The test of `grep`: a closure, one of several options, a value to equal, or truth. -/
def grepKeeps (value : Option Value) (c : Option Callback) (v : Value) : Eval Bool :=
  match c, value with
  | some c, _ => c.test v
  | none, some (.list options) => .ok (options.any fun o => o.looseEq v)
  | none, some w => .ok (w.looseEq v)
  | none, none => .ok v.truthy

def countKeeps (value : Option Value) (c : Option Callback) (v : Value) : Eval Bool :=
  match c, value with
  | some c, _ => c.test v
  | none, some w => .ok (w.looseEq v)
  | none, none => .ok false

namespace Method

def findAllIn (v : Value) (c : Option Callback) : Eval Value :=
  match v with
  | .map m => (filterEval (keepsEntry c) m).map .map
  | v => (filterEval (keeps c) v.items).map .list

def findIn (v : Value) (c : Option Callback) : Eval Value :=
  match v with
  | .map m => do
    let p ← findEval (keepsEntry c) m
    .ok ((p.map fun p => entry p.1 p.2).getD .null)
  | v => do
    let r ← findEval (keeps c) v.items
    .ok (r.getD .null)

def collectIn (v : Value) (c : Option Callback) : Eval Value :=
  match c with
  | none => .ok (.list v.items)
  | some c =>
    match v with
    | .map m => (m.mapM fun p => c.callEntry p.1 p.2).map .list
    | v => (v.items.mapM fun i => c.call [i]).map .list

def anyIn (v : Value) (c : Option Callback) : Eval Value :=
  match v with
  | .map m => do
    let p ← findEval (keepsEntry c) m
    .ok (.bool p.isSome)
  | v => do
    let r ← findEval (keeps c) v.items
    .ok (.bool r.isSome)

def fails {α : Type} (test : α → Eval Bool) (a : α) : Eval Bool := do
  let b ← test a
  .ok (!b)

def everyIn (v : Value) (c : Option Callback) : Eval Value :=
  match v with
  | .map m => do
    let p ← findEval (fails (keepsEntry c)) m
    .ok (.bool p.isNone)
  | v => do
    let r ← findEval (fails (keeps c)) v.items
    .ok (.bool r.isNone)

def sizeOf (v : Value) : Eval Value :=
  match v with
  | .list vs => .ok (countValue vs.length)
  | .map m => .ok (countValue m.length)
  | .string s => .ok (countValue s.length)
  | .node _ => .ok (countValue 1)
  | other => unsupported .size other

def apply (m : Method) (v : Value) (args : List Argument) : Eval Value :=
  let value := valueArgument? args
  let c := closureArgument? args
  let argumentText := (value.map Value.text).getD ""
  match m with
  | .size => sizeOf v
  | .isEmpty =>
    match v with
    | .node _ => .ok (.bool false)
    | .list _ | .map _ | .string _ => .ok (.bool (!v.truthy))
    | other => unsupported m other
  | .findAll => findAllIn v c
  | .find => findIn v c
  | .collect => collectIn v c
  | .grep => (filterEval (grepKeeps value c) v.items).map .list
  | .any => anyIn v c
  | .every => everyIn v c
  | .count => (filterEval (countKeeps value c) v.items).map fun vs => countValue vs.length
  | .get | .getAt => itemAt v value
  | .first =>
    match v.items.head? with
    | some i => .ok i
    | none => .error (.indexOutOfBounds 0 0)
  | .last =>
    match v.items.getLast? with
    | some i => .ok i
    | none => .error (.indexOutOfBounds (-1) 0)
  | .unique => .ok (.list (uniqueItems [] v.items))
  | .sort => (sortValues (sortOrder c) v.items).map .list
  | .reverse =>
    match v with
    | .string s => .ok (.string (String.ofList s.toList.reverse))
    | other => .ok (.list other.items.reverse)
  | .flatten => .ok (.list (flattened v))
  | .join => .ok (.string (argumentText.intercalate (v.items.map Value.text)))
  | .list => .ok (.list v.items)
  | .contains => .ok (.bool (holds v (value.getD .null)))
  | .keySet =>
    match v with
    | .map entries => .ok (.list (entries.map fun p => .string p.1))
    | .node e => .ok (.list (e.attributes.map fun p => .string p.1))
    | other => unsupported m other
  | .values =>
    match v with
    | .map entries => .ok (.list (entries.map Prod.snd))
    | other => unsupported m other
  | .containsKey =>
    match v with
    | .map entries => .ok (.bool (entries.lookup argumentText).isSome)
    | .node e => .ok (.bool (e.attribute? argumentText).isSome)
    | other => unsupported m other
  | .sum => do
    let items ← match c with
      | some c => v.items.mapM fun i => c.call [i]
      | none => .ok v.items
    sumValues value items
  | .min => extreme .lt c none v.items
  | .max => extreme .gt c none v.items
  | .toText | .text => .ok (.string v.text)
  | .toInteger => (scalarAs m v Value.toInt32).map fun n => .number (.int n)
  | .toLong => (scalarAs m v Value.toInt64).map fun n => .number (.long n)
  | .toFloat => (scalarAs m v Value.toBinary32).map fun x => .number (.float x)
  | .toDouble => (scalarAs m v Value.toBinary64).map fun x => .number (.double x)
  | .toBigDecimal => (scalarAs m v Value.toDecimal).map fun d => .number (.bigDecimal d)
  | .toUpperCase => (scalarText m v).map fun s => .string (DocPath.toUpperCase s)
  | .toLowerCase => (scalarText m v).map fun s => .string (DocPath.toLowerCase s)
  | .trim => (scalarText m v).map fun s => .string (DocPath.trim s)
  | .length => (scalarText m v).map fun s => countValue s.length
  | .startsWith =>
    (scalarText m v).map fun s => .bool (argumentText.toList.isPrefixOf s.toList)
  | .endsWith =>
    (scalarText m v).map fun s => .bool (argumentText.toList.isSuffixOf s.toList)
  | .abs => (numeric v).map fun n => .number n.abs
  | .children => (elementsOf m v).map fun es => .list (es.flatMap fun e => e.elements.map .node)
  | .attributes => do
    let es ← elementsOf m v
    match es with
    | [e] => .ok (attributeMap e)
    | es => .ok (.list (es.map attributeMap))
  | .name => (elementsOf m v).map fun es => ((es.head?).map fun e => .string e.name).getD .null
  | .depthFirst =>
    (elementsOf m v).map fun es => .list (es.flatMap fun e => e.depthFirst.map .node)
  | .breadthFirst =>
    (elementsOf m v).map fun es => .list (es.flatMap fun e => e.breadthFirst.map .node)

def invoke (m : Method) (v : Value) (args : List Argument) : Eval Value :=
  if v.isNull then .ok .null else m.apply v args

theorem invoke_null (m : Method) (args : List Argument) : m.invoke .null args = .ok .null := rfl

end Method
end DocPath
