import DocPath.Eval.Scope
import DocPath.Path.Render

/-!
What the segments that are not method calls read from a value. A field of a list is read from
every item; descent lists a value before everything below it and leaves out the lists.
-/

namespace DocPath

namespace Element

/-- An attribute, all elements of the tree, or the child elements of a name. -/
def field (e : Element) (name : String) : Value :=
  match name.toList with
  | '@' :: key => ((e.attribute? (String.ofList key)).map Value.string).getD .null
  | _ =>
    if name = "**" then .list (e.depthFirst.map .node)
    else .list ((e.named name).map .node)

end Element

namespace Value

/-- An element's field within a list: found elements are joined in and null is left out. -/
def spliced : Value → List Value
  | .list found => found
  | .null => []
  | v => [v]

mutual
def field (name : String) : Value → Eval Value
  | .null => .ok .null
  | .map m => .ok ((m.lookup name).getD .null)
  | .node e => .ok (e.field name)
  | .list items => (itemFields name items).map .list
  | v => .error (.missingProperty name v.kind)
def itemFields (name : String) : List Value → Eval (List Value)
  | [] => .ok []
  | .null :: vs => itemFields name vs
  | .node e :: vs => do
    let rest ← itemFields name vs
    .ok ((e.field name).spliced ++ rest)
  | v :: vs => do
    let found ← v.field name
    let rest ← itemFields name vs
    .ok (found :: rest)
end

mutual
def childValues : Value → Eval (List Value)
  | .null => .ok []
  | .map m => .ok (m.map Prod.snd)
  | .node e => .ok (e.elements.map .node)
  | .list items => itemChildren items
  | v => .error (.incompatibleShape "*" v.kind)
def itemChildren : List Value → Eval (List Value)
  | [] => .ok []
  | v :: vs => do
    let found ← v.childValues
    let rest ← itemChildren vs
    .ok (found ++ rest)
end

mutual
/-- A value and everything below it, in document order, without the lists. -/
def descent : Value → List Value
  | .list items => itemDescent items
  | .map m => .map m :: entryDescent m
  | .node e => e.depthFirst.map .node
  | v => [v]
def itemDescent : List Value → List Value
  | [] => []
  | v :: vs => v.descent ++ itemDescent vs
def entryDescent : List (String × Value) → List Value
  | [] => []
  | (_, v) :: m => v.descent ++ entryDescent m
end

end Value

/-- The position of an index in a list of a length; negative indices count from the end. -/
def position? (index : Int64) (length : Nat) : Option Nat :=
  let i := if index < 0 then index.toInt + length else index.toInt
  if 0 ≤ i ∧ i < length then some i.toNat else none

def resolve (index : Int64) (length : Nat) : Eval Nat :=
  match position? index length with
  | some i => .ok i
  | none => .error (.indexOutOfBounds index length)

def walk (items : List Value) (first last : Nat) : List Value :=
  if first ≤ last then (items.take (last + 1)).drop first
  else ((items.take (first + 1)).drop last).reverse

def selectRange (items : List Value) (first last : Int64) (inclusive : Bool) : Eval Value := do
  let length := items.length
  let start ← resolve first length
  if inclusive then
    let stop ← resolve last length
    .ok (.list (walk items start stop))
  else
    let e := if last < 0 then last.toInt + length else last.toInt
    if e < 0 ∨ (length : Int) < e then .error (.indexOutOfBounds last length)
    else
      let stop := e.toNat
      if stop = start then .ok (.list [])
      else if start < stop then .ok (.list (walk items start (stop - 1)))
      else .ok (.list (walk items start (stop + 1)))

namespace Selector

def ofItems (s : Selector) (items : List Value) : Eval Value :=
  match s with
  | .single i => do
    let at_ ← resolve i items.length
    .ok (items.getD at_ .null)
  | .range first last inclusive => selectRange items first last inclusive
  | .key _ => .ok (.list items)

/-- What a subscript selects; a map or an element is a list of one for an index. -/
def apply (s : Selector) (v : Value) : Eval Value :=
  match s with
  | .key k => v.field k
  | s =>
    match v with
    | .null => .ok .null
    | .list items => s.ofItems items
    | .map m => s.ofItems [.map m]
    | .node e => s.ofItems [.node e]
    | v => .error (.incompatibleShape s.text v.kind)

end Selector
end DocPath
