import DocPath.Value.Basic

/-!
Equality and order of values as the operators of expressions see them. Numbers compare by value;
an element or a list of elements compares to anything else by its text, and to a number by the
number that its text denotes.
-/

namespace DocPath

inductive OrderFailure where
  | notNumeric (kind : Kind)
  | incomparable (left right : Kind)
  deriving DecidableEq, Repr

namespace Value

mutual
/-- Equality of structure: entries in any order, numbers of one representation. -/
def sameAs : Value → Value → Bool
  | .null, .null => true
  | .bool a, .bool b => a == b
  | .number a, .number b => a.sameAs b
  | .string a, .string b => a == b
  | .list a, .list b => sameItems a b
  | .map a, .map b => a.length == b.length && sameEntries a b
  | .node a, .node b => a.sameAs b
  | _, _ => false
def sameItems : List Value → List Value → Bool
  | [], [] => true
  | a :: as, b :: bs => a.sameAs b && sameItems as bs
  | _, _ => false
def sameEntries : List (String × Value) → List (String × Value) → Bool
  | [], _ => true
  | (k, v) :: as, bs =>
    (match bs.lookup k with
      | some w => v.sameAs w
      | none => false) && sameEntries as bs
end

/-- An element or a list of elements against a value that is neither. -/
def nodeEq (n v : Value) : Bool :=
  match v with
  | .number b => ((n.toNumber?).map (·.numEq b)).getD false
  | .null => false
  | _ => n.text == v.text

mutual
def looseEq : Value → Value → Bool
  | .number a, .number b => a.numEq b
  | .list a, .list b =>
    if !(Value.list a).isNodeLike then looseItems a b
    else if !(Value.list b).isNodeLike then nodeEq (.list a) (.list b)
    else sameItems a b
  | .map a, .map b => a.length == b.length && looseEntries a b
  | a, b =>
    if a.isNodeLike && !b.isNodeLike then nodeEq a b
    else if b.isNodeLike && !a.isNodeLike then nodeEq b a
    else a.sameAs b
def looseItems : List Value → List Value → Bool
  | [], [] => true
  | a :: as, b :: bs => a.looseEq b && looseItems as bs
  | _, _ => false
def looseEntries : List (String × Value) → List (String × Value) → Bool
  | [], _ => true
  | (k, v) :: as, bs =>
    (match bs.lookup k with
      | some w => v.looseEq w
      | none => false) && looseEntries as bs
end

def compareText (a b : String) : Ordering := compareOfLessAndEq a b

/-- The order as the operators see it: null comes before anything else. -/
protected def compare (a b : Value) : Except OrderFailure Ordering :=
  match a, b with
  | .null, .null => .ok .eq
  | .null, _ => .ok .lt
  | _, .null => .ok .gt
  | .number x, .number y => .ok (x.compare y)
  | .string x, .string y => .ok (compareText x y)
  | .bool x, .bool y => .ok (compare x y)
  | a, b =>
    match a, b with
    | n, .number y =>
      if n.isNodeLike then
        match n.toNumber? with
        | some x => .ok (x.compare y)
        | none => .error (.notNumeric n.kind)
      else .error (.incomparable n.kind .number)
    | .number x, n =>
      if n.isNodeLike then
        match n.toNumber? with
        | some y => .ok (x.compare y)
        | none => .error (.notNumeric n.kind)
      else .error (.incomparable .number n.kind)
    | a, b =>
      if a.isNodeLike || b.isNodeLike then .ok (compareText a.text b.text)
      else .error (.incomparable a.kind b.kind)

def isText (v : Value) (s : String) : Bool :=
  match v with
  | .string t => t == s
  | .node e => e.text == s
  | _ => false

def isBool (v : Value) (b : Bool) : Bool :=
  match v with
  | .bool c => c == b
  | _ => false

def isNumber (v : Value) (n : Number) : Bool :=
  match v with
  | .number m => m.numEq n
  | _ => false

end Value
end DocPath
