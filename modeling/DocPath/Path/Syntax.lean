import DocPath.Value.Order

/-!
The syntax of paths into documents: segments, the subscripts and method calls among them, and
the expressions and closures that are passed to methods.
-/

namespace DocPath

/-- The contents of a subscript; negative indices count from the end of a list. -/
inductive Selector where
  | single (index : Int64)
  | range (first last : Int64) (inclusive : Bool)
  | key (name : String)
  deriving DecidableEq, Repr

inductive UnaryOp where
  | not
  | neg
  deriving DecidableEq, Repr

/-- Infix operators; `find` looks for a pattern anywhere and `matches` in the whole text. -/
inductive BinaryOp where
  | or
  | and
  | eq
  | ne
  | lt
  | le
  | gt
  | ge
  | find
  | matches
  | isIn
  | add
  | sub
  | mul
  | div
  | rem
  deriving DecidableEq, Repr

mutual
inductive Expr where
  | literal (v : Value)
  | list (items : List Expr)
  | ident (name : String)
  | path (base : Expr) (segments : List Segment)
  | unary (op : UnaryOp) (operand : Expr)
  | binary (op : BinaryOp) (left right : Expr)
  /-- A choice between two expressions. -/
  | ternary (condition yes no : Expr)
  /-- A value, or the fallback when it is false. -/
  | elvis (value fallback : Expr)
  | closure (c : Closure)
/-- A function of values; without declared parameters its only argument is called `it`. -/
inductive Closure where
  | mk (params : List String) (locals : List (String × Expr)) (body : Expr)
inductive Segment where
  | field (name : String)
  | index (selector : Selector)
  /-- All children of the current value. -/
  | wildcard
  /-- The current value and everything below it. -/
  | descent
  | call (name : String) (args : List Expr)
  /-- A segment applied to every item of a list. -/
  | spread (inner : Segment)
end

instance : Inhabited Expr := ⟨.literal .null⟩

instance : Inhabited Segment := ⟨.wildcard⟩

namespace Closure

instance : Inhabited Closure := ⟨.mk [] [] default⟩

def params : Closure → List String
  | .mk ps _ _ => ps

def locals : Closure → List (String × Expr)
  | .mk _ ls _ => ls

def body : Closure → Expr
  | .mk _ _ b => b

end Closure

structure Path where
  segments : List Segment
  deriving Inhabited

def Path.leadingField? (p : Path) : Option String :=
  match p.segments with
  | .field name :: _ => some name
  | _ => none

mutual
/-- Equality of syntax; literals are equal as values of one representation. -/
def Expr.sameAs : Expr → Expr → Bool
  | .literal a, .literal b => a.sameAs b
  | .list as, .list bs => sameExprs as bs
  | .ident a, .ident b => a == b
  | .path a as, .path b bs => a.sameAs b && sameSegments as bs
  | .unary o a, .unary p b => o == p && a.sameAs b
  | .binary o a c, .binary p b d => o == p && a.sameAs b && c.sameAs d
  | .ternary a c e, .ternary b d f => a.sameAs b && c.sameAs d && e.sameAs f
  | .elvis a c, .elvis b d => a.sameAs b && c.sameAs d
  | .closure a, .closure b => a.sameAs b
  | _, _ => false
def Closure.sameAs : Closure → Closure → Bool
  | .mk ps ls b, .mk ps' ls' b' => ps == ps' && sameLocals ls ls' && b.sameAs b'
def Segment.sameAs : Segment → Segment → Bool
  | .field a, .field b => a == b
  | .index a, .index b => a == b
  | .wildcard, .wildcard => true
  | .descent, .descent => true
  | .call a as, .call b bs => a == b && sameExprs as bs
  | .spread a, .spread b => a.sameAs b
  | _, _ => false
def sameExprs : List Expr → List Expr → Bool
  | [], [] => true
  | a :: as, b :: bs => a.sameAs b && sameExprs as bs
  | _, _ => false
def sameSegments : List Segment → List Segment → Bool
  | [], [] => true
  | a :: as, b :: bs => a.sameAs b && sameSegments as bs
  | _, _ => false
def sameLocals : List (String × Expr) → List (String × Expr) → Bool
  | [], [] => true
  | (n, a) :: as, (m, b) :: bs => n == m && a.sameAs b && sameLocals as bs
  | _, _ => false
end

def Path.sameAs (a b : Path) : Bool := sameSegments a.segments b.segments

end DocPath
