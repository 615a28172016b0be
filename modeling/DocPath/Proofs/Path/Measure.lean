import DocPath.Proofs.Path.Printable
import DocPath.Proofs.Text.Pays

/-!
Three measures of trees that any text of a tree pays for. The cost counts the marks that tell its
words apart. The load is the weight of the bases that are groups: such a base is in parentheses
in any text that is read as the tree, so that the text pays the weight of the whole base.
-/

namespace DocPath

/-- The marks of a quoted text: its quotes, and an escape where it has to have one. -/
def textCost (s : String) : Nat := 2 + marks false s.toList + if isPlain s then 0 else 1

namespace Number

def cost : Number → Nat
  | .bigDecimal _ => 1
  | .double _ => 2
  | _ => 0

def size : Number → Nat
  | .bigDecimal _ => 1
  | _ => 0

end Number

def literalCost : Value → Nat
  | .string s => textCost s
  | .number x => x.cost
  | .bool b => if b then 4 else 2
  | .null => 2
  | _ => 0

def literalSize : Value → Nat
  | .string s => signs s.toList
  | .number x => x.size
  | .bool b => if b then 1 else 0
  | .null => 1
  | _ => 0

/-- A bare key counts its own marks, and one more where its hyphens would not be read. -/
def fieldCost (hyphens : Bool) (name : String) : Nat :=
  if isBare name then
    marks false name.toList + if hyphens || !name.toList.contains '-' then 0 else 1
  else textCost name

def Segment.endsTail : Segment → Bool
  | .field name => isBare name && tailOf false name.toList
  | .spread inner => inner.endsTail
  | _ => false

/-- Whether a number may end where an expression ends. -/
def Expr.endsTail : Expr → Bool
  | .literal (.number _) => true
  | .ident name => tailOf false name.toList
  | .path _ segments => segments.getLast?.any (·.endsTail)
  | .unary _ operand => !operand.isCompound && operand.endsTail
  | .binary _ _ right => !right.isCompound && right.endsTail
  | .ternary _ _ no => no.endsTail
  | .elvis _ fallback => fallback.endsTail
  | _ => false

/-- What the point before a segment counts. -/
def pointCost (tail : Bool) (g : Segment) : Nat :=
  if g.isAttached then 0 else if tail then 1 else 2

mutual
def Expr.cost : Expr → Nat
  | .literal v => literalCost v
  | .list items => itemsCost items
  | .ident name => marks false name.toList
  | .path base segments =>
    base.cost + segmentsCost false (base.endsTail && keepsPoint base segments) segments
  | .unary _ operand => operand.cost
  | .binary _ left right => left.cost + right.cost
  | .ternary condition yes no => condition.cost + yes.cost + no.cost
  | .elvis value fallback => value.cost + fallback.cost
  | .closure c => c.cost
def Closure.cost : Closure → Nat
  | .mk params locals body =>
    (params.map (marks false ·.toList)).sum + localsCost locals + body.cost
def Segment.cost : (hyphens : Bool) → Segment → Nat
  | hyphens, .field name => fieldCost hyphens name
  | _, .index (.key k) => textCost k
  | _, .index (.range ..) => 3
  | _, .call name args => marks false name.toList + itemsCost args
  | hyphens, .spread inner => 2 + inner.cost hyphens
  | _, _ => 0
def itemsCost : List Expr → Nat
  | [] => 0
  | e :: es => e.cost + itemsCost es
def localsCost : List (String × Expr) → Nat
  | [] => 0
  | (name, e) :: ls => 2 + marks false name.toList + e.cost + localsCost ls
def segmentsCost : (hyphens tail : Bool) → List Segment → Nat
  | _, _, [] => 0
  | hyphens, tail, g :: gs =>
    pointCost tail g + g.cost hyphens + segmentsCost hyphens g.endsTail gs
end

mutual
/-- The weight of an expression inside the bracket it stands in. -/
def Expr.size : Expr → Nat
  | .literal v => literalSize v
  | .list _ => 1
  | .ident name => signs name.toList
  | .path base segments => base.size + segmentsSize segments
  | .unary op operand => signs op.chars + operand.size
  | .binary op left right => left.size + signs op.chars + right.size
  | .ternary condition yes no => condition.size + 1 + yes.size + no.size
  | .elvis value fallback => value.size + 1 + fallback.size
  | .closure _ => 0
def Segment.size : Segment → Nat
  | .field name => signs name.toList
  | .index _ => 1
  | .wildcard => 1
  | .descent => 2
  | .call name args => signs name.toList + lastSize args
  | .spread inner => 2 + inner.size
def lastSize : List Expr → Nat
  | [] => 0
  | [e] => e.size
  | _ :: es => lastSize es
def segmentsSize : List Segment → Nat
  | [] => 0
  | g :: gs => (if g.isAttached then 0 else 1) + g.size + segmentsSize gs
end

/-- The weight of the group that a segment ends in. -/
def Segment.hold : Segment → Nat
  | .call _ args => lastSize args
  | .spread inner => inner.hold
  | _ => 0

/-- The weight of a base, which is a group unless it is atomic. -/
def Expr.hold (base : Expr) : Nat := if base.isAtomic then 0 else base.size

mutual
def Expr.load : Expr → Nat
  | .list items => itemsLoad items
  | .path base segments => base.load + base.hold + segmentsLoad segments
  | .unary _ operand => operand.load
  | .binary _ left right => left.load + right.load
  | .ternary condition yes no => condition.load + yes.load + no.load
  | .elvis value fallback => value.load + fallback.load
  | .closure c => c.load
  | _ => 0
def Closure.load : Closure → Nat
  | .mk _ locals body => localsLoad locals + body.load
def Segment.load : Segment → Nat
  | .call _ args => itemsLoad args
  | .spread inner => inner.load
  | _ => 0
def itemsLoad : List Expr → Nat
  | [] => 0
  | e :: es => e.load + itemsLoad es
def localsLoad : List (String × Expr) → Nat
  | [] => 0
  | (_, e) :: ls => e.load + localsLoad ls
/-- The groups in segments, and those that another segment follows. -/
def segmentsLoad : List Segment → Nat
  | [] => 0
  | g :: gs => g.load + (if gs.isEmpty then 0 else g.hold) + segmentsLoad gs
end

namespace Path

def cost (p : Path) : Nat :=
  match p.segments with
  | [] => 0
  | g :: gs => g.cost true + segmentsCost true g.endsTail gs

def load (p : Path) : Nat := segmentsLoad p.segments

end Path

end DocPath
