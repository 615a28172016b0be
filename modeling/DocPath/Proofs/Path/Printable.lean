import DocPath.Proofs.Reader.Words

/-!
Which paths are printed as texts that are read back. Three things are asked: the tree has a form
that the grammar can denote, its words show what they are, and the bases of paths inside it need
no parentheses.
-/

namespace DocPath

def isLiteralValue : Value → Bool
  | .null | .bool _ | .string _ => true
  | .number x => x.isLiteral
  | _ => false

def isLegibleValue : Value → Bool
  | .string s => isPlain s
  | .number x => x.isLegible
  | _ => true

namespace Expr

/-- Expressions that are one unit of text. -/
def isAtomic : Expr → Bool
  | .literal _ | .list _ | .ident _ => true
  | _ => false

/-- Expressions whose text ends in a whole number, which a point and a digit would continue. -/
def endsInWhole : Expr → Bool
  | .literal (.number x) => x.isWhole
  | .unary _ operand => !operand.isCompound && operand.endsInWhole
  | .binary _ _ right => !right.isCompound && right.endsInWhole
  | .ternary _ _ no => no.endsInWhole
  | .elvis _ fallback => fallback.endsInWhole
  | _ => false

end Expr

namespace Segment

def isSpread : Segment → Bool
  | .spread _ => true
  | _ => false

def endsInStar : Segment → Bool
  | .wildcard | .spread .wildcard => true
  | _ => false

def canSpread : Segment → Bool
  | .field _ | .wildcard | .descent | .call .. => true
  | _ => false

/-- Bare keys that would continue a number before their point. -/
def startsInDigit : Segment → Bool
  | .field name => isBare name && name.toList.head?.any isDigit
  | _ => false

end Segment

def isKnownCall (name : String) (count : Nat) : Bool :=
  (Method.named? name).any (·.accepts count)

theorem Method.isIdentifier_label (m : Method) : isIdentifier m.label := by
  cases m <;> decide +kernel

theorem isKnownCall_parts {name : String} {count : Nat} (h : isKnownCall name count) :
    ∃ m, Method.named? name = some m ∧ m.accepts count ∧ isIdentifier name := by
  simp only [isKnownCall, Option.any_eq_true] at h
  obtain ⟨m, named, accepts⟩ := h
  have label : m.label = name := Method.label_of_named? named
  exact ⟨m, named, accepts, label ▸ m.isIdentifier_label⟩

/-- Whether the point after a base is not read as that of a fraction. -/
def keepsPoint (base : Expr) (segments : List Segment) : Bool :=
  !(base.endsInWhole && segments.head?.any (·.startsInDigit))

mutual
/-- Trees that the grammar can denote; closures are arguments only. -/
def Expr.wellFormed : (argument : Bool) → Expr → Bool
  | _, .literal v => isLiteralValue v
  | _, .list items => wellFormedItems false items
  | _, .ident name => isName name
  | _, .path base segments =>
    base.wellFormed false && !segments.isEmpty && wellFormedSegments segments
  | _, .unary _ operand => operand.wellFormed false
  | _, .binary _ left right => left.wellFormed false && right.wellFormed false
  | _, .ternary condition yes no =>
    condition.wellFormed false && yes.wellFormed false && no.wellFormed false
  | _, .elvis value fallback => value.wellFormed false && fallback.wellFormed false
  | argument, .closure c => argument && c.wellFormed
def Closure.wellFormed : Closure → Bool
  | .mk params locals body =>
    params.all isName && wellFormedLocals locals && body.wellFormed false
def Segment.wellFormed : Segment → Bool
  | .call name args => isKnownCall name args.length && wellFormedItems true args
  | .spread inner => inner.canSpread && inner.wellFormed
  | _ => true
def wellFormedItems : (argument : Bool) → List Expr → Bool
  | _, [] => true
  | argument, e :: es => e.wellFormed argument && wellFormedItems argument es
def wellFormedLocals : List (String × Expr) → Bool
  | [] => true
  | (name, e) :: ls => isName name && e.wellFormed false && wellFormedLocals ls
def wellFormedSegments : List Segment → Bool
  | [] => true
  | s :: ss =>
    s.wellFormed && !(s.endsInStar && ss.head?.any Segment.isSpread) && wellFormedSegments ss
end

/-- Keys whose text shows what they are, among keys with or without hyphens. -/
def isLegibleKey (hyphens : Bool) (name : String) : Bool :=
  if isBare name then hyphens || !name.toList.contains '-' else isPlain name

mutual
def Expr.legible : Expr → Bool
  | .literal v => isLegibleValue v
  | .list items => legibleItems items
  | .ident _ => true
  | .path base segments =>
    base.legible && legibleSegments false segments && keepsPoint base segments
  | .unary _ operand => operand.legible
  | .binary _ left right => left.legible && right.legible
  | .ternary condition yes no => condition.legible && yes.legible && no.legible
  | .elvis value fallback => value.legible && fallback.legible
  | .closure c => c.legible
def Closure.legible : Closure → Bool
  | .mk _ locals body => legibleLocals locals && body.legible
def Segment.legible : (hyphens : Bool) → Segment → Bool
  | hyphens, .field name => isLegibleKey hyphens name
  | _, .index (.key k) => isPlain k
  | _, .call _ args => legibleItems args
  | hyphens, .spread inner => inner.legible hyphens
  | _, _ => true
def legibleItems : List Expr → Bool
  | [] => true
  | e :: es => e.legible && legibleItems es
def legibleLocals : List (String × Expr) → Bool
  | [] => true
  | (_, e) :: ls => e.legible && legibleLocals ls
def legibleSegments : (hyphens : Bool) → List Segment → Bool
  | _, [] => true
  | hyphens, s :: ss => s.legible hyphens && legibleSegments hyphens ss
end

mutual
/-- Trees in which the base of every path is atomic, so that it needs no parentheses. -/
def Expr.unbracketed : Expr → Bool
  | .list items => unbracketedItems items
  | .path base segments =>
    base.isAtomic && base.unbracketed && unbracketedSegments segments
  | .unary _ operand => operand.unbracketed
  | .binary _ left right => left.unbracketed && right.unbracketed
  | .ternary condition yes no => condition.unbracketed && yes.unbracketed && no.unbracketed
  | .elvis value fallback => value.unbracketed && fallback.unbracketed
  | .closure c => c.unbracketed
  | _ => true
def Closure.unbracketed : Closure → Bool
  | .mk _ locals body => unbracketedLocals locals && body.unbracketed
def Segment.unbracketed : Segment → Bool
  | .call _ args => unbracketedItems args
  | .spread inner => inner.unbracketed
  | _ => true
def unbracketedItems : List Expr → Bool
  | [] => true
  | e :: es => e.unbracketed && unbracketedItems es
def unbracketedLocals : List (String × Expr) → Bool
  | [] => true
  | (_, e) :: ls => e.unbracketed && unbracketedLocals ls
def unbracketedSegments : List Segment → Bool
  | [] => true
  | s :: ss => s.unbracketed && unbracketedSegments ss
end

namespace Path

/-- No path starts with a spread, whose star would be read as a wildcard. -/
def wellFormed (p : Path) : Bool :=
  !p.segments.head?.any Segment.isSpread && wellFormedSegments p.segments

/-- The key that is spelled like the root is not legible alone. -/
def legible (p : Path) : Bool :=
  legibleSegments true p.segments &&
    !(match p.segments with
      | [.field name] => name == "$"
      | _ => false)

/-- Paths whose text is read back. -/
def isPrintable (p : Path) : Bool :=
  p.wellFormed && p.legible && unbracketedSegments p.segments

end Path

end DocPath
