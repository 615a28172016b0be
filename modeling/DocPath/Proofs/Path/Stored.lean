import DocPath.Path.Stored
import DocPath.Proofs.Path.Alike
import DocPath.Proofs.Path.Printed.Load
import DocPath.Proofs.Path.RoundTrip
import DocPath.Proofs.Path.Source.Whole

/-!
Which of the paths that are read keep their meaning as text. Any text that is read as a path pays
for its marks and its groups, and so does any text that is read as an equal path; the printed text
of a path that is not legible, or has a base that would need parentheses, pays too little.
-/

namespace DocPath

theorem sameAs_self_number {x : Number} (literal : x.isLiteral) (legible : x.isLegible) :
    x.sameAs x := by
  cases x with
  | int n => simp [Number.sameAs]
  | long n => simp [Number.sameAs]
  | bigInteger d => simp [Number.sameAs, Decimal.compare_self]
  | bigDecimal d => simp [Number.sameAs, Decimal.compare_self]
  | double y => cases legible
  | float y => cases literal
  | exact t => cases literal

theorem sameAs_self_literal {v : Value} (formed : isLiteralValue v) (legible : isLegibleValue v) :
    v.sameAs v := by
  cases v with
  | null => simp [Value.sameAs]
  | bool b => simp [Value.sameAs]
  | string s => simp [Value.sameAs]
  | number x =>
    simp only [Value.sameAs]
    exact sameAs_self_number formed legible
  | list vs => cases formed
  | map es => cases formed
  | node e => cases formed

mutual
theorem Expr.sameAs_self : ∀ (argument : Bool) (e : Expr), e.wellFormed argument → e.legible →
    e.sameAs e
  | _, .literal v, formed, legible => by
    simp only [Expr.sameAs]
    exact sameAs_self_literal formed legible
  | _, .list es, formed, legible => by
    simp only [Expr.sameAs]
    exact sameExprs_self false es formed legible
  | _, .ident name, _, _ => by simp [Expr.sameAs]
  | _, .path base gs, formed, legible => by
    simp only [Expr.wellFormed, Bool.and_eq_true] at formed
    simp only [Expr.legible, Bool.and_eq_true] at legible
    simp only [Expr.sameAs, Bool.and_eq_true]
    exact ⟨base.sameAs_self false formed.1.1 legible.1.1,
      sameSegments_self false gs formed.2 legible.1.2⟩
  | _, .unary op e, formed, legible => by
    simp only [Expr.sameAs, Bool.and_eq_true, beq_self_eq_true, true_and]
    exact e.sameAs_self false formed legible
  | _, .binary op l r, formed, legible => by
    simp only [Expr.wellFormed, Bool.and_eq_true] at formed
    simp only [Expr.legible, Bool.and_eq_true] at legible
    simp only [Expr.sameAs, Bool.and_eq_true, beq_self_eq_true, true_and]
    exact ⟨l.sameAs_self false formed.1 legible.1, r.sameAs_self false formed.2 legible.2⟩
  | _, .ternary a b c, formed, legible => by
    simp only [Expr.wellFormed, Bool.and_eq_true] at formed
    simp only [Expr.legible, Bool.and_eq_true] at legible
    simp only [Expr.sameAs, Bool.and_eq_true]
    exact ⟨⟨a.sameAs_self false formed.1.1 legible.1.1, b.sameAs_self false formed.1.2 legible.1.2⟩,
      c.sameAs_self false formed.2 legible.2⟩
  | _, .elvis a b, formed, legible => by
    simp only [Expr.wellFormed, Bool.and_eq_true] at formed
    simp only [Expr.legible, Bool.and_eq_true] at legible
    simp only [Expr.sameAs, Bool.and_eq_true]
    exact ⟨a.sameAs_self false formed.1 legible.1, b.sameAs_self false formed.2 legible.2⟩
  | _, .closure k, formed, legible => by
    simp only [Expr.wellFormed, Bool.and_eq_true] at formed
    simp only [Expr.sameAs]
    exact k.sameAs_self formed.2 legible
theorem Closure.sameAs_self : ∀ k : Closure, k.wellFormed → k.legible → k.sameAs k
  | .mk params locals body, formed, legible => by
    simp only [Closure.wellFormed, Bool.and_eq_true] at formed
    simp only [Closure.legible, Bool.and_eq_true] at legible
    simp only [Closure.sameAs, Bool.and_eq_true, beq_self_eq_true, true_and]
    exact ⟨sameLocals_self locals formed.1.2 legible.1,
      body.sameAs_self false formed.2 legible.2⟩
theorem Segment.sameAs_self : ∀ (hyphens : Bool) (g : Segment), g.wellFormed →
    g.legible hyphens → g.sameAs g
  | _, .field _, _, _ | _, .index _, _, _ | _, .wildcard, _, _ | _, .descent, _, _ => by
    simp [Segment.sameAs]
  | _, .call name es, formed, legible => by
    simp only [Segment.wellFormed, Bool.and_eq_true] at formed
    simp only [Segment.sameAs, Bool.and_eq_true, beq_self_eq_true, true_and]
    exact sameExprs_self true es formed.2 legible
  | hyphens, .spread g, formed, legible => by
    simp only [Segment.wellFormed, Bool.and_eq_true] at formed
    simp only [Segment.sameAs]
    exact g.sameAs_self hyphens formed.2 legible
theorem sameExprs_self : ∀ (argument : Bool) (es : List Expr), wellFormedItems argument es →
    legibleItems es → sameExprs es es
  | _, [], _, _ => by simp only [sameExprs]
  | argument, e :: es, formed, legible => by
    simp only [wellFormedItems, Bool.and_eq_true] at formed
    simp only [legibleItems, Bool.and_eq_true] at legible
    simp only [sameExprs, Bool.and_eq_true]
    exact ⟨e.sameAs_self argument formed.1 legible.1,
      sameExprs_self argument es formed.2 legible.2⟩
theorem sameLocals_self : ∀ ls : List (String × Expr), wellFormedLocals ls → legibleLocals ls →
    sameLocals ls ls
  | [], _, _ => by simp only [sameLocals]
  | (name, e) :: ls, formed, legible => by
    simp only [wellFormedLocals, Bool.and_eq_true] at formed
    simp only [legibleLocals, Bool.and_eq_true] at legible
    simp only [sameLocals, Bool.and_eq_true, beq_self_eq_true, true_and]
    exact ⟨e.sameAs_self false formed.1.2 legible.1, sameLocals_self ls formed.2 legible.2⟩
theorem sameSegments_self : ∀ (hyphens : Bool) (gs : List Segment), wellFormedSegments gs →
    legibleSegments hyphens gs → sameSegments gs gs
  | _, [], _, _ => by simp only [sameSegments]
  | hyphens, g :: gs, formed, legible => by
    simp only [wellFormedSegments, Bool.and_eq_true] at formed
    simp only [legibleSegments, Bool.and_eq_true] at legible
    simp only [sameSegments, Bool.and_eq_true]
    exact ⟨g.sameAs_self hyphens formed.1.1 legible.1,
      sameSegments_self hyphens gs formed.2 legible.2⟩
end

namespace Path

variable {p q : Path}

theorem read_dollar (h : p.segments = [.field "$"]) : Path.read p.render = .ok ⟨[]⟩ := by
  obtain ⟨gs⟩ := p
  simp only at h
  subst h
  rfl

theorem isPrintable_of_same (formed : p.wellFormed) (read : Path.read p.render = .ok q)
    (same : q.sameAs p) : p.isPrintable := by
  have paid : PaysForPath p.chars q := by
    refine readChars_pays ?_
    have text : p.render.toList = p.chars := String.toList_ofList
    rw [← text]
    exact read
  obtain ⟨cost, load⟩ := alike same
  -- The text pays for the path that was read; were a word or a base of the printed one not legible,
  -- its text would pay less.
  have words : legibleSegments true p.segments := by
    have low := paid.pays.marks false
    have high := marks_chars formed
    cases legible : legibleSegments true p.segments with
    | true => rfl
    | false =>
      have one : lack false = 1 := rfl
      rw [legible, one] at high
      omega
  have groups : unbracketedSegments p.segments := by
    have low := (paid.pays.grows Meter.start rfl).total
    have none : Meter.start.total = 0 := rfl
    have high := load_chars formed words
    cases plain : unbracketedSegments p.segments with
    | true => rfl
    | false =>
      have one : lack false = 1 := rfl
      rw [plain, one] at high
      omega
  have other : p.segments ≠ [.field "$"] := by
    intro dollar
    rw [read_dollar dollar] at read
    cases read
    simp only [sameAs, dollar, sameSegments, Bool.false_eq_true] at same
  simp only [isPrintable, legible, formed, words, groups, Bool.true_and, Bool.and_true,
    Bool.not_eq_true']
  split
  · next name alone =>
    rw [beq_eq_false_iff_ne]
    rintro rfl
    exact other alone
  · rfl

theorem sameAs_self (h : p.isPrintable) : p.sameAs p := by
  simp only [isPrintable, wellFormed, legible, Bool.and_eq_true] at h
  exact sameSegments_self true p.segments h.1.1.2 h.1.2.1

theorem ofJson_toJson_ok : ofJson p.toJson = .ok q ↔ Path.read p.render = .ok q := by
  simp only [toJson, ofJson]
  cases Path.read p.render with
  | ok r => simp
  | error e => simp

/-- The text of a path that was read is read as an equal path exactly if its words are legible and
its bases need no parentheses; a stored path is loaded as an equal one in the same cases. -/
theorem read_again_iff {t : String} (h : Path.read t = .ok p) :
    ((∃ q, Path.read p.render = .ok q ∧ q.sameAs p) ↔
      p.legible ∧ unbracketedSegments p.segments) ∧
    ((∃ q, ofJson p.toJson = .ok q ∧ q.sameAs p) ↔
      p.legible ∧ unbracketedSegments p.segments) := by
  have formed := (readChars_pays h).formed
  have whole : p.isPrintable ↔ p.legible ∧ unbracketedSegments p.segments := by
    simp only [isPrintable, formed, Bool.true_and, Bool.and_eq_true]
  have again : (∃ q, Path.read p.render = .ok q ∧ q.sameAs p) ↔ p.isPrintable := by
    constructor
    · rintro ⟨q, read, same⟩
      exact isPrintable_of_same formed read same
    · intro printable
      exact ⟨p, read_render p printable, sameAs_self printable⟩
  simp only [ofJson_toJson_ok]
  exact ⟨again.trans whole, again.trans whole⟩

/-- A quote that was escaped is not escaped again, and a base loses its parentheses. -/
theorem read_again_iff_escaped :
    (∃ p, Path.read "'te\\'st'" = .ok p ∧
      ¬ ∃ q, Path.read p.render = .ok q ∧ q.sameAs p) ∧
    ∃ p, Path.read "a.find((b + 1).c)" = .ok p ∧
      ¬ ∃ q, Path.read p.render = .ok q ∧ q.sameAs p := by
  constructor
  · have word : (Path.read "'te\\'st'").toOption.all legible = false := by decide +kernel
    cases read : Path.read "'te\\'st'" with
    | ok p =>
      rw [read] at word
      exact ⟨p, rfl, fun again => by
        simp [Except.toOption, ((read_again_iff read).1.mp again).1] at word⟩
    | error e =>
      rw [read] at word
      cases word
  · have group : (Path.read "a.find((b + 1).c)").toOption.all
        (unbracketedSegments ·.segments) = false := by decide +kernel
    cases read : Path.read "a.find((b + 1).c)" with
    | ok p =>
      rw [read] at group
      exact ⟨p, rfl, fun again => by
        simp [Except.toOption, ((read_again_iff read).1.mp again).2] at group⟩
    | error e =>
      rw [read] at group
      cases group

end Path

end DocPath
