import DocPath.Proofs.Path.Source.Closures

/-!
A text pays for the segments that are read from it. A point pays less after a number than after
other text, and the segment before it tells which it is; only a key that starts with a digit can
be after a point that does not show that a number ended before it.
-/

namespace DocPath

open Reader

/-- A text that pays for a segment at the start of a path or after a separator. -/
structure PaysForSegment (hyphens : Bool) (c : List Char) (g : Segment) : Prop where
  formed : g.wellFormed
  plain : g.canSpread
  pays : Pays c (g.cost hyphens) g.size g.load g.hold
  ends (tail : Bool) : tailOf tail c = true → g.endsTail = true
  point : g.startsInDigit = true →
    (∃ d t, c = d :: t ∧ isDigit d) ∨ ∀ tail, g.cost hyphens + 1 ≤ marks tail c

structure PaysForLink (hyphens : Bool) (c : List Char) (g : Segment) : Prop where
  formed : g.wellFormed
  marks (tail : Bool) : pointCost tail g + g.cost hyphens ≤ marks tail c
  joins : Joins c ((if g.isAttached then 0 else 1) + g.size) g.load g.hold
  ends (tail : Bool) : tailOf tail c = true → g.endsTail = true
  point : g.startsInDigit = true → (∃ d t, c = '.' :: d :: t ∧ isDigit d) ∨
    ∀ tail, pointCost false g + g.cost hyphens ≤ DocPath.marks tail c
  star : g.isSpread = true → c.head? = some '*'

theorem fieldCost_le (hyphens : Bool) (k : String) : fieldCost hyphens k ≤ textCost k := by
  unfold fieldCost textCost
  split <;> split <;> omega

theorem fieldCost_lt {k : String} (hyphens : Bool) (bare : isBare k) :
    fieldCost hyphens k + 1 ≤ textCost k := by
  unfold fieldCost textCost
  rw [if_pos bare]
  split <;> omega

namespace Reader

variable {s r : List Char} {hyphens : Bool}

theorem paysForSegment_quoted {c : List Char} {k : String}
    (pays : Pays c (textCost k) (signs k.toList) 0 0) (closed : ∀ tail, tailOf tail c = false) :
    PaysForSegment hyphens c (.field k) where
  formed := rfl
  plain := rfl
  pays := pays.weaken (fieldCost_le hyphens k) (Nat.le_refl _) (Nat.le_refl _) (Nat.le_refl _)
  ends tail last := by
    rw [closed] at last
    cases last
  point digit := by
    simp only [Segment.startsInDigit, Bool.and_eq_true] at digit
    exact .inr fun tail => Nat.le_trans (fieldCost_lt hyphens digit.1) (pays.marks tail)

theorem paysForSegment_bare {c : List Char} {k : String} (text : c = k.toList) (bare : isBare k)
    (allowed : (hyphens || !k.toList.contains '-') = true) :
    PaysForSegment hyphens c (.field k) := by
  subst text
  have own : fieldCost hyphens k = marks false k.toList := by
    rw [fieldCost, if_pos bare, if_pos allowed, Nat.add_zero]
  obtain ⟨x, xs, chars, -⟩ := isBare_parts bare
  refine ⟨rfl, rfl, ?_, fun tail last => ?_, fun digit => ?_⟩
  · rw [Segment.cost, own]
    exact pays_name (isBare_keys bare)
  · rw [chars] at last
    rw [Segment.endsTail, bare, chars]
    exact last
  · simp only [Segment.startsInDigit, chars, List.head?_cons, Option.any_some,
      Bool.and_eq_true] at digit
    exact .inl ⟨x, xs, chars, digit.2⟩

theorem paysForSegment_stars {c : List Char} {g : Segment} (stars : c = ['*'] ∨ c = ['*', '*'])
    (formed : g.wellFormed) (plain : g.canSpread) (free : g.cost hyphens = 0)
    (size : g.size ≤ signs c) (load : g.load = 0) (hold : g.hold = 0)
    (digit : g.startsInDigit = false) : PaysForSegment hyphens c g where
  formed := formed
  plain := plain
  pays := by
    have all : c.all isFree := by rcases stars with rfl | rfl <;> decide
    exact (Pays.of_free all (Nat.zero_le _) size).weaken (by omega) (Nat.le_refl _) (by omega)
      (by omega)
  ends tail last := by rcases stars with rfl | rfl <;> cases last
  point start := by rw [digit] at start; cases start

theorem methodName_takes : Takes methodName fun c name => c = name.toList ∧ isIdentifier name := by
  refine (identifier_takes.bind fun name => (Takes.ahead ((do
    let _ ← char '('
    pure ()) <|> (do
    blanks
    let _ ← char '{'
    pure ()))).bind fun _ => Takes.pure name).mono ?_
  rintro c name ⟨c₁, c₂, m, rfl, ⟨rfl, word⟩, c₃, c₄, u, rfl, rfl, rfl, rfl⟩
  exact ⟨List.append_nil _, word⟩

theorem done_of_call {expr : Reader Expr} {n : Nat} {g : Segment}
    (read : call expr n s = .done g r) :
    ∃ name args t, g = .call name args ∧ isKnownCall name args.length ∧
      methodName s = .done name t ∧ callArguments expr n t = .done args r := by
  unfold call at read
  split at read
  · cases read
  · cases read
  · next name t first =>
    split at read
    · cases read
    · next method known =>
      split at read
      · cases read
      · cases read
      · next args u second =>
        split at read
        · next accepted =>
          cases read
          exact ⟨name, args, t, rfl, by simp [isKnownCall, known, accepted], first, second⟩
        · cases read

section
variable {expr : Reader Expr} (h : Takes expr (PaysFor false)) (n : Nat)
include h

theorem call_takes (hyphens : Bool) : Takes (call expr n) (PaysForSegment hyphens) := by
  intro s g r read
  obtain ⟨name, args, t, rfl, known, first, second⟩ := done_of_call read
  obtain ⟨c₁, text₁, rfl, word⟩ := methodName_takes s name t first
  obtain ⟨c₂, text₂, paid⟩ := callArguments_takes h n t args r second
  have pays := (pays_identifier word).append paid.pays
  refine ⟨name.toList ++ c₂, by rw [text₁, text₂, List.append_assoc], ?_, rfl, ?_,
    fun tail last => ?_, fun digit => by cases digit⟩
  · rw [Segment.wellFormed, known, paid.formed]
    rfl
  · refine pays.weaken (Nat.le_refl _) (Nat.le_refl _) ?_ (Nat.le_refl _)
    rw [Segment.load]
    omega
  · rw [tailOf_append, paid.closed] at last
    cases last

theorem segment_takes (hyphens : Bool) :
    Takes (segment expr n hyphens) (PaysForSegment hyphens) := by
  have stars (w : String) (g : Segment) (ok : PaysForSegment hyphens w.toList g) :
      Takes (do word w; pure g) (PaysForSegment hyphens) := by
    refine ((Takes.word w).bind fun _ => Takes.pure g).mono ?_
    rintro c g ⟨c₁, c₂, u, rfl, rfl, rfl, rfl⟩
    rw [List.append_nil]
    exact ok
  refine Takes.orElse (stars "**" .descent ?_) (.orElse (stars "*" .wildcard ?_)
    (.orElse (call_takes h n hyphens) (.orElse ?_ ?_)))
  · exact paysForSegment_stars (.inr rfl) rfl rfl rfl (by decide) rfl rfl rfl
  · exact paysForSegment_stars (.inl rfl) rfl rfl rfl (by decide) rfl rfl rfl
  · refine (stringLiteral_takes.bind fun k => Takes.pure (Segment.field k)).mono ?_
    rintro c g ⟨c₁, c₂, k, rfl, ⟨pays, closed⟩, rfl, rfl⟩
    rw [List.append_nil]
    exact paysForSegment_quoted pays closed
  · refine ((bareKey_takes hyphens).bind fun k => Takes.pure (Segment.field k)).mono ?_
    rintro c g ⟨c₁, c₂, k, rfl, ⟨text, bare, allowed⟩, rfl, rfl⟩
    rw [List.append_nil]
    exact paysForSegment_bare text bare allowed

end

end Reader

end DocPath
