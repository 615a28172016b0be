import DocPath.Proofs.Path.Source.Segments

/-!
Chains of segments pay for the segments in them and for their separators. A chain keeps two
things that its separators alone would not: no spread follows a star, and a key that starts with
a digit never follows a whole number with a single point.
-/

namespace DocPath

open Reader

/-- A text that pays for a chain of segments, before the rest of the text. -/
structure PaysForLinks (hyphens : Bool) (rest c : List Char) (gs : List Segment) : Prop where
  formed : wellFormedSegments gs
  none : gs = [] → c = []
  marks (tail : Bool) : segmentsCost hyphens tail gs ≤ marks tail c
  joins : gs ≠ [] → Joins c (segmentsSize gs) (segmentsLoad gs) 0
  point : gs.head?.any Segment.startsInDigit = true → NoFraction (c ++ rest) →
    ∀ tail, segmentsCost hyphens false gs ≤ DocPath.marks tail c
  star : gs.head?.any Segment.isSpread = true → c.head? = some '*'

theorem pointCost_mono {tail tail' : Bool} (h : tail = true → tail' = true) (g : Segment) :
    pointCost tail' g ≤ pointCost tail g := by
  unfold pointCost
  cases tail <;> cases tail' <;> split <;> simp at h ⊢

theorem segmentsCost_mono (hyphens : Bool) {tail tail' : Bool} (h : tail = true → tail' = true)
    (gs : List Segment) : segmentsCost hyphens tail' gs ≤ segmentsCost hyphens tail gs := by
  cases gs with
  | nil => exact Nat.le_refl _
  | cons g gs =>
    have point := pointCost_mono h g
    simp only [segmentsCost]
    omega

namespace PaysForSegment

variable {hyphens : Bool} {c : List Char} {g : Segment}

theorem attached (h : PaysForSegment hyphens c g) : g.isAttached = false := by
  have plain := h.plain
  cases g <;> first | rfl | cases plain

theorem spread (h : PaysForSegment hyphens c g) :
    PaysForLink hyphens ('*' :: '.' :: c) (.spread g) where
  formed := by
    rw [Segment.wellFormed, h.plain, h.formed]
    rfl
  marks tail := by
    have own := h.pays.marks false
    have star : isTail '*' = false := by decide
    rw [DocPath.marks, star, marks_point, pointCost, Segment.isAttached, if_pos rfl, Segment.cost]
    simp only [Bool.false_eq_true, if_false]
    omega
  joins := by
    have point : Pays ['.'] 0 1 0 0 := .of_free (by decide) (Nat.zero_le _) (by decide)
    refine ((point.append h.pays).joins (.inr (.inl rfl))).weaken ?_ ?_ (Nat.le_refl _)
    · simp only [Segment.isAttached, if_true, Segment.size]
      omega
    · simp only [Segment.load]
      omega
  ends tail last := h.ends false last
  point digit := by cases digit
  star _ := rfl

/-- A separator pays for the point of the segment after it, where that can be told. -/
theorem separated {d : List Char} (h : PaysForSegment hyphens c g)
    (separator : d = ['?', '.'] ∨ d = ['.']) : PaysForLink hyphens (d ++ c) g where
  formed := h.formed
  marks tail := by
    have own := h.pays.marks false
    have question : isTail '?' = false := by decide
    have cost : pointCost tail g = if tail then 1 else 2 := by
      rw [pointCost, h.attached]
      rfl
    rw [cost]
    rcases separator with rfl | rfl
    · rw [List.cons_append, DocPath.marks, question, List.cons_append, marks_point]
      simp only [Bool.false_eq_true, if_false, List.nil_append]
      split <;> omega
    · rw [List.cons_append, marks_point, List.nil_append]
      omega
  joins := by
    rw [h.attached]
    rcases separator with rfl | rfl
    · have point : Pays ['.'] 0 1 0 0 := .of_free (by decide) (Nat.zero_le _) (by decide)
      refine ((point.append h.pays).joins (.inr (.inr rfl))).weaken ?_ ?_ (Nat.le_refl _)
      · simp only [Bool.false_eq_true, if_false]
        omega
      · omega
    · refine (h.pays.joins (.inl rfl)).weaken ?_ (Nat.le_refl _) (Nat.le_refl _)
      simp only [Bool.false_eq_true, if_false]
      omega
  ends tail last := by
    rcases separator with rfl | rfl <;> exact h.ends false last
  point digit := by
    rcases separator with rfl | rfl
    -- Behind a question mark the point continues no number.
    · refine .inr fun tail => ?_
      have own := h.pays.marks false
      have question : isTail '?' = false := by decide
      rw [pointCost, h.attached, List.cons_append, DocPath.marks, question, List.cons_append,
        marks_point]
      simp only [Bool.false_eq_true, if_false, List.nil_append]
      omega
    · rcases h.point digit with ⟨x, xs, rfl, first⟩ | more
      · exact .inl ⟨x, xs, rfl, first⟩
      · refine .inr fun tail => ?_
        have own := more false
        rw [pointCost, h.attached, List.cons_append, marks_point]
        simp only [Bool.false_eq_true, if_false, List.nil_append]
        split <;> omega
  star spread := by
    have plain := h.plain
    have apart : g.isSpread = false := by cases g <;> first | rfl | cases plain
    rw [apart] at spread
    cases spread

end PaysForSegment

namespace PaysForLinks

theorem nil (hyphens : Bool) (rest : List Char) : PaysForLinks hyphens rest [] [] where
  formed := rfl
  none _ := rfl
  marks _ := Nat.le_refl _
  joins some := absurd rfl some
  point digit := by cases digit
  star spread := by cases spread

variable {hyphens : Bool} {c d rest : List Char} {g : Segment} {gs : List Segment}

theorem segmentsCost_le (links : PaysForLinks hyphens rest d gs) {cost : Nat} {tail : Bool}
    (ends : tailOf tail c = true → g.endsTail = true) (first : cost ≤ DocPath.marks tail c) :
    cost + segmentsCost hyphens g.endsTail gs ≤ DocPath.marks tail (c ++ d) := by
  have more := links.marks (tailOf tail c)
  have level := segmentsCost_mono hyphens ends gs
  rw [marks_append]
  omega

/-- No spread follows a star that ends a segment. -/
theorem formed_cons (links : PaysForLinks hyphens rest d gs) (formed : g.wellFormed)
    (apart : g.endsInStar = true → (d ++ rest).head? ≠ some '*') :
    wellFormedSegments (g :: gs) := by
  have free : (g.endsInStar && gs.head?.any Segment.isSpread) = false := by
    rw [Bool.and_eq_false_iff, ← Bool.not_eq_true, ← Bool.not_eq_true]
    by_cases star : g.endsInStar = true
    · refine .inr fun spread => apart star ?_
      rw [List.head?_append, links.star spread]
      rfl
    · exact .inl star
  rw [wellFormedSegments, formed, links.formed, free]
  rfl

theorem cons (links : PaysForLinks hyphens rest d gs) (link : PaysForLink hyphens c g)
    (apart : g.endsInStar = true → (d ++ rest).head? ≠ some '*') :
    PaysForLinks hyphens rest (c ++ d) (g :: gs) where
  formed := links.formed_cons link.formed apart
  none some := by cases some
  marks tail := links.segmentsCost_le (link.ends tail) (link.marks tail)
  joins _ := by
    cases gs with
    | nil =>
      rw [links.none rfl, List.append_nil]
      exact link.joins.weaken (Nat.le_refl _) (Nat.le_refl _) (Nat.zero_le _)
    | cons b bs => exact link.joins.append (links.joins (by simp))
  point digit := by
    intro fraction tail
    rcases link.point digit with ⟨x, xs, rfl, first⟩ | more
    · have none := fraction (x :: (xs ++ d ++ rest)) (by simp) x rfl
      rw [first] at none
      cases none
    · exact links.segmentsCost_le (link.ends tail) (more tail)
  star spread := by
    rw [List.head?_append, link.star spread]
    rfl

end PaysForLinks

namespace Reader

variable {s r : List Char} {hyphens : Bool}

theorem index_takes : Takes index fun c _ => c.all isFree := by
  refine (((Takes.char '-').optional.bind fun sign => (Takes.takeWhile1 isDigit).bind fun ds =>
    Takes.pure (sign.toList ++ ds)).check).mono ?_
  rintro c i ⟨cs, ⟨c₁, c₂, sign, rfl, signed, c₃, c₄, ds, rfl, ⟨rfl, all, -⟩, rfl, -⟩, -⟩
  have front : c₁.all isFree := by
    rcases signed with ⟨x, -, rfl, rfl⟩ | ⟨-, rfl⟩ <;> decide
  simp only [List.all_append, List.all_nil, front, isFree_digits all, Bool.and_self]

theorem rangeSelector_takes : Takes rangeSelector fun c i =>
    Pays c 3 0 0 0 ∧ ∃ a b e, i = .range a b e := by
  refine (index_takes.bind fun a => Takes.bind Neutral.blanks fun _ => (Takes.word "..").bind
    fun _ => Takes.bind (Neutral.char (x := '<') (by decide)).optional fun o =>
    Takes.bind Neutral.blanks fun _ => index_takes.commit.bind fun b =>
    Takes.pure (Selector.range a b o.isNone)).mono ?_
  rintro c i ⟨c₁, c₂, a, rfl, free₁, b₁, c₃, u₁, rfl, p₁, c₄, c₅, u₂, rfl, rfl, b₂, c₆, o, rfl, p₂,
    b₃, c₇, u₃, rfl, p₃, c₈, c₉, b, rfl, free₂, rfl, rfl⟩
  have points : Pays "..".toList 3 0 0 0 := .of_free (by decide) (by decide) (Nat.zero_le _)
  have tail := p₂.after (p₃.after ((Neutral.of_free free₂).after .nil))
  exact ⟨(Neutral.of_free free₁).after (p₁.after (points.append tail)), a, b, _, rfl⟩

theorem selector_takes (hyphens : Bool) : Takes selector fun c i =>
    Pays c ((Segment.index i).cost hyphens) 0 0 0 := by
  refine Takes.orElse (rangeSelector_takes.mono ?_) (.orElse ?_ ?_)
  · rintro c i ⟨pays, a, b, e, rfl⟩
    exact pays
  · refine (index_takes.bind fun i => Takes.pure (Selector.single i)).mono ?_
    rintro c i ⟨c₁, c₂, n, rfl, free, rfl, rfl⟩
    rw [List.append_nil]
    exact Neutral.of_free free
  · refine (stringLiteral_takes.bind fun k => Takes.pure (Selector.key k)).mono ?_
    rintro c i ⟨c₁, c₂, k, rfl, ⟨pays, -⟩, rfl, rfl⟩
    rw [List.append_nil]
    exact pays.weaken (Nat.le_refl _) (Nat.zero_le _) (Nat.le_refl _) (Nat.le_refl _)

theorem subscript_takes (hyphens : Bool) : Takes subscript fun c g =>
    ∃ i c', g = .index i ∧ c = '[' :: (c' ++ [']']) ∧ Inside c' (g.cost hyphens) 0 0 := by
  refine Takes.within _ (((Takes.char '[').bind fun _ => Takes.bind Neutral.blanks fun _ =>
    (selector_takes hyphens).commit.bind fun i => (Takes.bind Neutral.blanks fun _ =>
    (Takes.char ']').bind fun _ => Takes.pure ()).commit.bind fun _ =>
    Takes.pure (Segment.index i)).mono ?_)
  rintro c g ⟨c₁, c₂, x, rfl, ⟨rfl, -⟩, b₁, c₃, u₁, rfl, p₁, c₄, c₅, i, rfl, pays, c₆, c₇, u₂, rfl,
    ⟨b₂, c₈, u₃, rfl, p₂, c₉, c₁₀, u₄, rfl, ⟨rfl, -⟩, rfl, -⟩, rfl, rfl⟩
  refine ⟨i, b₁ ++ (c₄ ++ b₂), rfl, ?_, (p₁.after (pays.before p₂)).inside⟩
  simp only [List.append_assoc, List.append_nil, List.cons_append, List.nil_append]

theorem subscript_link (hyphens : Bool) : Takes subscript (PaysForLink hyphens) := by
  refine (subscript_takes hyphens).mono ?_
  rintro c g ⟨i, c', rfl, rfl, inside⟩
  refine ⟨rfl, fun tail => ?_, ?_, fun tail last => ?_, fun digit => ?_, fun star => ?_⟩
  · exact (Nat.zero_add _).symm ▸ inside.marks_bracket _ _ tail
  · exact inside.square_joins
  · rw [← List.cons_append, tailOf_concat] at last
    cases last
  · cases digit
  · cases star

theorem segment_star {expr : Reader Expr} {n : Nat} {g : Segment}
    (read : segment expr n hyphens s = .done g r) (star : g = .wildcard) :
    r.head? ≠ some '*' := by
  subst star
  rcases done_of_orElse read with two | ⟨miss, read⟩
  · obtain ⟨u, t, -, given⟩ := done_of_bind two
    cases given
  rcases done_of_orElse read with one | ⟨-, read⟩
  · obtain ⟨u, t, first, given⟩ := done_of_bind one
    cases given
    obtain ⟨c, text, rfl⟩ := Takes.word "*" s u r first
    intro again
    cases r with
    | nil => cases again
    | cons x xs =>
      cases again
      obtain ⟨e, miss⟩ := miss
      rw [text] at miss
      exact absurd ((bind_done (word_append "**" xs)).symm.trans miss) (by intro same; cases same)
  rcases done_of_orElse read with called | ⟨-, read⟩
  · obtain ⟨name, args, t, other, -⟩ := done_of_call called
    cases other
  rcases done_of_orElse read with quoted | ⟨-, bare⟩
  · obtain ⟨k, t, -, given⟩ := done_of_bind quoted
    cases given
  · obtain ⟨k, t, -, given⟩ := done_of_bind bare
    cases given

section
variable {expr : Reader Expr} (h : Takes expr (PaysFor false)) (n : Nat)
include h

theorem subsequent_takes (hyphens : Bool) :
    Takes (subsequent expr n hyphens) (PaysForLink hyphens) := by
  have inner := segment_takes h n hyphens
  refine Takes.orElse ?spread (.orElse ?point (subscript_link hyphens))
  case spread =>
    refine ((Takes.word "*.").bind fun _ => (inner.within _).commit.bind fun g =>
      Takes.pure (Segment.spread g)).mono ?_
    rintro c g ⟨c₁, c₂, u, rfl, rfl, c₃, c₄, i, rfl, paid, rfl, rfl⟩
    rw [List.append_nil]
    exact paid.spread
  case point =>
    have both : Takes (word "?." <|> word ".") fun c _ => c = ['?', '.'] ∨ c = ['.'] :=
      ((Takes.word "?.").mono fun _ _ text => .inl text).orElse
        ((Takes.word ".").mono fun _ _ text => .inr text)
    refine (both.bind fun _ => (inner.within _).commit).mono ?_
    rintro c g ⟨c₁, c₂, u, rfl, separator, paid⟩
    exact paid.separated separator

theorem subsequent_star {g : Segment} (read : subsequent expr n hyphens s = .done g r)
    (star : g.endsInStar = true) : r.head? ≠ some '*' := by
  rcases done_of_orElse read with spread | ⟨-, read⟩
  · obtain ⟨u, t, -, rest⟩ := done_of_bind spread
    obtain ⟨i, v, first, given⟩ := done_of_bind rest
    cases given
    refine segment_star (done_of_within (done_of_commit first)) ?_
    cases i <;> first | rfl | cases star
  rcases done_of_orElse read with point | ⟨-, read⟩
  · obtain ⟨u, t, -, first⟩ := done_of_bind point
    have inner := done_of_within (done_of_commit first)
    obtain ⟨c, -, paid⟩ := segment_takes h n hyphens t g r inner
    refine segment_star inner ?_
    have plain := paid.plain
    cases g <;> first | rfl | cases star | cases plain
  · obtain ⟨c, -, i, c', rfl, -⟩ := subscript_takes hyphens s g r read
    cases star

theorem links_done (k : Nat) {gs : List Segment}
    (read : many (subsequent expr n hyphens) k s = .done gs r) :
    ∃ c, s = c ++ r ∧ PaysForLinks hyphens r c gs := by
  induction k generalizing s gs with
  | zero =>
    cases read
    exact ⟨[], rfl, .nil hyphens _⟩
  | succ k ih =>
    rcases done_of_many read with ⟨rfl, rfl, -⟩ | ⟨g, t, gs, rfl, first, rest⟩
    · exact ⟨[], rfl, .nil hyphens _⟩
    · obtain ⟨c₁, text₁, link⟩ := subsequent_takes h n hyphens s g t first
      obtain ⟨c₂, text₂, links⟩ := ih rest
      refine ⟨c₁ ++ c₂, by rw [text₁, text₂, List.append_assoc], links.cons link fun star => ?_⟩
      rw [← text₂]
      exact subsequent_star h n first star

end

end Reader

end DocPath
