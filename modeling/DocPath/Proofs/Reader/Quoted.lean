import DocPath.Proofs.Path.Measure
import DocPath.Proofs.Reader.Takes

/-!
A quoted text pays for the text it denotes. An escape has at least as many marks as the character
it stands for and one more, so a text that has to be escaped costs one more than its own marks.
-/

namespace DocPath.Reader

/-- What a piece of quoted text pays for a character: the marks of the character, one more where
it has to be escaped, and the difference that the end of the piece makes to a point after it. -/
def credit (tail tail' : Bool) : Nat := if tail && !tail' then 1 else 0

def escapeCost (q : Quote) (a : Char) : Nat := if q = .single && !isPlainChar a then 1 else 0

/-- A piece of quoted text that stands for a character. -/
structure Piece (q : Quote) (c : List Char) (a : Char) : Prop where
  marks (tail tail' : Bool) : mark tail' a + escapeCost q a + credit (tailOf tail c) (isTail a) ≤
    marks tail c + credit tail tail'
  grows (m : Meter) (h : m.mode = .quoted q) : (m.run c).mode = .quoted q ∧
    (m.run c).below = m.below ∧ m.top + sign a ≤ (m.run c).top ∧ (m.run c).total = m.total

theorem piece_plain {q : Quote} {a : Char} (quote : a ≠ q.char) (slash : a ≠ '\\') :
    Piece q [a] a where
  marks tail tail' := by
    have free : escapeCost q a = 0 := by
      cases q with
      | single =>
        have other : a ≠ '\'' := quote
        simp [escapeCost, isPlainChar, other, slash]
      | double => simp [escapeCost]
    have same : tailOf tail [a] = isTail a := rfl
    rw [free, same]
    by_cases point : a = '.'
    · subst point
      cases tail <;> cases tail' <;> decide
    · have level : mark tail' a = mark tail a := by simp [mark, point]
      have none : credit (isTail a) (isTail a) = 0 := by
        cases isTail a <;> rfl
      rw [level, none]
      simp only [DocPath.marks]
      omega
  grows m h := by
    rw [Meter.run_cons, Meter.run_nil, Meter.step_quoted h quote slash]
    exact ⟨h, rfl, Nat.le_refl _, rfl⟩

theorem credit_le (tail tail' : Bool) : credit tail tail' ≤ 1 := by
  cases tail <;> cases tail' <;> decide

theorem run_escape {q : Quote} {x : Char} {ds : List Char} (m : Meter) (h : m.mode = .quoted q)
    (digits : ds.all isHexDigit) :
    (m.run ('\\' :: x :: ds)).mode = .quoted q ∧ (m.run ('\\' :: x :: ds)).below = m.below ∧
      m.top + sign x ≤ (m.run ('\\' :: x :: ds)).top ∧
      (m.run ('\\' :: x :: ds)).total = m.total := by
  have quote : '\\' ≠ q.char := by cases q <;> decide
  have first : m.step '\\' = { m with mode := .escaped q } := by
    simp [Meter.step, h, quote]
  have second : ({ m with mode := .escaped q } : Meter).step x =
      { m.weigh (sign x) with mode := .quoted q } := rfl
  have rest (n : Meter) (hn : n.mode = .quoted q) : (n.run ds).mode = .quoted q ∧
      (n.run ds).below = n.below ∧ n.top ≤ (n.run ds).top ∧ (n.run ds).total = n.total := by
    induction ds generalizing n with
    | nil => exact ⟨hn, rfl, Nat.le_refl _, rfl⟩
    | cons d ds ih =>
      simp only [List.all_cons, Bool.and_eq_true] at digits
      have plain : d ≠ q.char ∧ d ≠ '\\' := by
        constructor
        · rintro rfl
          cases q <;> exact absurd digits.1 (by decide)
        · rintro rfl
          exact absurd digits.1 (by decide)
      rw [Meter.run_cons, Meter.step_quoted hn plain.1 plain.2]
      obtain ⟨mode, below, top, total⟩ := ih digits.2 (n.weigh (sign d)) hn
      exact ⟨mode, below, Nat.le_trans (Nat.le_add_right _ _) top, total⟩
  rw [Meter.run_cons, Meter.run_cons, first, second]
  exact rest _ rfl

theorem mark_escapeCost_le (q : Quote) (tail : Bool) (a : Char) :
    mark tail a + escapeCost q a ≤ 2 := by
  cases plain : isPlainChar a with
  | true =>
    have none : escapeCost q a = 0 := by simp [escapeCost, plain]
    rw [none]
    exact mark_le_two tail a
  | false =>
    have one : escapeCost q a ≤ 1 := by
      unfold escapeCost
      split <;> decide
    have low : mark tail a = 1 := by
      simp only [isPlainChar, Bool.and_eq_false_iff, decide_eq_false_iff_not, not_not] at plain
      rcases plain with rfl | rfl <;> cases tail <;> decide
    omega

theorem escapeOf_cases {q : Quote} {x a : Char} (h : escapeOf? q x = some a) :
    (a ∈ ['\x08', '\t', '\n', '\x0c', '\r'] ∨ (a = x ∧ a ∈ ['/', '$'])) ∨
      (a = x ∧ (a = '\\' ∨ a = q.char)) := by
  unfold escapeOf? at h
  repeat' split at h
  all_goals cases h
  all_goals simp_all

theorem piece_escape {q : Quote} {x a : Char} (h : escapeOf? q x = some a) :
    Piece q ['\\', x] a where
  marks tail tail' := by
    have slash (t : Bool) : mark t '\\' = 1 := by cases t <;> decide
    have bound := credit_le (tailOf tail ['\\', x]) (isTail a)
    simp only [DocPath.marks, slash]
    rcases escapeOf_cases h with (control | ⟨rfl, other⟩) | ⟨rfl, special⟩
    · have none : mark tail' a + escapeCost q a = 0 := by
        simp only [List.mem_cons, List.not_mem_nil, or_false] at control
        rcases control with rfl | rfl | rfl | rfl | rfl <;> cases q <;> cases tail' <;> decide
      omega
    · have none : mark tail' a + escapeCost q a = 0 := by
        simp only [List.mem_cons, List.not_mem_nil, or_false] at other
        rcases other with rfl | rfl <;> cases q <;> cases tail' <;> decide
      omega
    · have level : mark tail' a + escapeCost q a + credit (isTail a) (isTail a) ≤
          1 + mark (isTail '\\') a := by
        rcases special with rfl | rfl <;> cases q <;> cases tail' <;> decide
      have same : tailOf tail ['\\', a] = isTail a := rfl
      rw [same]
      omega
  grows m h' := by
    have none : [].all isHexDigit := rfl
    obtain ⟨mode, below, top, total⟩ := run_escape (x := x) m h' none
    have weight : sign a ≤ sign x := by
      rcases escapeOf_cases h with (control | ⟨rfl, -⟩) | ⟨rfl, -⟩
      · have none : sign a = 0 := by
          simp only [List.mem_cons, List.not_mem_nil, or_false] at control
          rcases control with rfl | rfl | rfl | rfl | rfl <;> decide
        omega
      · exact Nat.le_refl _
      · exact Nat.le_refl _
    exact ⟨mode, below, by omega, total⟩

theorem sign_le_one (a : Char) : sign a ≤ 1 := by
  unfold sign
  split <;> decide

theorem piece_unicode (q : Quote) {ds : List Char} (digits : ds.all isHexDigit) (a : Char) :
    Piece q ('\\' :: 'u' :: ds) a where
  marks tail tail' := by
    have low := mark_escapeCost_le q tail' a
    have bound := credit_le (tailOf tail ('\\' :: 'u' :: ds)) (isTail a)
    have slash (t : Bool) : mark t '\\' = 1 := by cases t <;> decide
    have letter (t : Bool) : mark t 'u' = 2 := by cases t <;> decide
    simp only [DocPath.marks, slash, letter]
    omega
  grows m h := by
    obtain ⟨mode, below, top, total⟩ := run_escape (x := 'u') m h digits
    have weight := sign_le_one a
    have letter : sign 'u' = 1 := by decide
    exact ⟨mode, below, by omega, total⟩

theorem fourHex_takes : Takes fourHex fun c ds => c = ds ∧ ds.all isHexDigit := by
  intro s ds r read
  unfold fourHex at read
  split at read
  · next a b x d rest =>
    split at read
    · next digits =>
      cases read
      simp only [Bool.and_eq_true] at digits
      exact ⟨[a, b, x, d], rfl, rfl, by simp [digits]⟩
    · cases read
  · cases read

theorem simpleEscape_takes (q : Quote) : Takes (simpleEscape q) fun c a =>
    ∃ x, c = [x] ∧ escapeOf? q x = some a := by
  intro s a r read
  unfold simpleEscape at read
  split at read
  · next x rest =>
    split at read
    · next e found =>
      cases read
      exact ⟨[x], rfl, x, rfl, found⟩
    · cases read
  · cases read

theorem unicodeSequence_takes : Takes unicodeSequence fun c _ =>
    ∃ ds, c = 'u' :: ds ∧ ds.all isHexDigit := by
  refine Takes.within _ (((Takes.char 'u').bind fun _ => fourHex_takes.check).mono ?_)
  rintro c a ⟨c₁, c₂, x, rfl, ⟨rfl, -⟩, ds, ⟨rfl, digits⟩, -⟩
  exact ⟨c₂, rfl, digits⟩

theorem quotedChar_takes (q : Quote) : Takes (quotedChar q) (Piece q) := by
  have escaped : Takes (simpleEscape q <|> unicodeSequence) fun c a => Piece q ('\\' :: c) a := by
    refine Takes.orElse ((simpleEscape_takes q).mono ?_) (unicodeSequence_takes.mono ?_)
    · rintro c a ⟨x, rfl, found⟩
      exact piece_escape found
    · rintro c a ⟨ds, rfl, digits⟩
      exact piece_unicode q digits a
  refine Takes.orElse ?_ (Takes.within _ ?_)
  · refine (Takes.satisfy _).mono ?_
    rintro c a ⟨rfl, plain⟩
    simp only [Bool.and_eq_true, decide_eq_true_eq] at plain
    exact piece_plain plain.1 plain.2
  · refine ((Takes.char '\\').bind fun _ => escaped).mono ?_
    rintro c a ⟨c₁, c₂, x, rfl, ⟨rfl, -⟩, piece⟩
    exact piece

structure Pieces (q : Quote) (c as : List Char) : Prop where
  marks (tail tail' : Bool) :
    marks tail' as + (as.map (escapeCost q)).sum + credit (tailOf tail c) (tailOf tail' as) ≤
      marks tail c + credit tail tail'
  grows (m : Meter) (h : m.mode = .quoted q) : (m.run c).mode = .quoted q ∧
    (m.run c).below = m.below ∧ m.top + signs as ≤ (m.run c).top ∧ (m.run c).total = m.total

theorem pieces_nil (q : Quote) : Pieces q [] [] where
  marks tail tail' := by
    simp only [DocPath.marks, List.map_nil, List.sum_nil, tailOf]
    omega
  grows m h := ⟨h, rfl, Nat.le_refl _, rfl⟩

theorem pieces_cons {q : Quote} {c d as : List Char} {a : Char} (first : Piece q c a)
    (rest : Pieces q d as) : Pieces q (c ++ d) (a :: as) where
  marks tail tail' := by
    have one := first.marks tail tail'
    have more := rest.marks (tailOf tail c) (isTail a)
    rw [marks_append, tailOf_append]
    simp only [DocPath.marks, tailOf, List.map_cons, List.sum_cons]
    omega
  grows m h := by
    obtain ⟨mode, below, top, total⟩ := first.grows m h
    obtain ⟨mode', below', top', total'⟩ := rest.grows _ mode
    rw [Meter.run_append, signs_cons]
    exact ⟨mode', below'.trans below, by omega, total'.trans total⟩

theorem escapeCost_of_not_plain {as : List Char} (h : as.all isPlainChar = false) :
    1 ≤ (as.map (escapeCost .single)).sum := by
  induction as with
  | nil => cases h
  | cons a as ih =>
    simp only [List.map_cons, List.sum_cons]
    cases plain : isPlainChar a with
    | false =>
      have one : escapeCost .single a = 1 := by simp [escapeCost, plain]
      omega
    | true =>
      have more := ih (by simpa [plain] using h)
      omega

theorem pays_quoted {q : Quote} {c as : List Char} (h : Pieces q c as) :
    Pays (q.char :: (c ++ [q.char])) (textCost (String.ofList as)) (signs as) 0 0 where
  marks tail := by
    have inner := h.marks false false
    have none : credit false false = 0 := rfl
    have quotes : ∀ t, mark t q.char = if q = .single then 1 else 2 := by
      intro t
      cases q <;> cases t <;> decide
    have start : isTail q.char = false := by cases q <;> decide
    rw [DocPath.marks, marks_append, DocPath.marks, DocPath.marks, quotes, quotes, start]
    simp only [textCost, isPlain, String.toList_ofList]
    cases q with
    | single =>
      cases plain : as.all isPlainChar with
      | true =>
        simp only [if_true]
        omega
      | false =>
        have escaped := escapeCost_of_not_plain plain
        simp only [if_true, Bool.false_eq_true, if_false]
        omega
    | double =>
      simp only [reduceCtorEq, if_false]
      split <;> omega
  grows m plain := by
    obtain ⟨mode, below, top, total⟩ := h.grows { m.forget with mode := .quoted q } rfl
    rw [Meter.run_cons, Meter.step_open plain, Meter.run_append, Meter.run_cons,
      Meter.step_close mode, Meter.run_nil]
    exact ⟨rfl, below, top, Nat.le_of_eq total.symm, Nat.zero_le _⟩

theorem Takes.stringLiteral {P : Quote → List Char → Char → Prop}
    {R : Quote → List Char → List Char → Prop} (one : ∀ q, Takes (quotedChar q) (P q))
    (nil : ∀ q, R q [] [])
    (cons : ∀ q c a d as, P q c a → R q d as → R q (c ++ d) (a :: as)) :
    Takes stringLiteral fun c k => ∃ q t, c = q.char :: (t ++ [q.char]) ∧ R q t k.toList := by
  have quoted (q : Quote) : Takes (quotedWith q) fun c k =>
      ∃ q t, c = q.char :: (t ++ [q.char]) ∧ R q t k.toList := by
    intro s k r read
    have inside := (one q).many (nil q) (cons q) s.length
    have whole := (Takes.char q.char).bind fun _ => inside.bind fun cs =>
      ((Takes.char q.char).commitWith .openQuote).bind fun _ => Takes.pure (String.ofList cs)
    obtain ⟨c, text, c₁, c₂, x, rfl, ⟨rfl, -⟩, t, c₃, as, rfl, inner, c₄, c₅, y, rfl, ⟨rfl, -⟩,
      rfl, rfl⟩ := whole s k r read
    exact ⟨_, text, q, t, rfl, by rw [String.toList_ofList]; exact inner⟩
  exact Takes.within _ ((quoted .single).orElse (quoted .double))

theorem stringLiteral_takes : Takes stringLiteral fun c k =>
    Pays c (textCost k) (signs k.toList) 0 0 ∧ ∀ tail, tailOf tail c = false := by
  refine (Takes.stringLiteral quotedChar_takes pieces_nil
    fun q c a d as first rest => pieces_cons first rest).mono ?_
  rintro c k ⟨q, t, rfl, inner⟩
  refine ⟨?_, fun tail => ?_⟩
  · have pays := pays_quoted inner
    rwa [String.ofList_toList] at pays
  · rw [← List.cons_append, tailOf_concat]
    cases q <;> decide

end DocPath.Reader
