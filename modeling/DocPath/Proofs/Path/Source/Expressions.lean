import DocPath.Proofs.Path.Source.Links

/-!
Every text that is read as an expression or a path pays for it. A base in parentheses is a group
that the segments after it settle; any other base is atomic.
-/

namespace DocPath

open Reader

/-- A text that pays for a primary expression and ends in its group. -/
structure PaysForBase (c : List Char) (e : Expr) : Prop where
  formed : e.wellFormed false
  pays : Pays c e.cost e.size e.load e.hold
  ends (tail : Bool) : tailOf tail c = true → e.endsTail = true

theorem PaysForBase.expression {c : List Char} {e : Expr} (h : PaysForBase c e) :
    PaysFor false c e :=
  ⟨h.formed, h.pays.weaken (Nat.le_refl _) (Nat.le_refl _) (Nat.le_refl _) (Nat.zero_le _)⟩

theorem PaysForBase.segmentsCost_le {c d rest : List Char} {base : Expr} {gs : List Segment}
    {tail : Bool} (h : PaysForBase c base) (links : PaysForLinks false rest d gs)
    (stops : base.endsInWhole = true → tailOf tail c = true → NoFraction (d ++ rest)) :
    (Expr.path base gs).cost ≤ marks tail (c ++ d) := by
  have own := h.pays.marks tail
  have more : segmentsCost false (base.endsTail && keepsPoint base gs) gs ≤
      marks (tailOf tail c) d := by
    cases last : tailOf tail c with
    | false =>
      exact Nat.le_trans (segmentsCost_mono false (by intro none; cases none) gs)
        (links.marks false)
    | true =>
      rw [h.ends tail last, Bool.true_and]
      cases keeps : keepsPoint base gs with
      | true => exact links.marks true
      | false =>
        simp only [keepsPoint, Bool.not_eq_false', Bool.and_eq_true] at keeps
        exact links.point keeps.2 (stops keeps.1 last) true
  rw [marks_append, Expr.cost]
  omega

namespace Reader

variable {s r : List Char}

theorem number_stops {x : Number} (read : number s = .done x r) (whole : x.isWhole) :
    NoFraction r := by
  obtain ⟨p, parts, made⟩ := done_of_check read
  obtain ⟨ds, t, digits, parts⟩ := done_of_bind parts
  obtain ⟨part, u, pointed, parts⟩ := done_of_bind parts
  obtain ⟨e, v, power, given⟩ := done_of_bind parts
  cases given
  rcases numberOf_ok made with ⟨some, y, rfl⟩ | ⟨none, point, d, rfl, -⟩ | ⟨none, point, -⟩
  · cases whole
  · cases whole
  · rcases done_of_optional power with ⟨a, other, -⟩ | ⟨-, -, rfl⟩
    · rw [other] at none
      cases none
    rcases done_of_optional pointed with ⟨a, rfl, first⟩ | ⟨rfl, miss, rfl⟩
    · obtain ⟨c, -, rfl, fs, rfl, -⟩ := fraction_takes _ _ _ first
      exact absurd (by simp) point
    · intro w text x head
      cases digit : isDigit x with
      | false => rfl
      | true =>
        subst text
        obtain ⟨e, miss⟩ := miss
        cases w with
        | nil => cases head
        | cons y ys =>
          cases head
          rw [fraction, bind_done (char_cons _ _), bind_apply] at miss
          simp [digits1, takeWhile1, digit, pure_apply] at miss

theorem boolean_takes : Takes boolean fun c b => c = (if b then "true" else "false").toList := by
  refine Takes.orElse ?_ ?_
  · refine ((keyword_takes "true").bind fun _ => Takes.pure true).mono ?_
    rintro c b ⟨c₁, c₂, u, rfl, rfl, rfl, rfl⟩
    rfl
  · refine ((keyword_takes "false").bind fun _ => Takes.pure false).mono ?_
    rintro c b ⟨c₁, c₂, u, rfl, rfl, rfl, rfl⟩
    rfl

theorem paysForBase_word (w : String) (v : Value) (formed : isLiteralValue v)
    (pays : Pays w.toList (literalCost v) (literalSize v) 0 0)
    (closed : tailOf false w.toList = false) (full : w.toList ≠ []) :
    (∃ v', Expr.literal v = .literal v') ∧ PaysForBase w.toList (.literal v) := by
  refine ⟨⟨v, rfl⟩, formed, pays, fun tail last => ?_⟩
  cases chars : w.toList with
  | nil => exact absurd chars full
  | cons x xs =>
    rw [chars] at last closed
    exact absurd (closed.symm.trans last) (by decide)

theorem literal_takes : Takes literal fun c e =>
    (∃ v, e = .literal v) ∧ PaysForBase c e := by
  have word := paysForBase_word
  refine Takes.orElse ?text (.orElse ?number (.orElse ?boolean ?null))
  case text =>
    refine (stringLiteral_takes.bind fun k => Takes.pure (Expr.literal (.string k))).mono ?_
    rintro c e ⟨c₁, c₂, k, rfl, ⟨pays, closed⟩, rfl, rfl⟩
    rw [List.append_nil]
    refine ⟨⟨_, rfl⟩, rfl, pays, fun tail last => ?_⟩
    rw [closed] at last
    cases last
  case number =>
    refine (number_takes.bind fun x => Takes.pure (Expr.literal (.number x))).mono ?_
    rintro c e ⟨c₁, c₂, x, rfl, ⟨literal, pays⟩, rfl, rfl⟩
    rw [List.append_nil]
    exact ⟨⟨_, rfl⟩, literal, pays, fun _ _ => rfl⟩
  case boolean =>
    refine (boolean_takes.bind fun b => Takes.pure (Expr.literal (.bool b))).mono ?_
    rintro c e ⟨c₁, c₂, b, rfl, rfl, rfl, rfl⟩
    rw [List.append_nil]
    cases b with
    | true =>
      exact word "true" (.bool true) rfl (.of_free (by decide) (by decide) (by decide)) rfl
        (by decide)
    | false =>
      exact word "false" (.bool false) rfl (.of_free (by decide) (by decide) (by decide)) rfl
        (by decide)
  case null =>
    refine ((keyword_takes "null").bind fun _ => Takes.pure (Expr.literal .null)).mono ?_
    rintro c e ⟨c₁, c₂, u, rfl, rfl, rfl, rfl⟩
    rw [List.append_nil]
    exact word "null" .null rfl (.of_free (by decide) (by decide) (by decide)) rfl (by decide)

theorem literal_stops {e : Expr} (read : literal s = .done e r) (whole : e.endsInWhole = true) :
    NoFraction r := by
  rcases done_of_orElse read with text | ⟨-, read⟩
  · obtain ⟨k, t, -, given⟩ := done_of_bind text
    cases given
    cases whole
  rcases done_of_orElse read with number | ⟨-, read⟩
  · obtain ⟨x, t, first, given⟩ := done_of_bind number
    cases given
    exact number_stops first whole
  rcases done_of_orElse read with boolean | ⟨-, null⟩
  · obtain ⟨b, t, -, given⟩ := done_of_bind boolean
    cases given
    cases whole
  · obtain ⟨u, t, -, given⟩ := done_of_bind null
    cases given
    cases whole

theorem ident_takes : Takes (do let name ← binder; pure (Expr.ident name)) fun c e =>
    (∃ name, e = .ident name) ∧ PaysForBase c e := by
  refine (binder_takes.bind fun name => Takes.pure (Expr.ident name)).mono ?_
  rintro c e ⟨c₁, c₂, name, rfl, ⟨rfl, ok⟩, rfl, rfl⟩
  rw [List.append_nil]
  have word := (isName_iff.mp ok).1
  refine ⟨⟨name, rfl⟩, ok, pays_identifier word, fun tail last => ?_⟩
  obtain ⟨x, xs, chars, -⟩ := isIdentifier_parts word
  rw [chars] at last
  rw [Expr.endsTail, chars]
  exact last

section
variable {expr : Reader Expr} (h : Takes expr (PaysFor false)) (n : Nat)
include h

theorem parenthesized_takes : Takes (parenthesized expr) fun c e =>
    (∃ c', c = c' ++ [')']) ∧ PaysForBase c e := by
  refine ((Takes.char '(').bind fun _ => ((padded_takes h).bind fun e =>
    (Takes.char ')').bind fun _ => Takes.pure e).commit).mono ?_
  rintro c e ⟨c₁, c₂, x, rfl, ⟨rfl, -⟩, c₃, c₄, e', rfl, ⟨b, c', b', rfl, front, back, paid⟩,
    c₅, c₆, y, rfl, ⟨rfl, -⟩, rfl, rfl⟩
  have text : ['('] ++ (b ++ (c' ++ b') ++ ([')'] ++ [])) = '(' :: (b ++ (c' ++ b') ++ [')']) := by
    simp only [List.append_nil, List.cons_append, List.nil_append]
  rw [text]
  refine ⟨⟨'(' :: (b ++ (c' ++ b')), rfl⟩, paid.formed, ?_, fun tail last => ?_⟩
  · refine (paid.pays.padded front back).inside.group.weaken (Nat.le_refl _) (Nat.le_refl _)
      (Nat.le_refl _) ?_
    unfold Expr.hold
    split <;> omega
  · rw [← List.cons_append, tailOf_concat] at last
    cases last

theorem listLiteral_takes : Takes (listLiteral expr n) fun c e =>
    (∃ es, e = .list es) ∧ PaysForBase c e := by
  refine Takes.within _ (((Takes.char '[').bind fun _ => (itemList_takes h ']' n).bind fun es =>
    Takes.pure (Expr.list es)).mono ?_)
  rintro c e ⟨c₁, c₂, x, rfl, ⟨rfl, -⟩, c₃, c₄, es, rfl, ⟨c', rfl, paid⟩, rfl, rfl⟩
  rw [List.append_nil]
  refine ⟨⟨es, rfl⟩, paid.formed, paid.pays.square, fun tail last => ?_⟩
  have text : ['['] ++ (c' ++ [']']) = '[' :: c' ++ [']'] := rfl
  rw [text, tailOf_concat] at last
  cases last

theorem primary_takes : Takes (primary expr n) PaysForBase :=
  ((parenthesized_takes h).mono fun _ _ => And.right).orElse
    ((literal_takes.mono fun _ _ => And.right).orElse
      (((listLiteral_takes h n).mono fun _ _ => And.right).orElse
        (ident_takes.mono fun _ _ => And.right)))

theorem primary_stops {e : Expr} (read : primary expr n s = .done e r)
    (whole : e.endsInWhole = true) : NoFraction r ∨ ∃ c, s = c ++ ')' :: r := by
  rcases done_of_orElse read with group | ⟨-, read⟩
  · obtain ⟨c, text, ⟨c', rfl⟩, -⟩ := parenthesized_takes h s e r group
    exact .inr ⟨c', by rw [text, List.append_assoc]; rfl⟩
  rcases done_of_orElse read with atom | ⟨-, read⟩
  · exact .inl (literal_stops atom whole)
  rcases done_of_orElse read with items | ⟨-, name⟩
  · obtain ⟨c, -, ⟨es, rfl⟩, -⟩ := listLiteral_takes h n s e r items
    cases whole
  · obtain ⟨c, -, ⟨name, rfl⟩, -⟩ := ident_takes s e r name
    cases whole

theorem postfixed_takes : Takes (postfixed expr n) (PaysFor false) := by
  intro s e r read
  obtain ⟨base, t, first, rest⟩ := done_of_bind read
  obtain ⟨gs, u, second, given⟩ := done_of_bind rest
  obtain ⟨c₁, text₁, paid⟩ := primary_takes h n s base t first
  obtain ⟨c₂, text₂, links⟩ := links_done h n n second
  cases given
  refine ⟨c₁ ++ c₂, by rw [text₁, text₂, List.append_assoc], ?_⟩
  cases gs with
  | nil =>
    rw [links.none rfl, List.append_nil]
    exact paid.expression
  | cons g gs =>
    refine ⟨?_, paid.pays.join (links.joins (by simp)) fun tail => ?_⟩
    · rw [List.isEmpty_cons, if_neg (by decide), Expr.wellFormed, paid.formed, links.formed]
      rfl
    · have stops : base.endsInWhole = true → tailOf tail c₁ = true → NoFraction (c₂ ++ r) := by
        intro whole last
        rcases primary_stops h n first whole with none | ⟨c, text⟩
        · rwa [← text₂]
        · rw [text₁, List.append_cons] at text
          rw [List.append_cancel_right text, tailOf_concat] at last
          cases last
      exact paid.segmentsCost_le links stops

end

end Reader

end DocPath
