import DocPath.Path.Literal
import DocPath.Proofs.Reader.Outcome

/-!
What readers take off a text. A reader that succeeds takes characters off the front; a property
of those characters and the value is carried through the combinators.
-/

namespace DocPath.Reader

variable {α β : Type} {p q : Reader α} {P Q : List Char → α → Prop}

/-- Every success takes characters off the front that stand in a relation to the value. -/
def Takes (p : Reader α) (P : List Char → α → Prop) : Prop :=
  ∀ s a r, p s = .done a r → ∃ c, s = c ++ r ∧ P c a

namespace Takes

theorem mono (h : Takes p P) (sub : ∀ c a, P c a → Q c a) : Takes p Q := by
  intro s a r read
  obtain ⟨c, text, holds⟩ := h s a r read
  exact ⟨c, text, sub c a holds⟩

theorem pure (a : α) : Takes (pure a) fun c b => c = [] ∧ b = a := by
  intro s b r read
  cases read
  exact ⟨[], rfl, rfl, rfl⟩

theorem fail (cause : Cause) : Takes (fail cause) P := by
  intro s a r read
  cases read

theorem bind {f : α → Reader β} {R : α → List Char → β → Prop} (h : Takes p P)
    (k : ∀ a, Takes (f a) (R a)) :
    Takes (p >>= f) fun c b => ∃ c₁ c₂ a, c = c₁ ++ c₂ ∧ P c₁ a ∧ R a c₂ b := by
  intro s b r read
  obtain ⟨a, t, first, second⟩ := done_of_bind read
  obtain ⟨c₁, text₁, holds₁⟩ := h s a t first
  obtain ⟨c₂, text₂, holds₂⟩ := k a t b r second
  exact ⟨c₁ ++ c₂, by rw [text₁, text₂, List.append_assoc], c₁, c₂, a, rfl, holds₁, holds₂⟩

theorem orElse (h : Takes p P) (k : Takes q P) : Takes (p <|> q) P := by
  intro s a r read
  rcases done_of_orElse read with first | ⟨-, second⟩
  · exact h s a r first
  · exact k s a r second

theorem commit (h : Takes p P) : Takes (commit p) P :=
  fun s a r read => h s a r (done_of_commit read)

theorem commitWith (cause : Cause) (h : Takes p P) : Takes (commitWith cause p) P :=
  fun s a r read => h s a r (done_of_commitWith read)

theorem within (c : Context) (h : Takes p P) : Takes (within c p) P :=
  fun s a r read => h s a r (done_of_within read)

theorem check {g : α → Except Cause β} (h : Takes p P) :
    Takes (check p g) fun c b => ∃ a, P c a ∧ g a = .ok b := by
  intro s b r read
  obtain ⟨a, first, made⟩ := done_of_check read
  obtain ⟨c, text, holds⟩ := h s a r first
  exact ⟨c, text, a, holds, made⟩

theorem optional (h : Takes p P) :
    Takes (optional p) fun c o => (∃ a, o = some a ∧ P c a) ∨ (o = none ∧ c = []) := by
  intro s o r read
  rcases done_of_optional read with ⟨a, rfl, first⟩ | ⟨rfl, -, rfl⟩
  · obtain ⟨c, text, holds⟩ := h s a r first
    exact ⟨c, text, .inl ⟨a, rfl, holds⟩⟩
  · exact ⟨[], rfl, .inr ⟨rfl, rfl⟩⟩

theorem ahead (p : Reader α) : Takes (ahead p) fun c _ => c = [] := by
  intro s a r read
  cases first : p s <;> simp only [Reader.ahead, first] at read <;> cases read
  exact ⟨[], rfl, rfl⟩

theorem notAhead (p : Reader α) : Takes (notAhead p) fun c _ => c = [] := by
  intro s a r read
  cases first : p s <;> simp only [Reader.notAhead, first] at read <;> cases read
  exact ⟨[], rfl, rfl⟩

theorem many {R : List Char → List α → Prop} (h : Takes p P) (nil : R [] [])
    (cons : ∀ c a d as, P c a → R d as → R (c ++ d) (a :: as)) (n : Nat) :
    Takes (many p n) R := by
  induction n with
  | zero =>
    intro s as r read
    cases read
    exact ⟨[], rfl, nil⟩
  | succ n ih =>
    intro s as r read
    rcases done_of_many read with ⟨rfl, rfl, -⟩ | ⟨a, t, bs, rfl, first, rest⟩
    · exact ⟨[], rfl, nil⟩
    · obtain ⟨c, text, holds⟩ := h s a t first
      obtain ⟨d, text', holds'⟩ := ih t bs r rest
      exact ⟨c ++ d, by rw [text, text', List.append_assoc], cons c a d bs holds holds'⟩

theorem separated {γ : Type} {separator : Reader γ} {R : List Char → List α → Prop} {n : Nat}
    (h : Takes p P) (nil : R [] [])
    (rest : Takes (manyAfter separator p n) fun d as => ∀ c a, P c a → R (c ++ d) (a :: as)) :
    Takes (separated separator p n) R := by
  intro s as r read
  rcases done_of_separated read with ⟨rfl, rfl, -⟩ | ⟨a, t, bs, rfl, first, tail⟩
  · exact ⟨[], rfl, nil⟩
  · obtain ⟨c, text, holds⟩ := h s a t first
    obtain ⟨d, text', holds'⟩ := rest t bs r tail
    exact ⟨c ++ d, by rw [text, text', List.append_assoc], holds' c a holds⟩

theorem satisfy (g : Char → Bool) : Takes (satisfy g) fun c a => c = [a] ∧ g a := by
  intro s a r read
  cases s with
  | nil => cases read
  | cons d t =>
    by_cases holds : g d
    · simp only [Reader.satisfy, holds, if_true] at read
      cases read
      exact ⟨[a], rfl, rfl, holds⟩
    · simp only [Reader.satisfy, holds] at read
      cases read

theorem char (d : Char) : Takes (char d) fun c a => c = [d] ∧ a = d := by
  refine (satisfy _).mono fun c a holds => ?_
  have same : a = d := by simpa using holds.2
  exact ⟨by rw [holds.1, same], same⟩

theorem takeWhile (g : Char → Bool) : Takes (takeWhile g) fun c a => c = a ∧ a.all g := by
  intro s a r read
  cases read
  refine ⟨s.takeWhile g, (List.takeWhile_append_dropWhile).symm, rfl, ?_⟩
  rw [List.all_eq_true]
  intro d mem
  exact List.all_eq_true.mp (List.all_takeWhile) d mem

theorem takeWhile1 (g : Char → Bool) :
    Takes (takeWhile1 g) fun c a => c = a ∧ a.all g ∧ a ≠ [] := by
  intro s a r read
  simp only [Reader.takeWhile1] at read
  split at read
  · cases read
  · next full =>
    obtain ⟨c, text, same, all⟩ := takeWhile g s a r read
    refine ⟨c, text, same, all, ?_⟩
    cases read
    simpa using full

theorem word (w : String) : Takes (word w) fun c _ => c = w.toList := by
  intro s a r read
  simp only [Reader.word] at read
  split at read
  · next front =>
    cases read
    rw [List.isPrefixOf_iff_prefix] at front
    obtain ⟨t, rfl⟩ := front
    exact ⟨w.toList, by rw [List.drop_left], rfl⟩
  · cases read

theorem blanks : Takes blanks fun c _ => c.all isBlank := by
  intro s a r read
  obtain ⟨c, text, same, all⟩ := takeWhile isBlank s (s.takeWhile isBlank) r (by
    cases read
    rfl)
  exact ⟨c, text, by rw [same]; exact all⟩

theorem blanks1 : Takes blanks1 fun c _ => c.all isBlank := by
  intro s a r read
  cases s with
  | nil => cases read
  | cons d t =>
    by_cases blank : isBlank d
    · simp only [Reader.blanks1, blank, if_true] at read
      exact blanks (d :: t) a r read
    · simp only [Reader.blanks1, blank] at read
      cases read

end Takes

end DocPath.Reader
