import DocPath.Path.Scanner

/-!
What the combinators of readers do on texts where the readers below them succeed or miss, and
what a success of a combinator says about the readers below it.
-/

namespace DocPath.Reader

variable {α β : Type} {p q : Reader α} {f : α → Reader β} {s t : List Char} {a : α}

def Misses (p : Reader α) (s : List Char) : Prop := ∃ e, p s = .miss e

/-- A text does not start with a character of a class. -/
def Ends (g : Char → Bool) (s : List Char) : Prop := ∀ c, s.head? = some c → g c = false

theorem Ends.nil (g : Char → Bool) : Ends g [] := fun _ head => by cases head

theorem Ends.cons {g : Char → Bool} {c : Char} (h : g c = false) (s : List Char) :
    Ends g (c :: s) := by
  intro d head
  cases head
  exact h

theorem Ends.mono {g k : Char → Bool} (h : Ends g s) (sub : ∀ c, k c → g c) : Ends k s := by
  intro c head
  have no := h c head
  cases keep : k c with
  | false => rfl
  | true => rw [sub c keep] at no; exact no

theorem bind_apply (p : Reader α) (f : α → Reader β) (s : List Char) :
    (p >>= f) s = match p s with
      | .done a rest => f a rest
      | .miss e => .miss e
      | .halt e => .halt e := rfl

theorem pure_apply (a : α) (s : List Char) : (pure a : Reader α) s = .done a s := rfl

theorem orElse_apply (p q : Reader α) (s : List Char) :
    (p <|> q) s = match p s with
      | .miss _ => q s
      | r => r := rfl

theorem bind_done (h : p s = .done a t) : (p >>= f) s = f a t := by
  rw [bind_apply, h]

theorem orElse_done (h : p s = .done a t) : (p <|> q) s = .done a t := by
  rw [orElse_apply, h]

theorem orElse_next (h : Misses p s) : (p <|> q) s = q s := by
  obtain ⟨e, h⟩ := h
  rw [orElse_apply, h]

theorem orElse_first (h : ¬ Misses p s) : (p <|> q) s = p s := by
  rw [orElse_apply]
  split
  · next e missed => exact absurd ⟨e, missed⟩ h
  · rfl

theorem commit_done (h : p s = .done a t) : commit p s = .done a t := by
  simp only [commit, h]

theorem within_done (c : Context) (h : p s = .done a t) : within c p s = .done a t := by
  simp only [within, h]

theorem optional_done (h : p s = .done a t) : optional p s = .done (some a) t := by
  simp only [optional, h]

theorem optional_none (h : Misses p s) : optional p s = .done none s := by
  obtain ⟨e, h⟩ := h
  simp only [optional, h]

theorem many_none (h : Misses p s) (n : Nat) : many p n s = .done [] s := by
  obtain ⟨e, h⟩ := h
  cases n with
  | zero => rfl
  | succ n => simp only [many, h]

theorem many_cons {n : Nat} {as : List α} {r : List Char} (h : p s = .done a t)
    (rest : many p n t = .done as r) : many p (n + 1) s = .done (a :: as) r := by
  simp only [many, h, rest]

theorem separated_none {γ : Type} {separator : Reader γ} (h : Misses p s) (n : Nat) :
    separated separator p n s = .done [] s := by
  obtain ⟨e, h⟩ := h
  simp only [separated, h]

theorem separated_cons {γ : Type} {separator : Reader γ} {n : Nat} {as : List α} {r : List Char}
    (h : p s = .done a t) (rest : manyAfter separator p n t = .done as r) :
    separated separator p n s = .done (a :: as) r := by
  simp only [separated, h, rest]

theorem check_done {g : α → Except Cause β} {b : β} (h : p s = .done a t) (ok : g a = .ok b) :
    check p g s = .done b t := by
  simp only [check, h, ok]

section
variable {b : β} {r : List Char}

theorem done_of_bind (h : (p >>= f) s = .done b r) :
    ∃ a t, p s = .done a t ∧ f a t = .done b r := by
  rw [bind_apply] at h
  cases first : p s with
  | done a t =>
    rw [first] at h
    exact ⟨a, t, rfl, h⟩
  | miss e =>
    rw [first] at h
    cases h
  | halt e =>
    rw [first] at h
    cases h

theorem done_of_orElse (h : (p <|> q) s = .done a r) :
    p s = .done a r ∨ (Misses p s ∧ q s = .done a r) := by
  rw [orElse_apply] at h
  cases first : p s with
  | done d t =>
    rw [first] at h
    exact .inl h
  | miss e =>
    rw [first] at h
    exact .inr ⟨⟨e, first⟩, h⟩
  | halt e =>
    rw [first] at h
    cases h

theorem done_of_commit (h : commit p s = .done a r) : p s = .done a r := by
  unfold commit at h
  split at h
  · cases h
  · exact h

theorem done_of_commitWith {cause : Cause} (h : commitWith cause p s = .done a r) :
    p s = .done a r := by
  unfold commitWith at h
  split at h
  · cases h
  · exact h

theorem done_of_within {c : Context} (h : within c p s = .done a r) : p s = .done a r := by
  unfold within at h
  split at h
  · cases h
  · cases h
  · exact h

theorem done_of_check {g : α → Except Cause β} (h : check p g s = .done b r) :
    ∃ a, p s = .done a r ∧ g a = .ok b := by
  unfold check at h
  split at h
  · next a t first =>
    split at h
    · next d made =>
      cases h
      exact ⟨a, first, made⟩
    · cases h
  · cases h
  · cases h

theorem done_of_optional {o : Option α} (h : optional p s = .done o r) :
    (∃ a, o = some a ∧ p s = .done a r) ∨ (o = none ∧ Misses p s ∧ r = s) := by
  unfold optional at h
  split at h
  · next a t first =>
    cases h
    exact .inl ⟨a, rfl, first⟩
  · next e first =>
    cases h
    exact .inr ⟨rfl, ⟨e, first⟩, rfl⟩
  · cases h

theorem done_of_many {n : Nat} {as : List α} (h : many p (n + 1) s = .done as r) :
    (as = [] ∧ r = s ∧ Misses p s) ∨
      ∃ a t bs, as = a :: bs ∧ p s = .done a t ∧ many p n t = .done bs r := by
  simp only [many] at h
  split at h
  · next a t first =>
    split at h
    · next bs u rest =>
      cases h
      exact .inr ⟨a, t, bs, rfl, first, rest⟩
    · next fail =>
      exact absurd h (fail as r)
  · next e first =>
    cases h
    exact .inl ⟨rfl, rfl, e, first⟩
  · cases h

theorem done_of_atEnd {u : Unit} (h : atEnd s = .done u r) : s = [] ∧ r = [] := by
  cases s with
  | nil =>
    cases h
    exact ⟨rfl, rfl⟩
  | cons c cs => cases h

theorem done_of_separated {γ : Type} {separator : Reader γ} {n : Nat} {as : List α}
    (h : separated separator p n s = .done as r) :
    (as = [] ∧ r = s ∧ Misses p s) ∨
      ∃ a t bs, as = a :: bs ∧ p s = .done a t ∧ manyAfter separator p n t = .done bs r := by
  simp only [separated] at h
  split at h
  · next a t first =>
    split at h
    · next bs u rest =>
      cases h
      exact .inr ⟨a, t, bs, rfl, first, rest⟩
    · next fail =>
      exact absurd h (fail as r)
  · next e first =>
    cases h
    exact .inl ⟨rfl, rfl, e, first⟩
  · cases h

theorem misses_of_bind (h : Misses (p >>= f) s) :
    Misses p s ∨ ∃ a t, p s = .done a t ∧ Misses (f a) t := by
  obtain ⟨e, h⟩ := h
  rw [bind_apply] at h
  split at h
  · next a t first => exact .inr ⟨a, t, first, e, h⟩
  · next e' first => exact .inl ⟨e', first⟩
  · cases h

theorem misses_of_orElse (h : Misses (p <|> q) s) : Misses p s ∧ Misses q s := by
  obtain ⟨e, h⟩ := h
  rw [orElse_apply] at h
  split at h
  · next e' first => exact ⟨⟨e', first⟩, e, h⟩
  · next other => exact absurd h (other e)

theorem misses_of_within {c : Context} (h : Misses (within c p) s) :
    Misses p s := by
  obtain ⟨e, h⟩ := h
  unfold within at h
  split at h
  · next e' first => exact ⟨e', first⟩
  · cases h
  · exact ⟨e, h⟩

theorem misses_of_check {g : α → Except Cause β}
    (h : Misses (check p g) s) :
    Misses p s ∨ ∃ a t cause, p s = .done a t ∧ g a = .error cause := by
  obtain ⟨e, h⟩ := h
  unfold check at h
  split at h
  · next a t first =>
    split at h
    · cases h
    · next cause refused => exact .inr ⟨a, t, cause, first, refused⟩
  · next e' first => exact .inl ⟨e', first⟩
  · cases h

theorem misses_of_ahead (h : Misses (ahead p) s) : Misses p s := by
  obtain ⟨e, h⟩ := h
  unfold ahead at h
  split at h
  · cases h
  · next e' first => exact ⟨e', first⟩
  · cases h

theorem done_of_notAhead {u : Unit} (h : notAhead p s = .done u r) :
    r = s ∧ Misses p s := by
  unfold notAhead at h
  split at h
  · cases h
  · next e first =>
    cases h
    exact ⟨rfl, e, first⟩
  · cases h

theorem misses_of_notAhead (h : Misses (notAhead p) s) :
    ∃ a t, p s = .done a t := by
  obtain ⟨e, h⟩ := h
  unfold notAhead at h
  split at h
  · next a t first => exact ⟨a, t, first⟩
  · cases h
  · cases h

theorem done_of_ahead {u : Unit} (h : ahead p s = .done u r) :
    r = s ∧ ∃ a t, p s = .done a t := by
  unfold ahead at h
  split at h
  · next a t first =>
    cases h
    exact ⟨rfl, a, t, first⟩
  · cases h
  · cases h

end

namespace Misses

theorem bind (h : Misses p s) : Misses (p >>= f) s := by
  obtain ⟨e, h⟩ := h
  exact ⟨e, by rw [bind_apply, h]⟩

theorem bind_after (h : p s = .done a t) (next : Misses (f a) t) : Misses (p >>= f) s := by
  obtain ⟨e, next⟩ := next
  exact ⟨e, by rw [bind_done h, next]⟩

theorem orElse (h : Misses p s) (k : Misses q s) : Misses (p <|> q) s := by
  obtain ⟨e, k⟩ := k
  exact ⟨e, by rw [orElse_next h, k]⟩

theorem within (c : Context) (h : Misses p s) : Misses (within c p) s := by
  obtain ⟨e, h⟩ := h
  exact ⟨Fault.within c e, by simp only [Reader.within, h]⟩

theorem check (g : α → Except Cause β) (h : Misses p s) : Misses (check p g) s := by
  obtain ⟨e, h⟩ := h
  exact ⟨e, by simp only [Reader.check, h]⟩

theorem check_error {g : α → Except Cause β} {cause : Cause} (h : p s = .done a t)
    (refused : g a = .error cause) : Misses (Reader.check p g) s :=
  ⟨⟨s, cause, none⟩, by simp only [Reader.check, h, refused]⟩

end Misses

@[simp] theorem char_cons (c : Char) (s : List Char) : char c (c :: s) = .done c s := by
  simp [char, satisfy]

theorem satisfy_done {g : Char → Bool} {c : Char} (h : g c) (s : List Char) :
    satisfy g (c :: s) = .done c s := by
  simp only [satisfy, h, if_true]

theorem satisfy_misses {g : Char → Bool} (h : Ends g s) :
    Misses (satisfy g) s := by
  cases s with
  | nil => exact ⟨_, rfl⟩
  | cons c cs =>
    have no := h c rfl
    exact ⟨_, by simp only [satisfy, no]; rfl⟩

theorem char_misses {c : Char} (h : s.head? ≠ some c) : Misses (char c) s := by
  refine satisfy_misses fun d head => ?_
  have other : d ≠ c := fun same => h (by rw [head, same])
  simp only [other, decide_false]

theorem word_append (w : String) (s : List Char) : word w (w.toList ++ s) = .done () s := by
  simp [word]

theorem word_misses {w : String} (h : ¬ w.toList <+: s) : Misses (word w) s := by
  have no : w.toList.isPrefixOf s = false := by
    rw [Bool.eq_false_iff, ne_eq, List.isPrefixOf_iff_prefix]
    exact h
  exact ⟨_, by simp only [word, no]; rfl⟩

theorem word_misses_head {w : String} {c : Char} (first : w.toList.head? = some c)
    (h : s.head? ≠ some c) : Misses (word w) s := by
  refine word_misses ?_
  rintro ⟨t, rfl⟩
  refine h ?_
  rw [List.head?_append, first]
  rfl

theorem notAhead_done {p : Reader α} (h : Misses p s) : notAhead p s = .done () s := by
  obtain ⟨e, h⟩ := h
  simp only [notAhead, h]

theorem notAhead_misses (h : p s = .done a t) : Misses (notAhead p) s :=
  ⟨_, by simp only [notAhead, h]; rfl⟩

theorem ahead_done (h : p s = .done a t) : ahead p s = .done () s := by
  simp only [ahead, h]

theorem ahead_misses (h : Misses p s) : Misses (ahead p) s := by
  obtain ⟨e, h⟩ := h
  exact ⟨e, by simp only [ahead, h]⟩

theorem atEnd_misses (h : s ≠ []) : Misses atEnd s := by
  cases s with
  | nil => exact absurd rfl h
  | cons c t => exact ⟨_, rfl⟩

theorem takeWhile_append {g : Char → Bool} {cs : List Char} (all : cs.all g) (stop : Ends g s) :
    takeWhile g (cs ++ s) = .done cs s := by
  have first : s.takeWhile g = [] := by
    cases s with
    | nil => rfl
    | cons c s => simp only [List.takeWhile_cons, stop c rfl]; rfl
  have last : s.dropWhile g = s := by
    cases s with
    | nil => rfl
    | cons c s => simp only [List.dropWhile_cons, stop c rfl]; rfl
  rw [List.all_eq_true] at all
  simp only [takeWhile, List.takeWhile_append_of_pos all, List.dropWhile_append_of_pos all,
    first, last, List.append_nil]

theorem takeWhile1_append {g : Char → Bool} {cs : List Char} (all : cs.all g) (some : cs ≠ [])
    (stop : Ends g s) : takeWhile1 g (cs ++ s) = .done cs s := by
  have run := takeWhile_append all stop
  simp only [takeWhile, Outcome.done.injEq] at run
  have full : cs.isEmpty = false := by simpa using some
  simp only [takeWhile1, run, full]
  rfl

theorem takeWhile1_misses {g : Char → Bool} (h : Ends g s) :
    Misses (takeWhile1 g) s := by
  cases s with
  | nil => exact ⟨_, rfl⟩
  | cons c cs => exact ⟨_, by simp [takeWhile1, h c rfl]; rfl⟩

theorem prefix_of_misses {w : String} (h : Misses (word w) s) :
    ¬ w.toList <+: s := by
  rintro ⟨t, rfl⟩
  obtain ⟨e, h⟩ := h
  rw [word_append] at h
  cases h

theorem blanks_apply (s : List Char) : blanks s = .done () (skipBlanks s) := rfl

end DocPath.Reader
