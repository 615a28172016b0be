import DocPath.Proofs.Reader.Takes

/-!
How readers behave on every text: which never miss, which never halt, which take something off a
text, and which do not go beyond the start of what is behind a text.
-/

namespace DocPath.Reader

variable {α β : Type} {L : List Char → Prop} {p q : Reader α} {f : α → Reader β}

theorem Takes.any {P : List Char → α → Prop} (h : Takes p P) : Takes p fun _ _ => True :=
  h.mono fun _ _ _ => trivial

theorem Takes.bind_any {P : List Char → α → Prop} (h : Takes p P)
    (next : ∀ a, Takes (f a) fun _ _ => True) : Takes (p >>= f) fun _ _ => True :=
  (h.bind next).any

theorem Takes.many_any {P : List Char → α → Prop} (h : Takes p P) (n : Nat) :
    Takes (Reader.many p n) fun _ _ => True :=
  .many h trivial (fun _ _ _ _ _ _ => trivial) n

def Apart (g : Char → Bool) (L : List Char → Prop) : Prop := ∀ t, L t → Ends g t

theorem Apart.mono {g h : Char → Bool} (apart : Apart g L) (sub : ∀ c, h c → g c) : Apart h L :=
  fun t last => (apart t last).mono sub

/-- A reader that never misses. -/
def Sure (p : Reader α) : Prop := ∀ s, ¬ Misses p s

/-- A reader that never halts. -/
def Mild (p : Reader α) : Prop := ∀ s e, p s ≠ .halt e

/-- Every success takes something off a text. -/
def Advances (p : Reader α) : Prop := Takes p fun c _ => c ≠ []

/-- No success goes beyond the start of an end. -/
structure Stays (L : List Char → Prop) (p : Reader α) : Prop where
  rest : ∀ {c t u a}, L t → p (c ++ t) = .done a u → ∃ r, u = r ++ t

namespace Sure

theorem pure (a : α) : Sure (pure a) := by
  rintro s ⟨e, h⟩
  cases h

theorem commit (p : Reader α) : Sure (commit p) := by
  rintro s ⟨e, h⟩
  unfold Reader.commit at h
  split at h
  · cases h
  · next other => exact other e h

theorem blanks : Sure blanks := by
  rintro s ⟨e, h⟩
  cases h

theorem takeWhile (g : Char → Bool) : Sure (takeWhile g) := by
  rintro s ⟨e, h⟩
  cases h

theorem commitWith (cause : Cause) (p : Reader α) : Sure (commitWith cause p) := by
  rintro s ⟨e, h⟩
  unfold Reader.commitWith at h
  split at h
  · cases h
  · next other => exact other e h

theorem many (p : Reader α) (n : Nat) : Sure (many p n) := by
  induction n with
  | zero => exact pure []
  | succ n ih =>
    rintro s ⟨e, h⟩
    simp only [Reader.many] at h
    split at h
    · next t _ =>
      split at h
      · cases h
      · exact ih t ⟨e, h⟩
    · cases h
    · cases h

theorem separated {γ : Type} (separator : Reader γ) (p : Reader α) (n : Nat) :
    Sure (separated separator p n) := by
  rintro s ⟨e, h⟩
  simp only [Reader.separated] at h
  split at h
  · next t _ =>
    split at h
    · cases h
    · exact many _ n t ⟨e, h⟩
  · cases h
  · cases h

theorem optional (p : Reader α) : Sure (optional p) := by
  rintro s ⟨e, h⟩
  unfold Reader.optional at h
  split at h <;> cases h

theorem bind (h : Sure p) (next : ∀ a, Sure (f a)) : Sure (p >>= f) := by
  rintro s ⟨e, missed⟩
  rw [bind_apply] at missed
  split at missed
  · next a t _ => exact next a t ⟨e, missed⟩
  · next e' first => exact h s ⟨e', first⟩
  · cases missed

end Sure

namespace Mild

theorem done_or_misses (h : Mild p) (s : List Char) : (∃ a t, p s = .done a t) ∨ Misses p s := by
  cases read : p s with
  | done a t => exact .inl ⟨a, t, rfl⟩
  | miss e => exact .inr ⟨e, read⟩
  | halt e => exact absurd read (h s e)

theorem satisfy (g : Char → Bool) : Mild (satisfy g) := by
  intro s e read
  cases s with
  | nil => cases read
  | cons c s => cases holds : g c <;> simp [Reader.satisfy, holds] at read

theorem bind (h : Mild p) (next : ∀ a, Mild (f a)) : Mild (p >>= f) := by
  intro s e read
  rw [bind_apply] at read
  split at read
  · next a t _ => exact next a t e read
  · cases read
  · next e' halted => exact h s e' halted

theorem orElse (h : Mild p) (h' : Mild q) : Mild (p <|> q) := by
  intro s e read
  rw [orElse_apply] at read
  split at read
  · exact h' s e read
  · exact h s e read

theorem within (c : Context) (h : Mild p) : Mild (within c p) := by
  intro s e read
  unfold Reader.within at read
  split at read
  · cases read
  · next e' halted => exact h s e' halted
  · exact h s e read

theorem check (g : α → Except Cause β) (h : Mild p) : Mild (check p g) := by
  intro s e read
  unfold Reader.check at read
  split at read
  · split at read <;> cases read
  · cases read
  · next e' halted => exact h s e' halted

end Mild

theorem blanks1_eq : blanks1 = (do let _ ← takeWhile1 isBlank; pure () : Reader Unit) := by
  funext s
  cases s with
  | nil => rfl
  | cons c s =>
    cases blank : isBlank c with
    | true => simp [blanks1, takeWhile1, bind_apply, pure_apply, blank]
    | false => simp [blanks1, takeWhile1, bind_apply, blank]

namespace Advances

theorem bind (h : Advances p) (next : ∀ a, Takes (f a) fun _ _ => True) :
    Advances (p >>= f) := by
  refine (Takes.bind h next).mono ?_
  rintro c b ⟨c₁, c₂, a, rfl, some, -⟩ none
  exact some (List.append_eq_nil_iff.mp none).1

theorem after (h : Takes p fun _ _ => True) (next : ∀ a, Advances (f a)) :
    Advances (p >>= f) := by
  refine (Takes.bind h next).mono ?_
  rintro c b ⟨c₁, c₂, a, rfl, -, some⟩ none
  exact some (List.append_eq_nil_iff.mp none).2

theorem orElse (h : Advances p) (h' : Advances q) : Advances (p <|> q) := Takes.orElse h h'

theorem within (c : Context) (h : Advances p) : Advances (within c p) := Takes.within c h

theorem check {γ : Type} {g : α → Except Cause γ} (h : Advances p) : Advances (check p g) :=
  (Takes.check h).mono fun _ _ taken => taken.choose_spec.1

theorem takeWhile1 (g : Char → Bool) : Advances (takeWhile1 g) :=
  (Takes.takeWhile1 g).mono fun c a holds none => holds.2.2 (by rw [← holds.1, none])

theorem satisfy (g : Char → Bool) : Advances (satisfy g) :=
  (Takes.satisfy g).mono fun c a holds none => by
    rw [holds.1] at none
    cases none

theorem char (x : Char) : Advances (char x) := satisfy _

theorem word {w : String} (some : w.toList ≠ []) : Advances (word w) :=
  (Takes.word w).mono fun c _ same none => some (by rw [← same, none])

end Advances

/-- A reader misses where a text does not start with a character, and only there. -/
def Opens (o : Char) (p : Reader α) : Prop := ∀ s, Misses p s ↔ s.head? ≠ some o

namespace Opens
variable {o : Char}

theorem bracket {f : Char → Reader β} (sure : ∀ a, Sure (f a)) : Opens o (char o >>= f) := by
  intro s
  constructor
  · intro missed head
    obtain ⟨t, rfl⟩ := List.head?_eq_some_iff.mp head
    rcases misses_of_bind missed with ⟨e, first⟩ | ⟨a, t, -, second⟩
    · rw [char_cons] at first
      cases first
    · exact sure a t second
  · intro other
    exact (char_misses other).bind

theorem within (c : Context) (h : Opens o p) : Opens o (within c p) := fun s =>
  ⟨fun missed => (h s).mp (misses_of_within missed), fun other => ((h s).mpr other).within c⟩

end Opens

namespace Stays

theorem of_takes {g : Char → Bool} (h : Takes p fun c _ => c.all g) (apart : Apart g L) :
    Stays L p := by
  refine ⟨fun {c t u a} last read => ?_⟩
  obtain ⟨d, text, all⟩ := h _ _ _ read
  rcases List.append_eq_append_iff.mp text with ⟨e, rfl, rfl⟩ | ⟨e, rfl, rfl⟩
  · cases e with
    | nil => exact ⟨[], rfl⟩
    | cons x e =>
      have no := apart _ last x rfl
      rw [List.all_append, List.all_cons, Bool.and_eq_true, Bool.and_eq_true] at all
      rw [all.2.1] at no
      cases no
  · exact ⟨e, rfl⟩

theorem mono {L' : List Char → Prop} (h : Stays L p) (left : ∀ t, L' t → L t) : Stays L' p :=
  ⟨fun last read => h.rest (left _ last) read⟩

theorem pure (a : α) : Stays L (pure a) :=
  of_takes (g := fun _ => false) ((Takes.pure a).mono fun c _ same => by rw [same.1]; rfl)
    fun _ _ _ _ => rfl

theorem satisfy {g : Char → Bool} (apart : Apart g L) : Stays L (satisfy g) :=
  of_takes ((Takes.satisfy g).mono fun c a holds => by simp [holds.1, holds.2]) apart

theorem takeWhile1 {g : Char → Bool} (apart : Apart g L) : Stays L (takeWhile1 g) :=
  of_takes ((Takes.takeWhile1 g).mono fun c a holds => by rw [holds.1]; exact holds.2.1) apart

theorem takeWhile {g : Char → Bool} (apart : Apart g L) : Stays L (takeWhile g) :=
  of_takes ((Takes.takeWhile g).mono fun c a holds => by rw [holds.1]; exact holds.2) apart

theorem blanks (apart : Apart isBlank L) : Stays L blanks := of_takes Takes.blanks apart

theorem word (w : String) (apart : Apart (· ∈ w.toList) L) : Stays L (word w) :=
  of_takes ((Takes.word w).mono fun c _ same => by
    rw [same, List.all_eq_true]
    exact fun x mem => decide_eq_true mem) apart

theorem notAhead (p : Reader α) : Stays L (notAhead p) :=
  of_takes (g := fun _ => false) ((Takes.notAhead p).mono fun c _ same => by rw [same]; rfl)
    fun _ _ _ _ => rfl

theorem ahead (p : Reader α) : Stays L (ahead p) :=
  of_takes (g := fun _ => false) ((Takes.ahead p).mono fun c _ same => by rw [same]; rfl)
    fun _ _ _ _ => rfl

theorem orElse (h : Stays L p) (h' : Stays L q) : Stays L (p <|> q) := by
  refine ⟨fun {c t u a} last read => ?_⟩
  rcases done_of_orElse read with first | ⟨-, second⟩
  · exact h.rest last first
  · exact h'.rest last second

theorem check {γ : Type} {g : α → Except Cause γ} (h : Stays L p) : Stays L (check p g) := by
  refine ⟨fun {c t u b} last read => ?_⟩
  obtain ⟨a, first, -⟩ := done_of_check read
  exact h.rest last first

theorem many (h : Stays L p) (n : Nat) : Stays L (many p n) := by
  induction n with
  | zero => exact pure []
  | succ n ih =>
    refine ⟨fun {c t u as} last read => ?_⟩
    rcases done_of_many read with ⟨-, rfl, -⟩ | ⟨a, v, bs, -, first, rest⟩
    · exact ⟨c, rfl⟩
    · obtain ⟨r, rfl⟩ := h.rest last first
      exact ih.rest last rest

theorem separated {γ : Type} {separator : Reader γ} {n : Nat} (h : Stays L p)
    (rest : Stays L (manyAfter separator p n)) : Stays L (separated separator p n) := by
  refine ⟨fun {c t u as} last read => ?_⟩
  rcases done_of_separated read with ⟨-, rfl, -⟩ | ⟨a, v, bs, -, first, more⟩
  · exact ⟨c, rfl⟩
  · obtain ⟨r, rfl⟩ := h.rest last first
    exact rest.rest last more

theorem optional (h : Stays L p) : Stays L (optional p) := by
  refine ⟨fun {c t u o} last read => ?_⟩
  rcases done_of_optional read with ⟨a, -, first⟩ | ⟨-, -, rfl⟩
  · exact h.rest last first
  · exact ⟨c, rfl⟩

theorem within (c : Context) (h : Stays L p) : Stays L (within c p) :=
  ⟨fun last read => h.rest last (done_of_within read)⟩

theorem bind (h : Stays L p) (next : ∀ a, Stays L (f a)) : Stays L (p >>= f) := by
  refine ⟨fun {c t u b} last read => ?_⟩
  obtain ⟨a, v, first, second⟩ := done_of_bind read
  obtain ⟨r, rfl⟩ := h.rest last first
  exact (next a).rest last second

end Stays

end DocPath.Reader
