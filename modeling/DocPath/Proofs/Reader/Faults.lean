import DocPath.Proofs.Reader.Conduct

/-!
Where readers give up. The text that a fault leaves is the end of the text that was read, and where
the fault is about a method, that text starts with the call of the method.
-/

namespace DocPath

/-- A text starts with a call: a name and an opening parenthesis, or a name and the opening brace of
a closure. -/
def StartsCall (name : String) (s : List Char) : Prop :=
  ∃ t, s = name.toList ++ t ∧ (t.head? = some '(' ∨ (t.dropWhile isBlank).head? = some '{')

/-- A cause that is about a method is right about the call at the front of a text. -/
def Cause.FoundAt (s : List Char) : Cause → Prop
  | .undefinedMethod name => Method.named? name = none ∧ StartsCall name s
  | .arity method count => method.accepts count = false ∧ StartsCall method.label s
  | _ => True

def Cause.isPlain : Cause → Bool
  | .undefinedMethod _ | .arity .. => false
  | _ => true

theorem Cause.FoundAt.plain {cause : Cause} (h : cause.isPlain) (s : List Char) :
    cause.FoundAt s := by
  cases cause with
  | undefinedMethod | arity => cases h
  | _ => trivial

/-- A fault leaves an end of a text, at which its cause is found. -/
structure Fault.In (s : List Char) (f : Fault) : Prop where
  behind : f.rest <:+ s
  found : f.cause.FoundAt f.rest

theorem Fault.In.start (s : List Char) {cause : Cause} (h : cause.isPlain) :
    Fault.In s ⟨s, cause, none⟩ :=
  ⟨List.suffix_refl s, .plain h s⟩

def Outcome.In {α : Type} (s : List Char) : Outcome α → Prop
  | .done _ r => r <:+ s
  | .miss f => f.In s
  | .halt f => f.In s

theorem Outcome.In.mono {α : Type} {s t : List Char} {o : Outcome α} (h : o.In t)
    (behind : t <:+ s) : o.In s := by
  cases o with
  | done a r => exact List.IsSuffix.trans h behind
  | miss f => exact ⟨h.behind.trans behind, h.found⟩
  | halt f => exact ⟨h.behind.trans behind, h.found⟩

namespace Reader

variable {α β : Type} {p q : Reader α}

/-- A reader whose faults point into the text. -/
def Points (p : Reader α) : Prop := ∀ s, (p s).In s

namespace Points

theorem pure (a : α) : Points (pure a) := fun s => List.suffix_refl s

theorem bind {f : α → Reader β} (h : Points p) (next : ∀ a, Points (f a)) : Points (p >>= f) := by
  intro s
  have first := h s
  rw [bind_apply]
  generalize p s = o at first ⊢
  cases o with
  | done a t => exact (next a t).mono first
  | miss e => exact first
  | halt e => exact first

theorem orElse (h : Points p) (k : Points q) : Points (p <|> q) := by
  intro s
  rw [orElse_apply]
  split
  · exact k s
  · exact h s

theorem commit (h : Points p) : Points (commit p) := by
  intro s
  have first := h s
  unfold Reader.commit
  generalize p s = o at first ⊢
  cases o <;> exact first

theorem commitWith {cause : Cause} (plain : cause.isPlain) (h : Points p) :
    Points (commitWith cause p) := by
  intro s
  unfold Reader.commitWith
  split
  · exact .start s plain
  · exact h s

theorem within (c : Context) (h : Points p) : Points (within c p) := by
  intro s
  have first := h s
  unfold Reader.within
  generalize p s = o at first ⊢
  cases o with
  | done a t => exact first
  | miss e => exact ⟨first.behind, first.found⟩
  | halt e => exact ⟨first.behind, first.found⟩

theorem check {g : α → Except Cause β} (h : Points p)
    (plain : ∀ a cause, g a = .error cause → cause.isPlain) : Points (check p g) := by
  intro s
  have first := h s
  unfold Reader.check
  generalize p s = o at first ⊢
  cases o with
  | done a t =>
    dsimp only
    split
    · exact first
    · next cause refused => exact .start s (plain a cause refused)
  | miss e => exact first
  | halt e => exact first

theorem optional (h : Points p) : Points (optional p) := by
  intro s
  have first := h s
  unfold Reader.optional
  generalize p s = o at first ⊢
  cases o with
  | done a t => exact first
  | miss e => exact List.suffix_refl s
  | halt e => exact first

theorem ahead (h : Points p) : Points (ahead p) := by
  intro s
  have first := h s
  unfold Reader.ahead
  generalize p s = o at first ⊢
  cases o with
  | done a t => exact List.suffix_refl s
  | miss e => exact first
  | halt e => exact first

theorem notAhead (h : Points p) : Points (notAhead p) := by
  intro s
  have first := h s
  unfold Reader.notAhead
  generalize p s = o at first ⊢
  cases o with
  | done a t => exact .start s rfl
  | miss e => exact List.suffix_refl s
  | halt e => exact first

theorem many (h : Points p) (n : Nat) : Points (many p n) := by
  induction n with
  | zero => exact pure []
  | succ n ih =>
    intro s
    have first := h s
    simp only [Reader.many]
    generalize p s = o at first ⊢
    cases o with
    | done a t =>
      have rest := (ih t).mono first
      dsimp only
      generalize Reader.many p n t = o at rest ⊢
      cases o <;> exact rest
    | miss e => exact List.suffix_refl s
    | halt e => exact first

theorem separated {γ : Type} {separator : Reader γ} (h : Points p) (between : Points separator)
    (n : Nat) : Points (separated separator p n) := by
  have after : Points (manyAfter separator p n) := (between.bind fun _ => h).many n
  intro s
  have first := h s
  simp only [Reader.separated]
  generalize p s = o at first ⊢
  cases o with
  | done a t =>
    have rest := (after t).mono first
    dsimp only
    generalize manyAfter separator p n t = o at rest ⊢
    cases o <;> exact rest
  | miss e => exact List.suffix_refl s
  | halt e => exact first

theorem fail {cause : Cause} (plain : cause.isPlain) : Points (fail cause : Reader α) :=
  fun s => .start s plain

theorem satisfy (g : Char → Bool) : Points (satisfy g) := by
  intro s
  cases s with
  | nil => exact .start [] rfl
  | cons c s =>
    simp only [Reader.satisfy]
    split
    · exact List.suffix_cons c s
    · exact .start _ rfl

theorem char (c : Char) : Points (char c) := satisfy _

theorem takeWhile (g : Char → Bool) : Points (takeWhile g) := fun _ => List.dropWhile_suffix g

theorem takeWhile1 (g : Char → Bool) : Points (takeWhile1 g) := by
  intro s
  unfold Reader.takeWhile1
  split
  · exact .start s rfl
  · exact List.dropWhile_suffix g

theorem word (w : String) : Points (word w) := by
  intro s
  unfold Reader.word
  split
  · exact List.drop_suffix _ s
  · exact .start s rfl

theorem blanks : Points blanks := takeWhile isBlank

theorem blanks1 : Points blanks1 := by
  rw [blanks1_eq]
  exact (takeWhile1 isBlank).bind fun _ => .pure ()

theorem atEnd : Points atEnd := by
  intro s
  cases s with
  | nil => exact List.suffix_refl []
  | cons c s => exact .start (c :: s) rfl

end Points

end Reader
end DocPath
