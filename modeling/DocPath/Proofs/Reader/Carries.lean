import DocPath.Proofs.Reader.Conduct

/-!
One text in front of two ends. A reader that gives a value in front of one end gives it in front of
another one, as far as both look alike to it where it looks ahead. The two readings may be by
readers that differ in their bounds only, which are enough for texts of less than `k` characters.
-/

namespace DocPath.Reader

variable {α β : Type} {L R : List Char → Prop} {k : Nat} {p q p' q' : Reader α}
  {f g : α → Reader β}

/-- What the first reader takes in front of an end in `L`, the second one takes in front of every
end in `R`. -/
structure Carries (L R : List Char → Prop) (k : Nat) (p q : Reader α) : Prop where
  takes : Takes p fun _ _ => True
  done : ∀ {c r t t' a}, L t → R t' → c.length < k → p (c ++ t) = .done a (r ++ t) →
    q (c ++ t') = .done a (r ++ t')

/-- The second reader also misses where the first one does. -/
structure Mirrors (L R : List Char → Prop) (k : Nat) (p q : Reader α) : Prop
    extends Carries L R k p q where
  misses : ∀ {c t t'}, L t → R t' → c.length < k → Misses p (c ++ t) → Misses q (c ++ t')

/-- A reader that reads alike in front of both kinds of ends, and stops in front of the first. -/
structure Local (L R : List Char → Prop) (k : Nat) (p : Reader α) : Prop
    extends Mirrors L R k p p where
  stays : Stays L p

/-- No end of either kind starts with a character of a class. -/
structure Clear (g : Char → Bool) (L R : List Char → Prop) : Prop where
  left : Apart g L
  right : Apart g R

theorem Clear.mono {g h : Char → Bool} (clear : Clear g L R) (sub : ∀ c, h c → g c) :
    Clear h L R :=
  ⟨clear.left.mono sub, clear.right.mono sub⟩

/-- What the first reader takes up to a closing character, the second one takes, whatever is behind
that character. -/
structure Encloses (x : Char) (k : Nat) (p q : Reader α) : Prop where
  ends : Takes p fun c _ => ∃ d, c = d ++ [x]
  done : ∀ {c u u' a}, c.length < k → p (c ++ x :: u) = .done a u →
    q (c ++ x :: u') = .done a u'

def Starts (x : Char) (t : List Char) : Prop := ∃ u, t = x :: u

theorem Starts.ends {x : Char} {t : List Char} (h : Starts x t) {g : Char → Bool}
    (other : g x = false) : Ends g t := by
  obtain ⟨u, rfl⟩ := h
  exact .cons other u

theorem clear_starts {g : Char → Bool} {x : Char} (other : g x = false) :
    Clear g (Starts x) (Starts x) :=
  ⟨fun _ last => last.ends other, fun _ last => last.ends other⟩

theorem ends_dropWhile (g : Char → Bool) (s : List Char) : Ends g (s.dropWhile g) := by
  intro c head
  have no := List.head?_dropWhile_not g s
  rw [head] at no
  exact no

theorem Ends.exchange {g : Char → Bool} {r t t' : List Char} (h : Ends g (r ++ t))
    (last : Ends g t') : Ends g (r ++ t') := by
  cases r with
  | nil => exact last
  | cons c r => exact .cons (h c rfl) _

theorem Takes.split {P : List Char → α → Prop} (h : Takes p P) {c r t u w : List Char} {a : α}
    (read : p (c ++ t) = .done a u) (rest : u = w ++ (r ++ t)) :
    ∃ d, c = d ++ (w ++ r) ∧ P d a := by
  obtain ⟨d, text, holds⟩ := h _ _ _ read
  rw [rest, ← List.append_assoc, ← List.append_assoc, List.append_cancel_right_eq] at text
  exact ⟨d, by rw [text, List.append_assoc], holds⟩

theorem Advances.shorter (h : Advances p) {c r t : List Char} {a : α}
    (read : p (c ++ t) = .done a (r ++ t)) : r.length < c.length := by
  obtain ⟨d, text, full⟩ := Takes.split (w := []) h read rfl
  have some := List.length_pos_iff.mpr full
  rw [text, List.length_append, List.nil_append]
  omega

namespace Carries

theorem mono {L' R' : List Char → Prop} {j : Nat} (h : Carries L R k p q) (left : ∀ t, L' t → L t)
    (right : ∀ t, R' t → R t) (less : j ≤ k) : Carries L' R' j p q :=
  ⟨h.takes, fun l r short => h.done (left _ l) (right _ r) (by omega)⟩

theorem pure (a : α) : Carries L R k (pure a) (pure a) := by
  refine ⟨(Takes.pure a).any, fun {c r t t' b} _ _ _ read => ?_⟩
  rw [pure_apply, Outcome.done.injEq, List.append_cancel_right_eq] at read
  rw [pure_apply, read.1, read.2]

theorem bind_of {j : Nat} (h : Carries L R k p q) (some : Takes p fun c _ => k ≤ c.length + j)
    (next : ∀ a, Carries L R j (f a) (g a)) : Carries L R k (p >>= f) (q >>= g) := by
  refine ⟨h.takes.bind_any fun a => (next a).takes, fun {c r t t' b} left right short read => ?_⟩
  obtain ⟨a, u, first, second⟩ := done_of_bind read
  obtain ⟨w, rest, -⟩ := (next a).takes _ _ _ second
  obtain ⟨d, text, much⟩ := some.split first rest
  rw [rest, ← List.append_assoc] at first second
  rw [bind_done (h.done left right short first)]
  refine (next a).done left right ?_ second
  rw [text, List.length_append] at short
  omega

theorem bind (h : Carries L R k p q) (next : ∀ a, Carries L R k (f a) (g a)) :
    Carries L R k (p >>= f) (q >>= g) :=
  h.bind_of (h.takes.mono fun _ _ _ => by omega) next

theorem step (h : Carries L R (k + 1) p q) (some : Advances p)
    (next : ∀ a, Carries L R k (f a) (g a)) : Carries L R (k + 1) (p >>= f) (q >>= g) := by
  refine h.bind_of (some.mono fun c _ full => ?_) next
  have := List.length_pos_iff.mpr full
  omega

theorem orElse (h : Mirrors L R k p q) (h' : Carries L R k p' q') :
    Carries L R k (p <|> p') (q <|> q') := by
  refine ⟨.orElse h.takes h'.takes, fun left right short read => ?_⟩
  rcases done_of_orElse read with first | ⟨missed, second⟩
  · exact orElse_done (h.done left right short first)
  · rw [orElse_next (h.misses left right short missed)]
    exact h'.done left right short second

theorem orElse_apart (h : Carries L R k p q) (h' : Carries L R k p' q')
    (apart : Takes p' fun c _ => ∀ s, Misses q (c ++ s)) :
    Carries L R k (p <|> p') (q <|> q') := by
  refine ⟨.orElse h.takes h'.takes, fun {c r t t' a} left right short read => ?_⟩
  rcases done_of_orElse read with first | ⟨-, second⟩
  · exact orElse_done (h.done left right short first)
  · obtain ⟨d, text, missed⟩ := apart _ _ _ second
    rw [← List.append_assoc, List.append_cancel_right_eq] at text
    have missed' : Misses q (c ++ t') := by
      rw [text, List.append_assoc]
      exact missed _
    rw [orElse_next missed']
    exact h'.done left right short second

theorem orElse_opens {o : Char} (h : Carries L R k p q) (opens : Opens o p) (opens' : Opens o q)
    (h' : Carries L R k p' q') (some : Advances p') : Carries L R k (p <|> p') (q <|> q') := by
  refine ⟨.orElse h.takes h'.takes, fun {c r t t' a} left right short read => ?_⟩
  rcases done_of_orElse read with first | ⟨missed, second⟩
  · exact orElse_done (h.done left right short first)
  · obtain ⟨d, text, full⟩ := Takes.split (w := []) some second rfl
    have missed' : Misses q (c ++ t') := by
      obtain ⟨x, d, rfl⟩ := List.exists_cons_of_ne_nil full
      subst text
      have other := (opens _).mp missed
      exact (opens' _).mpr (by simpa using other)
    rw [orElse_next missed']
    exact h'.done left right short second

theorem within (c : Context) (h : Carries L R k p q) :
    Carries L R k (within c p) (within c q) :=
  ⟨h.takes.within c, fun left right short read =>
    within_done c (h.done left right short (done_of_within read))⟩

theorem check {γ : Type} (g : α → Except Cause γ) (h : Carries L R k p q) :
    Carries L R k (check p g) (check q g) := by
  refine ⟨h.takes.check.any, fun left right short read => ?_⟩
  obtain ⟨a, first, made⟩ := done_of_check read
  exact check_done (h.done left right short first) made

theorem optional (h : Mirrors L R k p q) : Carries L R k (optional p) (optional q) := by
  refine ⟨h.takes.optional.any, fun left right short read => ?_⟩
  rcases done_of_optional read with ⟨a, rfl, first⟩ | ⟨rfl, missed, rest⟩
  · exact optional_done (h.done left right short first)
  · rw [List.append_cancel_right_eq] at rest
    rw [rest]
    exact optional_none (h.misses left right short missed)

/-- Bounds of at least `k` are enough for repetitions that advance. -/
theorem many {n m : Nat} (h : Mirrors L R k p q) (some : Advances p) (first : k ≤ n)
    (second : k ≤ m) : Carries L R k (many p n) (many q m) := by
  refine ⟨h.takes.many_any n, fun {c r t t' as} left right short read => ?_⟩
  have enough : c.length < n := by omega
  have enough' : c.length < m := by omega
  clear first second
  induction n generalizing m c as with
  | zero => omega
  | succ n ih =>
    obtain ⟨m, rfl⟩ : ∃ l, m = l + 1 := ⟨m - 1, by omega⟩
    rcases done_of_many read with ⟨rfl, rest, missed⟩ | ⟨a, u, bs, rfl, item, more⟩
    · rw [List.append_cancel_right_eq] at rest
      rw [rest]
      exact many_none (h.misses left right short missed) (m + 1)
    · obtain ⟨w, rest, -⟩ := h.takes.many_any n _ _ _ more
      rw [rest, ← List.append_assoc] at item more
      have less := some.shorter item
      exact many_cons (h.done left right short item)
        (ih (by omega) more (by omega) (by omega))

theorem many_append {n m : Nat} {c t t' u : List Char} {as bs : List α} (h : Carries L R k p q)
    (left : L t) (right : R t') (short : c.length < k)
    (read : Reader.many p n (c ++ t) = .done as t) (more : Reader.many q m t' = .done bs u) :
    Reader.many q (as.length + m) (c ++ t') = .done (as ++ bs) u := by
  induction n generalizing c as with
  | zero =>
    obtain ⟨rfl, same⟩ := Outcome.done.inj read
    rw [List.append_left_eq_self] at same
    rw [same, List.length_nil, Nat.zero_add]
    exact more
  | succ n ih =>
    rcases done_of_many read with ⟨rfl, same, -⟩ | ⟨a, v, as, rfl, item, rest⟩
    · rw [List.self_eq_append_left] at same
      rw [same, List.length_nil, Nat.zero_add]
      exact more
    · obtain ⟨w, rfl, -⟩ := h.takes.many_any n _ _ _ rest
      obtain ⟨d, text, -⟩ := h.takes.split (w := []) item rfl
      have less : w.length ≤ c.length := by
        rw [text]
        simp
      have tail := ih (by omega) rest
      rw [List.length_cons, Nat.add_right_comm]
      exact many_cons (h.done left right short item) tail

theorem many_behind {n m : Nat} {c t t' u : List Char} {as xs : List α} (h : Carries L R k p q)
    (left : L t) (right : R t') (short : c.length < k)
    (read : Reader.many p n (c ++ t) = .done as t)
    (whole : Reader.many q (as.length + m) (c ++ t') = .done xs u) :
    ∃ bs, xs = as ++ bs ∧ Reader.many q m t' = .done bs u := by
  induction n generalizing c as xs with
  | zero =>
    obtain ⟨rfl, same⟩ := Outcome.done.inj read
    rw [List.append_left_eq_self] at same
    rw [same, List.length_nil, Nat.zero_add] at whole
    exact ⟨xs, rfl, whole⟩
  | succ n ih =>
    rcases done_of_many read with ⟨rfl, same, -⟩ | ⟨a, v, as, rfl, item, rest⟩
    · rw [List.self_eq_append_left] at same
      rw [same, List.length_nil, Nat.zero_add] at whole
      exact ⟨xs, rfl, whole⟩
    · obtain ⟨w, rfl, -⟩ := h.takes.many_any n _ _ _ rest
      obtain ⟨d, text, -⟩ := h.takes.split (w := []) item rfl
      have less : w.length ≤ c.length := by
        rw [text]
        simp
      have item' := h.done left right short item
      rw [List.length_cons, Nat.add_right_comm] at whole
      -- The second reader takes the same item first, so it does not miss here.
      rcases done_of_many whole with ⟨-, -, fault, missed⟩ | ⟨a', v, xs, rfl, first, later⟩
      · rw [item'] at missed
        cases missed
      · obtain ⟨rfl, rfl⟩ := Outcome.done.inj (item'.symm.trans first)
        obtain ⟨bs, rfl, behind⟩ := ih (by omega) rest later
        exact ⟨bs, rfl, behind⟩

theorem separated {γ : Type} {separator separator' : Reader γ} {n m : Nat}
    (h : Mirrors L R k p q)
    (rest : Carries L R k (manyAfter separator p n) (manyAfter separator' q m)) :
    Carries L R k (separated separator p n) (separated separator' q m) := by
  refine ⟨?_, fun {c r t t' as} left right short read => ?_⟩
  · exact .separated h.takes trivial (rest.takes.mono fun _ _ _ _ _ _ => trivial)
  · rcases done_of_separated read with ⟨rfl, same, missed⟩ | ⟨a, u, bs, rfl, item, more⟩
    · rw [List.append_cancel_right_eq] at same
      rw [same]
      exact separated_none (h.misses left right short missed) m
    · obtain ⟨w, left', -⟩ := rest.takes _ _ _ more
      obtain ⟨d, text, -⟩ := h.takes.split item left'
      rw [left', ← List.append_assoc] at item more
      refine separated_cons (h.done left right short item) (rest.done left right ?_ more)
      rw [text, List.length_append] at short
      omega

theorem spaced (h : Carries L R k p q) (some : Advances p) :
    Carries L R k (do Reader.blanks; p) (do Reader.blanks; q) := by
  refine ⟨Takes.blanks.bind_any fun _ => h.takes, fun {c r t t' a} left right short read => ?_⟩
  rw [bind_done (blanks_apply _), skipBlanks, List.dropWhile_append] at read ⊢
  split at read
  · obtain ⟨d, text, full⟩ := some _ _ _ read
    have none := congrArg List.length text
    have shorter := (List.dropWhile_suffix (l := t) isBlank).length_le
    have more := List.length_pos_iff.mpr full
    simp only [List.length_append] at none
    omega
  · next front =>
    rw [if_neg front]
    have shorter := (List.dropWhile_suffix (l := c) isBlank).length_le
    exact h.done left right (by omega) read

theorem takeWhile {g : Char → Bool} (right : Apart g R) :
    Carries L R k (takeWhile g) (takeWhile g) := by
  refine ⟨(Takes.takeWhile g).any, fun {c r t t' a} _ last _ read => ?_⟩
  obtain ⟨d, text, rfl, all⟩ := Takes.takeWhile g _ _ _ read
  rw [← List.append_assoc, List.append_cancel_right_eq] at text
  rw [text, List.append_assoc]
  refine takeWhile_append all (Ends.exchange (t := t) ?_ (right t' last))
  rw [← (Outcome.done.inj read).2]
  exact ends_dropWhile g _

theorem takeWhile1 {g : Char → Bool} (right : Apart g R) :
    Carries L R k (takeWhile1 g) (takeWhile1 g) := by
  refine ⟨(Takes.takeWhile1 g).any, fun {c r t t' a} _ last _ read => ?_⟩
  obtain ⟨d, text, rfl, all, some⟩ := Takes.takeWhile1 g _ _ _ read
  rw [← List.append_assoc, List.append_cancel_right_eq] at text
  rw [text, List.append_assoc]
  refine takeWhile1_append all some (Ends.exchange (t := t) ?_ (right t' last))
  simp only [Reader.takeWhile1] at read
  split at read
  · cases read
  · rw [← (Outcome.done.inj read).2]
    exact ends_dropWhile g _

theorem blanks (right : Apart isBlank R) : Carries L R k blanks blanks := by
  refine ⟨Takes.blanks.any, fun {c r t t' a} left last short read => ?_⟩
  have run : Reader.takeWhile isBlank (c ++ t) = .done ((c ++ t).takeWhile isBlank) (r ++ t) := by
    rw [← (Outcome.done.inj read).2]
    rfl
  have run' := (Carries.takeWhile right).done left last short run
  exact congrArg (Outcome.done ()) (Outcome.done.inj run').2

theorem of_takes (h : Takes p fun c a => ∀ s, p (c ++ s) = .done a s) : Carries L R k p p := by
  refine ⟨h.any, fun {c r t t' a} _ _ _ read => ?_⟩
  obtain ⟨d, text, same⟩ := h _ _ _ read
  rw [← List.append_assoc, List.append_cancel_right_eq] at text
  rw [text, List.append_assoc]
  exact same _

theorem satisfy (g : Char → Bool) : Carries L R k (satisfy g) (satisfy g) :=
  of_takes ((Takes.satisfy g).mono fun c a taken s => by
    rw [taken.1]
    exact satisfy_done taken.2 s)

theorem word (w : String) : Carries L R k (word w) (word w) :=
  of_takes ((Takes.word w).mono fun c _ taken s => by
    rw [taken]
    exact word_append w s)

end Carries

namespace Mirrors

theorem mono {L' R' : List Char → Prop} {j : Nat} (h : Mirrors L R k p q) (left : ∀ t, L' t → L t)
    (right : ∀ t, R' t → R t) (less : j ≤ k) : Mirrors L' R' j p q :=
  ⟨h.toCarries.mono left right less, fun l r short => h.misses (left _ l) (right _ r) (by omega)⟩

theorem none (takes : Takes p fun _ _ => True) : Mirrors L R 0 p q :=
  ⟨⟨takes, fun _ _ short => absurd short (Nat.not_lt_zero _)⟩,
    fun _ _ short => absurd short (Nat.not_lt_zero _)⟩

theorem of_sure (h : Carries L R k p q) (sure : Sure p) : Mirrors L R k p q :=
  ⟨h, fun _ _ _ missed => absurd missed (sure _)⟩

theorem bind_sure (h : Mirrors L R k p q) (whole : Carries L R k (p >>= f) (q >>= g))
    (sure : ∀ a, Sure (f a)) : Mirrors L R k (p >>= f) (q >>= g) := by
  refine ⟨whole, fun left right short missed => ?_⟩
  rcases misses_of_bind missed with first | ⟨a, u, -, second⟩
  · exact (h.misses left right short first).bind
  · exact absurd second (sure a u)

theorem bind (h : Mirrors L R k p q) (stays : Stays L p)
    (next : ∀ a, Mirrors L R k (f a) (g a)) : Mirrors L R k (p >>= f) (q >>= g) := by
  refine ⟨h.toCarries.bind fun a => (next a).toCarries, fun {c t t'} left right short missed => ?_⟩
  rcases misses_of_bind missed with first | ⟨a, u, first, second⟩
  · exact (h.misses left right short first).bind
  · obtain ⟨r, rfl⟩ := stays.rest left first
    obtain ⟨d, text, -⟩ := h.takes.split (w := []) first rfl
    refine .bind_after (h.done left right short first) ((next a).misses left right ?_ second)
    rw [text, List.length_append, List.nil_append] at short
    omega

theorem orElse (h : Mirrors L R k p q) (h' : Mirrors L R k p' q') :
    Mirrors L R k (p <|> p') (q <|> q') := by
  refine ⟨.orElse h h'.toCarries, fun left right short missed => ?_⟩
  obtain ⟨first, second⟩ := misses_of_orElse missed
  exact .orElse (h.misses left right short first) (h'.misses left right short second)

theorem commit (h : Carries L R k p q) : Mirrors L R k (commit p) (commit q) :=
  of_sure ⟨h.takes.commit, fun left right short read =>
    commit_done (h.done left right short (done_of_commit read))⟩ (.commit p)

theorem within (c : Context) (h : Mirrors L R k p q) : Mirrors L R k (within c p) (within c q) :=
  ⟨h.toCarries.within c, fun left right short missed =>
    (h.misses left right short (misses_of_within missed)).within c⟩

theorem check {γ : Type} (g : α → Except Cause γ) (h : Mirrors L R k p q) (stays : Stays L p) :
    Mirrors L R k (check p g) (check q g) := by
  refine ⟨h.toCarries.check g, fun left right short missed => ?_⟩
  rcases misses_of_check missed with first | ⟨a, u, cause, first, refused⟩
  · exact (h.misses left right short first).check g
  · obtain ⟨r, rfl⟩ := stays.rest left first
    exact .check_error (h.done left right short first) refused

theorem optional (h : Mirrors L R k p q) : Mirrors L R k (optional p) (optional q) :=
  of_sure (.optional h) (.optional p)

theorem ahead (h : Mirrors L R k p q) (stays : Stays L p) :
    Mirrors L R k (ahead p) (ahead q) := by
  refine ⟨⟨(Takes.ahead p).any, fun left right short read => ?_⟩, fun left right short missed =>
    ahead_misses (h.misses left right short (misses_of_ahead missed))⟩
  obtain ⟨rest, a, u, first⟩ := done_of_ahead read
  obtain ⟨w, rfl⟩ := stays.rest left first
  rw [List.append_cancel_right_eq] at rest
  rw [rest]
  exact ahead_done (h.done left right short first)

theorem notAhead (h : Mirrors L R k p q) (stays : Stays L p) :
    Mirrors L R k (notAhead p) (notAhead q) := by
  refine ⟨⟨(Takes.notAhead p).any, fun left right short read => ?_⟩,
    fun left right short missed => ?_⟩
  · obtain ⟨rest, missed⟩ := done_of_notAhead read
    rw [List.append_cancel_right_eq] at rest
    rw [rest]
    exact notAhead_done (h.misses left right short missed)
  · obtain ⟨a, u, first⟩ := misses_of_notAhead missed
    obtain ⟨w, rfl⟩ := stays.rest left first
    exact notAhead_misses (h.done left right short first)

theorem pure (a : α) : Mirrors L R k (pure a) (pure a) := of_sure (.pure a) (.pure a)

theorem blanks (right : Apart isBlank R) : Mirrors L R k blanks blanks :=
  of_sure (.blanks right) .blanks

theorem satisfy {g : Char → Bool} (right : Apart g R) :
    Mirrors L R k (satisfy g) (satisfy g) := by
  refine ⟨.satisfy g, fun {c t t'} _ last _ missed => ?_⟩
  cases c with
  | nil => exact satisfy_misses (right t' last)
  | cons x c =>
    refine satisfy_misses (.cons ?_ _)
    obtain ⟨e, missed⟩ := missed
    cases holds : g x with
    | false => rfl
    | true =>
      rw [List.cons_append, satisfy_done holds] at missed
      cases missed

theorem char {x : Char} (right : Apart (· = x) R) :
    Mirrors L R k (char x) (char x) := satisfy right

theorem takeWhile1 {g : Char → Bool} (right : Apart g R) :
    Mirrors L R k (takeWhile1 g) (takeWhile1 g) := by
  refine ⟨.takeWhile1 right, fun {c t t'} _ last _ missed => ?_⟩
  cases c with
  | nil => exact takeWhile1_misses (right t' last)
  | cons x c =>
    refine takeWhile1_misses (.cons ?_ _)
    obtain ⟨e, missed⟩ := missed
    cases holds : g x with
    | false => rfl
    | true =>
      simp [Reader.takeWhile1, holds] at missed

theorem word (w : String) (right : Apart (· ∈ w.toList) R) :
    Mirrors L R k (word w) (word w) := by
  refine ⟨.word w, fun {c t t'} _ last _ missed => word_misses ?_⟩
  rintro ⟨u, text⟩
  rcases List.append_eq_append_iff.mp text with ⟨d, rfl, -⟩ | ⟨d, same, rfl⟩
  · exact prefix_of_misses missed ⟨d ++ t, by rw [List.append_assoc]⟩
  · cases d with
    | nil =>
      rw [List.append_nil] at same
      exact prefix_of_misses missed ⟨t, by rw [same]⟩
    | cons x d =>
      have no := right _ last x rfl
      rw [same] at no
      simp at no

theorem spaced (h : Mirrors L R k p q) (some : Advances p)
    (none : ∀ t', R t' → Misses q (skipBlanks t')) :
    Mirrors L R k (do Reader.blanks; p) (do Reader.blanks; q) := by
  refine ⟨h.toCarries.spaced some, fun {c t t'} left right short missed => ?_⟩
  rcases misses_of_bind missed with first | ⟨a, u, first, second⟩
  · exact absurd first (Sure.blanks _)
  · cases first
    refine .bind_after (blanks_apply _) ?_
    rw [skipBlanks, List.dropWhile_append]
    rw [List.dropWhile_append] at second
    split at second
    · next front =>
      rw [if_pos front]
      exact none t' right
    · next front =>
      rw [if_neg front]
      have shorter := (List.dropWhile_suffix (l := c) isBlank).length_le
      exact h.misses left right (by omega) second

end Mirrors

namespace Local

theorem pure (a : α) : Local L R k (pure a) := ⟨.pure a, .pure a⟩

theorem bind (h : Local L R k p) (next : ∀ a, Local L R k (f a)) : Local L R k (p >>= f) :=
  ⟨h.toMirrors.bind h.stays fun a => (next a).toMirrors, h.stays.bind fun a => (next a).stays⟩

theorem before {f g : α → Reader β} (h : Local L R k p) (next : ∀ a, Mirrors L R k (f a) (g a)) :
    Mirrors L R k (p >>= f) (p >>= g) := h.toMirrors.bind h.stays next

theorem orElse (h : Local L R k p) (h' : Local L R k q) : Local L R k (p <|> q) :=
  ⟨h.toMirrors.orElse h'.toMirrors, h.stays.orElse h'.stays⟩

theorem optional (h : Local L R k p) : Local L R k (optional p) :=
  ⟨h.toMirrors.optional, h.stays.optional⟩

theorem check {γ : Type} (g : α → Except Cause γ) (h : Local L R k p) : Local L R k (check p g) :=
  ⟨h.toMirrors.check g h.stays, h.stays.check⟩

theorem within (c : Context) (h : Local L R k p) : Local L R k (within c p) :=
  ⟨h.toMirrors.within c, h.stays.within c⟩

theorem notAhead (h : Local L R k p) : Local L R k (notAhead p) :=
  ⟨h.toMirrors.notAhead h.stays, .notAhead p⟩

section
variable {g : Char → Bool}

theorem satisfy (clear : Clear g L R) : Local L R k (satisfy g) :=
  ⟨.satisfy clear.right, .satisfy clear.left⟩

theorem char {x : Char} (clear : Clear (· = x) L R) : Local L R k (char x) := satisfy clear

theorem takeWhile (clear : Clear g L R) : Local L R k (takeWhile g) :=
  ⟨.of_sure (.takeWhile clear.right) (.takeWhile g), .takeWhile clear.left⟩

theorem takeWhile1 (clear : Clear g L R) : Local L R k (takeWhile1 g) :=
  ⟨.takeWhile1 clear.right, .takeWhile1 clear.left⟩

theorem blanks (clear : Clear isBlank L R) : Local L R k blanks :=
  ⟨.blanks clear.right, .blanks clear.left⟩

theorem blanks1 (clear : Clear isBlank L R) : Local L R k blanks1 := by
  rw [blanks1_eq]
  exact (takeWhile1 clear).bind fun _ => .pure ()

theorem word (clear : Clear g L R) {w : String} (letters : w.toList.all g) :
    Local L R k (word w) := by
  have part : ∀ x, decide (x ∈ w.toList) = true → g x = true :=
    fun x mem => List.all_eq_true.mp letters x (of_decide_eq_true mem)
  exact ⟨.word w (clear.right.mono part), .word w (clear.left.mono part)⟩

end

end Local

namespace Encloses
variable {x : Char}

theorem last {a : α} (takes : Takes p fun c _ => c = [x]) (done : ∀ u, p (x :: u) = .done a u) :
    Encloses x k p p := by
  refine ⟨takes.mono fun c _ same => ⟨[], same⟩, fun {c u u' b} _ read => ?_⟩
  obtain ⟨d, text, rfl⟩ := takes _ _ _ read
  have same : c = [] := by
    have lengths := congrArg List.length text
    simpa using lengths
  subst same
  rw [List.nil_append, done] at read
  cases read
  exact done u'

theorem close (b : β) : Encloses x k (do let _ ← char x; Reader.pure b)
    (do let _ ← char x; Reader.pure b) := by
  refine last (a := b) (((Takes.char x).bind fun _ => .pure b).mono ?_) fun u => ?_
  · rintro c a ⟨c₁, c₂, y, rfl, ⟨rfl, -⟩, rfl, -⟩
    rfl
  · rw [bind_done (char_cons x u)]
    rfl

theorem bind (h : Carries (Starts x) (Starts x) k p q) (next : ∀ a, Encloses x k (f a) (g a)) :
    Encloses x k (p >>= f) (q >>= g) := by
  refine ⟨?_, fun {c u u' b} short read => ?_⟩
  · refine (h.takes.bind fun a => (next a).ends).mono ?_
    rintro c b ⟨c₁, c₂, a, rfl, -, d, rfl⟩
    exact ⟨c₁ ++ d, by rw [List.append_assoc]⟩
  · obtain ⟨a, v, first, second⟩ := done_of_bind read
    obtain ⟨c₂, rest, d, rfl⟩ := (next a).ends _ _ _ second
    rw [List.append_assoc, List.singleton_append] at rest
    obtain ⟨c₁, text, -⟩ := h.takes.split (w := d) (r := []) first rest
    rw [rest] at first second
    rw [bind_done (h.done ⟨u, rfl⟩ ⟨u', rfl⟩ short first)]
    refine (next a).done ?_ second
    rw [text, List.length_append, List.append_nil] at short
    omega

theorem map (h : Encloses x k p q) (made : α → β) :
    Encloses x k (p >>= fun a => Reader.pure (made a)) (q >>= fun a => Reader.pure (made a)) := by
  refine ⟨(h.ends.bind fun a => .pure (made a)).mono ?_, fun {c u u' b} short read => ?_⟩
  · rintro c b ⟨c₁, c₂, a, rfl, ends, rfl, -⟩
    rw [List.append_nil]
    exact ends
  · obtain ⟨a, v, first, second⟩ := done_of_bind read
    cases second
    rw [bind_done (h.done short first)]
    rfl

theorem within (c : Context) (h : Encloses x k p q) :
    Encloses x k (within c p) (within c q) :=
  ⟨h.ends.within c, fun short read => within_done c (h.done short (done_of_within read))⟩

theorem commit (h : Encloses x k p q) : Encloses x k (commit p) (commit q) :=
  ⟨h.ends.commit, fun short read => commit_done (h.done short (done_of_commit read))⟩

theorem advances (h : Encloses x k p q) : Advances p :=
  h.ends.mono fun c _ taken none => by
    obtain ⟨d, rfl⟩ := taken
    exact absurd none (by simp)

theorem carries (h : Encloses x k p q) : Carries L R (k + 1) p q := by
  refine ⟨h.ends.any, fun {c r t t' a} _ _ short read => ?_⟩
  obtain ⟨d, text, e, rfl⟩ := h.ends _ _ _ read
  rw [← List.append_assoc, List.append_cancel_right_eq] at text
  rw [text, List.append_assoc, List.append_assoc] at read ⊢
  refine h.done ?_ read
  rw [text] at short
  simp only [List.length_append, List.length_singleton] at short
  omega

theorem mirrors {o : Char} (h : Encloses x k p q) (opens : Opens o p)
    (opens' : Opens o q) (right : Apart (· = o) R) : Mirrors L R (k + 1) p q := by
  refine ⟨h.carries, fun {c t t'} _ last _ missed => (opens' _).mpr ?_⟩
  cases c with
  | nil =>
    intro head
    simpa using right t' last o head
  | cons y c => simpa using (opens _).mp missed

end Encloses

end DocPath.Reader
