import DocPath.Proofs.Path.Local.Brackets

/-!
Segments are read alike in front of what ends them: blanks and closers, and the separators of
further segments other than a star.
-/

namespace DocPath

open Reader

/-- After a segment, in front of anything but a star. -/
structure Break (s : List Char) : Prop where
  head : Heads [' ', '\n', '\t', '\r', ',', ']', ')', ';', ':', '}', '.', '['] s
  closure : NoClosure s

theorem Loose.heads {s : List Char} (h : Loose s) :
    Heads [' ', '\n', '\t', '\r', ',', ']', ')', ';', ':', '}'] s := by
  intro c head
  rcases h.head c head with blank | closer
  · exact isBlank_cases (p := (· ∈ _)) blank (by simp) (by simp) (by simp) (by simp)
  · exact isCloser_cases (p := (· ∈ _)) closer (by simp) (by simp) (by simp) (by simp) (by simp)
      (by simp)

theorem Loose.break {s : List Char} (h : Loose s) : Break s :=
  ⟨fun c head => List.mem_append_left ['.', '['] (h.heads c head), h.closure⟩

theorem Reader.Closed.loose {s : List Char} (h : Closed s) : Loose s := by
  refine Stop.loose fun c head => ?_
  cases s with
  | nil => cases head
  | cons d s =>
    have mem := h d rfl
    have blank : isBlank d = false := by
      simp only [List.mem_cons, List.not_mem_nil, or_false] at mem
      rcases mem with rfl | rfl | rfl | rfl <;> decide
    rw [skipBlanks_of_not_blank blank] at head
    cases head
    simp only [List.mem_cons, List.not_mem_nil, or_false] at mem
    rcases mem with rfl | rfl | rfl | rfl <;> decide

namespace Reader

theorem clear_loose {g : Char → Bool}
    (none : [' ', '\n', '\t', '\r', ',', ']', ')', ';', ':', '}'].all fun c => !g c) :
    Clear g Loose Loose :=
  ⟨fun t last => apart_heads none t last.heads, fun t last => apart_heads none t last.heads⟩

theorem clear_break {g : Char → Bool}
    (none : [' ', '\n', '\t', '\r', ',', ']', ')', ';', ':', '}', '.', '['].all fun c => !g c) :
    Clear g Loose Break :=
  ⟨fun t last => apart_heads none t last.break.head, fun t last => apart_heads none t last.head⟩

variable {expr expr' : Reader Expr} {n m k : Nat}

/-- What follows the name of a method: a parenthesis, or a brace after blanks. -/
def callStart : Reader Unit :=
  (do let _ ← char '('; pure ()) <|> (do blanks; let _ ← char '{'; pure ())

theorem brace_stays : Stays Loose (do blanks; let _ ← char '{'; pure () : Reader Unit) := by
  refine ⟨fun {c t u a} left read => ?_⟩
  obtain ⟨a, v, first, second⟩ := done_of_bind read
  cases first
  obtain ⟨x, w, third, fourth⟩ := done_of_bind second
  cases fourth
  obtain ⟨d, text, rfl, rfl⟩ := Takes.char '{' _ _ _ third
  rw [List.dropWhile_append] at text
  split at text
  · refine absurd ?_ left.closure
    rw [skipBlanks, text]
    rfl
  · cases rest : c.dropWhile isBlank with
    | nil =>
      next full => simp [rest] at full
    | cons y e =>
      rw [rest, List.cons_append] at text
      cases text
      exact ⟨e, rfl⟩

theorem callStart_local : Local Loose Break k callStart := by
  have paren : Local Loose Break k (do let _ ← char '('; pure () : Reader Unit) :=
    (Local.char (clear_break (by decide))).bind fun _ => .pure ()
  have brace : Local Loose Break k (do let _ ← char '{'; pure () : Reader Unit) :=
    (Local.char (clear_break (by decide))).bind fun _ => .pure ()
  refine ⟨paren.toMirrors.orElse (brace.toMirrors.spaced ?_ fun t last => ?_),
    paren.stays.orElse brace_stays⟩
  · exact (Advances.char '{').bind fun _ => (Takes.pure ()).any
  · exact (char_misses last.closure).bind

theorem methodName_local : Local Loose Break k methodName := by
  refine (identifier_local (clear_break (by decide))).bind fun name => ?_
  have next : Local Loose Break k callStart := callStart_local
  have start : Local Loose Break k (ahead callStart) := ⟨next.toMirrors.ahead next.stays, .ahead _⟩
  exact start.bind fun _ => .pure name

theorem methodName_advances : Advances methodName :=
  (firstAndRun_advances _ _).bind fun name => (Takes.ahead callStart).bind_any fun _ =>
    (Takes.pure name).any

theorem call_done {s t r : List Char} {name : String} {args : List Expr}
    (known : isKnownCall name args.length) (first : methodName s = .done name t)
    (second : callArguments expr n t = .done args r) :
    call expr n s = .done (.call name args) r := by
  obtain ⟨method, named, accepts, -⟩ := isKnownCall_parts known
  simp only [call, first, named, second, accepts, if_true]

theorem misses_of_call {s : List Char} (h : Misses (call expr n) s) :
    Misses methodName s ∨ ∃ name t method, methodName s = .done name t ∧
      Method.named? name = some method ∧ Misses (callArguments expr n) t := by
  obtain ⟨e, h⟩ := h
  unfold call at h
  split at h
  · next e' first => exact .inl ⟨e', first⟩
  · cases h
  · next name t first =>
    split at h
    · cases h
    · next method named =>
      split at h
      · next e' second => exact .inr ⟨name, t, method, first, named, e', second⟩
      · cases h
      · split at h <;> cases h

theorem call_misses_after {s t : List Char} {name : String} {method : Method}
    (first : methodName s = .done name t) (named : Method.named? name = some method)
    (second : Misses (callArguments expr n) t) : Misses (call expr n) s := by
  obtain ⟨e, second⟩ := second
  exact ⟨e, by simp only [call, first, named, second]⟩

theorem call_mirrors (arguments : Mirrors Loose Break k (callArguments expr n)
      (callArguments expr' m)) : Mirrors Loose Break k (call expr n) (call expr' m) := by
  have name := methodName_local (k := k)
  refine ⟨⟨fun s g r read => ?_, fun {c r t t' g} left right short read => ?_⟩,
    fun {c t t'} left right short missed => ?_⟩
  · obtain ⟨_, args, t, -, -, first, second⟩ := done_of_call read
    obtain ⟨c₁, rfl, -⟩ := name.takes _ _ _ first
    obtain ⟨c₂, rfl, -⟩ := arguments.takes _ _ _ second
    exact ⟨c₁ ++ c₂, by rw [List.append_assoc], trivial⟩
  · obtain ⟨_, args, u, rfl, known, first, second⟩ := done_of_call read
    obtain ⟨w, rest, -⟩ := arguments.takes _ _ _ second
    obtain ⟨d, text, -⟩ := name.takes.split first rest
    rw [rest, ← List.append_assoc] at first second
    refine call_done known (name.done left right short first) (arguments.done left right ?_ second)
    rw [text, List.length_append] at short
    omega
  · rcases misses_of_call missed with first | ⟨_, u, method, first, named, second⟩
    · obtain ⟨e, first⟩ := name.misses left right short first
      exact ⟨e, by simp only [call, first]⟩
    · obtain ⟨r, rfl⟩ := name.stays.rest left first
      obtain ⟨d, text, -⟩ := name.takes.split (w := []) first rfl
      refine call_misses_after (name.done left right short first) named
        (arguments.misses left right ?_ second)
      rw [text, List.length_append, List.nil_append] at short
      omega

theorem call_advances (arguments : Takes (callArguments expr n) fun _ _ => True) :
    Advances (call expr n) := by
  intro s g r read
  obtain ⟨_, args, t, -, -, first, second⟩ := done_of_call read
  obtain ⟨c₁, rfl, full⟩ := methodName_advances _ _ _ first
  obtain ⟨c₂, rfl, -⟩ := arguments _ _ _ second
  refine ⟨c₁ ++ c₂, by rw [List.append_assoc], fun none => ?_⟩
  exact full (List.append_eq_nil_iff.mp none).1

section
variable (first : k ≤ n) (second : k ≤ m) (inner : Mirrors Closed Closed k expr expr')
  (some : Advances expr)
include first second inner some

theorem callArguments_mirrors :
    Mirrors Loose Break (k + 1) (callArguments expr n) (callArguments expr' m) := by
  have closed := closure_encloses first second inner
  have closure : Mirrors Loose Break (k + 1) (closure expr n) (closure expr' m) :=
    closed.mirrors closure_opens closure_opens (clear_break (by decide)).right
  have arguments := parenthesizedArguments_encloses first second inner some
  have parens : Mirrors Loose Break (k + 1) (parenthesizedArguments expr n)
      (parenthesizedArguments expr' m) :=
    arguments.mirrors parenthesizedArguments_opens parenthesizedArguments_opens
      (clear_break (by decide)).right
  have none (t : List Char) (last : Break t) : Misses (Reader.closure expr' m) (skipBlanks t) :=
    (closure_opens _).mpr last.closure
  have trailing := closure.spaced closed.advances none
  have alone : Mirrors Loose Break (k + 1)
      (do blanks; let c ← Reader.closure expr n; pure [Expr.closure c])
      (do blanks; let c ← Reader.closure expr' m; pure [Expr.closure c]) :=
    Mirrors.spaced (closure.bind_sure (closure.toCarries.bind fun c => .pure _) fun c => .pure _)
      (closed.advances.bind fun c => (Takes.pure _).any) fun t last => (none t last).bind
  refine .orElse (parens.bind_sure (parens.toCarries.bind fun args =>
    trailing.optional.toCarries.bind fun c => .pure _) fun args =>
    (Sure.optional _).bind fun c => .pure _) alone

theorem segment_mirrors (hyphens : Bool) :
    Mirrors Loose Break (k + 1) (segment expr n hyphens) (segment expr' m hyphens) := by
  have star {w : String} (letters : w.toList.all (· = '*')) (g : Segment) :
      Mirrors Loose Break (k + 1) (do word w; pure g) (do word w; pure g) :=
    ((Local.word (clear_break (by decide)) letters).bind fun _ => .pure g).toMirrors
  have quoted : Mirrors Loose Break (k + 1) stringLiteral stringLiteral :=
    stringLiteral_mirrors (clear_break (by decide))
  have bare : Local Loose Break (k + 1) (bareKey hyphens) :=
    firstAndRun_local (clear_break (by decide)) (by cases hyphens <;> exact clear_break (by decide))
  refine (star (by decide) _).orElse ((star (by decide) _).orElse ((call_mirrors
    (callArguments_mirrors first second inner some)).orElse (.orElse ?_
      (bare.bind fun k => .pure _).toMirrors)))
  exact quoted.bind_sure (quoted.toCarries.bind fun k => .pure _) fun k => .pure _

theorem segment_advances (hyphens : Bool) : Advances (segment expr n hyphens) := by
  have arguments := (callArguments_mirrors first second inner some).takes
  refine ((Advances.word (by decide)).bind fun _ => (Takes.pure _).any).orElse
    (((Advances.word (by decide)).bind fun _ => (Takes.pure _).any).orElse
      ((call_advances arguments).orElse (.orElse ?_ ?_)))
  · exact stringLiteral_advances.bind fun k => (Takes.pure _).any
  · exact (firstAndRun_advances _ _).bind fun k => (Takes.pure _).any

theorem subsequent_mirrors (hyphens : Bool) :
    Mirrors Loose Loose (k + 1) (subsequent expr n hyphens) (subsequent expr' m hyphens) := by
  have segment : Carries Loose Loose (k + 1) (segment expr n hyphens) (segment expr' m hyphens) :=
    (segment_mirrors first second inner some hyphens).toCarries.mono (fun _ last => last)
      (fun _ last => last.break) (Nat.le_refl _)
  have spread : Local Loose Loose (k + 1) (word "*.") :=
    .word (g := fun c => c = '*' || c = '.') (clear_loose (by decide)) (by decide)
  have joint : Local Loose Loose (k + 1) (word "?." <|> word ".") :=
    (Local.word (g := fun c => c = '?' || c = '.') (clear_loose (by decide)) (by decide)).orElse
      (.word (g := (· = '.')) (clear_loose (by decide)) (by decide))
  have square : Mirrors Loose Loose (k + 1) subscript subscript :=
    subscript_encloses.mirrors subscript_opens subscript_opens (clear_loose (by decide)).right
  refine .orElse (spread.before fun _ => ?_) (.orElse (joint.before fun _ => ?_) square)
  · exact .of_sure ((Mirrors.commit (segment.within _)).toCarries.bind fun g => .pure _)
      ((Sure.commit _).bind fun g => .pure _)
  · exact .commit (segment.within _)

/-- A further segment is read alike in front of another separator: a star before it was read, so it
is part of no separator. -/
theorem subsequent_carries (hyphens : Bool) :
    Carries Loose Break (k + 1) (subsequent expr n hyphens) (subsequent expr' m hyphens) := by
  have segment : Carries Loose Break (k + 1) (segment expr n hyphens) (segment expr' m hyphens) :=
    (segment_mirrors first second inner some hyphens).toCarries
  have square : Takes subscript fun c _ => ∃ d, c = '[' :: d :=
    (subscript_takes hyphens).mono fun c _ ⟨_, _, _, text, _⟩ => ⟨_, text⟩
  have other {w : String} {x y : Char} (head : w.toList.head? = .some x) (apart : y ≠ x)
      (s : List Char) : Misses (word w) (y :: s) :=
    word_misses_head head fun same => apart (Option.some.inj same)
  have joint : Carries Loose Break (k + 1) (word "?." <|> word ".") (word "?." <|> word ".") := by
    refine .orElse_apart (.word _) (.word _) ((Takes.word _).mono ?_)
    rintro c u rfl s
    exact other (x := '?') rfl (by decide) _
  refine .orElse_apart ((Carries.word _).bind fun _ =>
    (Mirrors.commit (segment.within _)).toCarries.bind fun g => .pure _)
    (.orElse_apart (joint.bind fun _ => (Mirrors.commit (segment.within _)).toCarries)
      subscript_encloses.carries ?_) ?_
  · refine square.mono ?_
    rintro c g ⟨d, rfl⟩ s
    exact (Misses.orElse (other (x := '?') rfl (by decide) _)
      (other (x := '.') rfl (by decide) _)).bind
  · have takes : Takes (word "?." <|> word ".") fun c _ => ∃ x d, c = x :: d ∧ x ≠ '*' := by
      refine .orElse ((Takes.word _).mono ?_) ((Takes.word _).mono ?_)
      · rintro c u rfl
        exact ⟨'?', ['.'], rfl, by decide⟩
      · rintro c u rfl
        exact ⟨'.', [], rfl, by decide⟩
    refine .orElse ((takes.bind fun _ => (segment.takes.within _).commit).mono ?_) (square.mono ?_)
    · rintro c g ⟨c₁, c₂, u, rfl, ⟨x, d, rfl, apart⟩, -⟩ s
      exact (other (x := '*') rfl apart _).bind
    · rintro c g ⟨d, rfl⟩ s
      exact (other (x := '*') rfl (by decide) _).bind

theorem subsequent_advances (hyphens : Bool) : Advances (subsequent expr n hyphens) := by
  have takes := (segment_mirrors first second inner some hyphens).takes
  have square : Advances subscript := (subscript_encloses (k := k)).advances
  refine .orElse ?_ (.orElse ?_ square)
  · exact (Advances.word (by decide)).bind fun _ =>
      (takes.within _).commit.bind_any fun g => (Takes.pure _).any
  · exact ((Advances.word (by decide)).orElse (.word (by decide))).bind fun _ =>
      (takes.within _).commit

end

end Reader
end DocPath
