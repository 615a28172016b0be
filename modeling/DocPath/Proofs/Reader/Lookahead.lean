import DocPath.Proofs.Reader.Carries
import DocPath.Proofs.Reader.Literals

/-!
How far the readers of words look ahead: a name or a number ends at a character that is no part of
it, and a quoted string at its quote.
-/

namespace DocPath.Reader

variable {L R : List Char → Prop} {k : Nat}

theorem firstAndRun_local {start continues : Char → Bool} (first : Clear start L R)
    (run : Clear continues L R) : Local L R k (firstAndRun start continues) :=
  (Local.satisfy first).bind fun _ => (Local.takeWhile run).bind fun _ => .pure _

theorem firstAndRun_advances (start continues : Char → Bool) :
    Advances (firstAndRun start continues) :=
  (Advances.satisfy _).bind fun _ => (Takes.takeWhile _).bind_any fun _ => (Takes.pure _).any

section
variable (clear : Clear isIdentChar L R)
include clear

theorem identifier_local : Local L R k identifier :=
  firstAndRun_local (clear.mono fun _ => isIdentChar_of_isIdentStart) clear

theorem keyword_local {w : String} (letters : w.toList.all isIdentChar) :
    Local L R k (keyword w) :=
  (Local.word clear letters).bind fun _ => .notAhead (.satisfy clear)

theorem binder_local : Local L R k binder := (identifier_local clear).check _

theorem boolean_local : Local L R k boolean :=
  ((keyword_local clear (by decide)).bind fun _ => .pure true).orElse
    ((keyword_local clear (by decide)).bind fun _ => .pure false)

end

theorem keyword_advances {w : String} (some : w.toList ≠ []) : Advances (keyword w) :=
  (Advances.word some).bind fun _ => (Takes.notAhead _).any

def isNumberChar (c : Char) : Bool := isIdentChar c || c = '.' || c = '+' || c = '-'

section
variable (clear : Clear isNumberChar L R)
include clear

theorem digits1_local : Local L R k digits1 :=
  .takeWhile1 (clear.mono fun c digit => by simp [isNumberChar, isIdentChar_of_isDigit digit])

theorem Clear.chars (cs : List Char) (part : cs.all isNumberChar) :
    Clear (fun c => cs.contains c) L R :=
  clear.mono fun c mem => List.all_eq_true.mp part c (List.contains_iff_mem.mp mem)

theorem fraction_local : Local L R k fraction := by
  have point : Clear (· = '.') L R := (clear.chars ['.'] (by decide)).mono (by simp)
  exact (Local.char point).bind fun _ => (digits1_local clear).bind fun _ => .pure _

theorem exponent_local : Local L R k exponent := by
  have letter : Clear (fun c => c = 'e' || c = 'E') L R :=
    (clear.chars ['e', 'E'] (by decide)).mono (by simp)
  have sign : Clear (fun c => c = '-' || c = '+') L R :=
    (clear.chars ['-', '+'] (by decide)).mono (by simp)
  exact (Local.satisfy letter).bind fun _ => (Local.satisfy sign).optional.bind fun _ =>
    (digits1_local clear).bind fun _ => .pure _

theorem number_local : Local L R k number :=
  .check _ ((digits1_local clear).bind fun _ => (fraction_local clear).optional.bind fun _ =>
    (exponent_local clear).optional.bind fun _ => .pure _)

theorem index_local : Local L R k index := by
  have sign : Clear (· = '-') L R := (clear.chars ['-'] (by decide)).mono (by simp)
  exact .check _ ((Local.char sign).optional.bind fun _ =>
    (digits1_local clear).bind fun _ => .pure _)

end

def quotedUpTo (q : Quote) (n : Nat) : Reader String := do
  let _ ← char q.char
  let cs ← many (quotedChar q) n
  let _ ← commitWith .openQuote (char q.char)
  pure (String.ofList cs)

theorem quotedUpTo_advances (q : Quote) (n : Nat) : Advances (quotedUpTo q n) := by
  refine (Advances.char q.char).bind fun _ => ?_
  refine ((quotedChar_takes q).many_any n).bind_any fun cs => ?_
  exact ((Takes.char q.char).commitWith .openQuote).bind_any fun _ => (Takes.pure _).any

theorem stringLiteral_advances : Advances stringLiteral := by
  have quoted (q : Quote) : Advances (quotedWith q) := fun s => quotedUpTo_advances q s.length s
  exact ((quoted .single).orElse (quoted .double)).within _

theorem fourHex_misses {c : List Char} (short : c.length < 4) {x : Char}
    (other : isHexDigit x = false) (u : List Char) : Misses fourHex (c ++ x :: u) := by
  unfold Misses fourHex
  split
  · next y₀ y₁ y₂ y₃ rest text =>
    have found : x ∈ [y₀, y₁, y₂, y₃] := by
      have front : c ++ [x] <+: [y₀, y₁, y₂, y₃] := by
        have whole : c ++ [x] <+: y₀ :: y₁ :: y₂ :: y₃ :: rest :=
          ⟨u, by rw [← text, List.append_assoc, List.singleton_append]⟩
        exact List.prefix_of_prefix_length_le whole ⟨rest, rfl⟩ (by simp; omega)
      exact front.subset (by simp)
    have some : (isHexDigit y₀ && isHexDigit y₁ && isHexDigit y₂ && isHexDigit y₃) = false := by
      simp only [List.mem_cons, List.not_mem_nil, or_false] at found
      rcases found with rfl | rfl | rfl | rfl <;> simp [other]
    rw [some]
    exact ⟨_, rfl⟩
  · exact ⟨_, rfl⟩

theorem fourHex_blind : Takes fourHex fun c ds => ∀ s, fourHex (c ++ s) = .done ds s := by
  intro s ds r read
  unfold fourHex at read
  split at read
  · next a b c d rest =>
    split at read
    · next digits =>
      cases read
      refine ⟨[a, b, c, d], rfl, fun s => ?_⟩
      exact if_pos digits
    · cases read
  · cases read

theorem fourHex_local {x : Char} (other : isHexDigit x = false) :
    Local (Starts x) (Starts x) k fourHex := by
  refine ⟨⟨.of_takes fourHex_blind, ?_⟩, .of_takes (g := isHexDigit) ?_ fun t last => ?_⟩
  · rintro c t t' ⟨u, rfl⟩ ⟨u', rfl⟩ - missed
    by_cases short : c.length < 4
    · exact fourHex_misses short other u'
    · match c, short with
      | a :: b :: c :: d :: s, _ =>
        obtain ⟨e, missed⟩ := missed
        unfold Misses fourHex at *
        simp only [List.cons_append] at missed ⊢
        split at missed
        · cases missed
        · next digits => exact ⟨_, if_neg digits⟩
      | [], short | [_], short | [_, _], short | [_, _, _], short => simp at short
  · refine fourHex_takes.mono fun c ds taken => ?_
    rw [taken.1]
    exact taken.2
  · exact last.ends other

theorem simpleEscape_mirrors (q : Quote) :
    Mirrors (Starts q.char) (Starts q.char) k (simpleEscape q) (simpleEscape q) := by
  refine ⟨.of_takes ?_, ?_⟩
  · intro s a r read
    unfold simpleEscape at read
    split at read
    · next x rest =>
      split at read
      · next e found =>
        cases read
        refine ⟨[x], rfl, fun s => ?_⟩
        simp only [simpleEscape, List.singleton_append, found]
      · cases read
    · cases read
  · rintro c t t' ⟨u, rfl⟩ ⟨u', rfl⟩ - ⟨e, missed⟩
    cases c with
    | nil =>
      -- The closing quote itself is a character that can be escaped.
      cases q <;> cases missed
    | cons x c =>
      simp only [simpleEscape, List.cons_append] at missed
      split at missed
      · cases missed
      · next none => exact ⟨_, by simp only [simpleEscape, List.cons_append, none]; rfl⟩

theorem quotedChar_mirrors (q : Quote) :
    Mirrors (Starts q.char) (Starts q.char) k (quotedChar q) (quotedChar q) := by
  have slash : Local (Starts q.char) (Starts q.char) k (char '\\') :=
    .char (clear_starts (by cases q <;> decide))
  have letter : Local (Starts q.char) (Starts q.char) k (char 'u') :=
    .char (clear_starts (by cases q <;> decide))
  have plain : Local (Starts q.char) (Starts q.char) k (plainChar q) :=
    .satisfy (clear_starts (by simp))
  have unicode : Local (Starts q.char) (Starts q.char) k unicodeSequence :=
    .within _ (letter.bind fun _ => .check _ (fourHex_local (by cases q <;> decide)))
  refine plain.toMirrors.orElse (.within _ (slash.toMirrors.bind slash.stays fun _ => ?_))
  exact (simpleEscape_mirrors q).orElse unicode.toMirrors

theorem quotedUpTo_encloses (q : Quote) {n m : Nat} (first : k ≤ n) (second : k ≤ m) :
    Encloses q.char k (quotedUpTo q n) (quotedUpTo q m) := by
  refine .bind (.satisfy _) fun _ => ?_
  refine .bind (.many (quotedChar_mirrors q) ?_ first second) fun cs => ?_
  · exact (Advances.satisfy _).orElse
      (((Advances.char '\\').bind fun _ => ((simpleEscape_takes q).any.orElse
        unicodeSequence_takes.any)).within _)
  · refine .last (a := String.ofList cs) (.mono (.bind (.commitWith _ (.char q.char))
      fun _ => .pure _) ?_) fun u => ?_
    · rintro c a ⟨c₁, c₂, y, rfl, ⟨rfl, -⟩, rfl, -⟩
      rfl
    · rw [bind_apply]
      simp only [commitWith, char_cons]
      rfl

theorem quotedWith_mirrors (q : Quote) (clear : Clear (· = q.char) L R) :
    Mirrors L R k (quotedWith q) (quotedWith q) := by
  have part (s s' : List Char) {j : Nat} (first : j ≤ s.length) (second : j ≤ s'.length) :
      Mirrors L R (j + 1) (quotedUpTo q s.length) (quotedUpTo q s'.length) :=
    (Mirrors.char clear.right).bind_sure (quotedUpTo_encloses q first second).carries fun _ =>
      (Sure.many _ _).bind fun _ => (Sure.commitWith _ _).bind fun _ => .pure _
  refine ⟨⟨fun s => (quotedUpTo_advances q s.length).any s,
    fun {c r t t' a} left right _ read => ?_⟩,
    fun {c t t'} left right _ missed => ?_⟩
  · exact (part (c ++ t) (c ++ t') (j := c.length) (by simp) (by simp)).done left right
      (Nat.lt_succ_self _) read
  · exact (part (c ++ t) (c ++ t') (j := c.length) (by simp) (by simp)).misses left right
      (Nat.lt_succ_self _) missed

theorem stringLiteral_mirrors (clear : Clear (fun c => c = '\'' || c = '"') L R) :
    Mirrors L R k stringLiteral stringLiteral := by
  refine .within _ (.orElse (quotedWith_mirrors .single ?_) (quotedWith_mirrors .double ?_))
  · exact clear.mono fun c same => Bool.or_eq_true_iff.mpr (.inl same)
  · exact clear.mono fun c same => Bool.or_eq_true_iff.mpr (.inr same)

end DocPath.Reader
