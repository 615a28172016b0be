import DocPath.Document.Query
import DocPath.Proofs.Path.Local.Expressions

/-!
The characters at the edges of what segments are read from. None is white space and the last one is
no separator, so trimming takes off nothing but the blanks around a path.
-/

namespace DocPath

open Reader

def spaceCodes : List Nat :=
  [0x9, 0xa, 0xb, 0xc, 0xd, 0x20, 0x85, 0xa0, 0x1680, 0x2000, 0x2001, 0x2002, 0x2003, 0x2004,
    0x2005, 0x2006, 0x2007, 0x2008, 0x2009, 0x200a, 0x2028, 0x2029, 0x202f, 0x205f, 0x3000]

theorem mem_spaceCodes {c : Char} (h : isSpace c) : c.toNat ∈ spaceCodes := by
  simp only [isSpace, Bool.or_eq_true, Bool.and_eq_true, decide_eq_true_eq] at h
  simp only [spaceCodes, List.mem_cons, List.not_mem_nil, or_false]
  omega

theorem ranges_apart :
    ((alphabeticSet.ranges.toList ++ numericSet.ranges.toList).all fun r =>
      spaceCodes.all fun n => n < r.1 || r.2 < n) = true := by
  decide +kernel

theorem isSpace_of_contains {s : CodeSet} {c : Char} (h : s.contains c)
    (part : ∀ r ∈ s.ranges.toList,
      r ∈ alphabeticSet.ranges.toList ++ numericSet.ranges.toList) : isSpace c = false := by
  cases space : isSpace c with
  | false => rfl
  | true =>
    rw [CodeSet.contains, ← Array.any_toList, List.any_eq_true] at h
    obtain ⟨r, mem, inside⟩ := h
    have apart := List.all_eq_true.mp (List.all_eq_true.mp ranges_apart r (part r mem)) _
      (mem_spaceCodes space)
    simp only [Bool.and_eq_true, Bool.or_eq_true, decide_eq_true_eq] at inside apart
    omega

theorem isSpace_of_isIdentChar {c : Char} (h : isIdentChar c) : isSpace c = false := by
  have ascii (low : c.toNat < 128 ∧ 32 < c.toNat) : isSpace c = false := by
    simp only [isSpace, Bool.or_eq_false_iff, Bool.and_eq_false_iff, decide_eq_false_iff_not]
    omega
  simp only [isIdentChar, isAlphanumeric, isAlphabetic, isNumeric, isAsciiLetter, isDigit,
    Bool.or_eq_true, Bool.and_eq_true, decide_eq_true_eq] at h
  rcases h with (((sign | ⟨-, letter⟩) | digit | ⟨-, number⟩) | rfl) | rfl
  · exact ascii (by omega)
  · exact isSpace_of_contains letter fun r mem => List.mem_append_left _ mem
  · exact ascii (by omega)
  · exact isSpace_of_contains number fun r mem => List.mem_append_right _ mem
  · rfl
  · rfl

theorem isSpace_of_isBlank {c : Char} (h : isBlank c) : isSpace c :=
  isBlank_cases (p := fun c => isSpace c = true) h (by decide) (by decide) (by decide) (by decide)

theorem isBlank_of_not_isSpace {c : Char} (ink : isSpace c = false) : isBlank c = false := by
  cases blank : isBlank c with
  | false => rfl
  | true =>
    rw [isSpace_of_isBlank blank] at ink
    cases ink

/-- A text that starts with something other than white space. -/
def Begins (c : List Char) : Prop := ∃ x d, c = x :: d ∧ isSpace x = false

/-- A text that ends with something other than white space or a separator. -/
def Finishes (c : List Char) : Prop := ∃ d x, c = d ++ [x] ∧ isSpace x = false ∧ x ≠ '.'

theorem Begins.append {c : List Char} (h : Begins c) (d : List Char) : Begins (c ++ d) := by
  obtain ⟨x, e, rfl, ink⟩ := h
  exact ⟨x, e ++ d, rfl, ink⟩

theorem Finishes.append {d : List Char} (h : Finishes d) (c : List Char) : Finishes (c ++ d) := by
  obtain ⟨e, x, rfl, ink, other⟩ := h
  exact ⟨c ++ e, x, by rw [List.append_assoc], ink, other⟩

theorem Finishes.ne_nil {c : List Char} (h : Finishes c) : c ≠ [] := by
  obtain ⟨d, x, rfl, -⟩ := h
  simp

theorem Finishes.getLast? {c : List Char} (h : Finishes c) : c.getLast? ≠ some '.' := by
  obtain ⟨d, x, rfl, -, other⟩ := h
  simpa using other

theorem Finishes.begins {c : List Char} (last : Finishes c) : Begins c.reverse := by
  obtain ⟨d, x, rfl, ink, -⟩ := last
  exact ⟨x, d.reverse, by simp, ink⟩

theorem Finishes.not_blank {c : List Char} (h : Finishes c) : skipBlanks c ≠ [] := by
  obtain ⟨d, x, rfl, ink, -⟩ := h
  intro none
  have blank := List.dropWhile_eq_nil_iff.mp none x (by simp)
  rw [isBlank_of_not_isSpace ink] at blank
  cases blank

theorem edges_of_keys {x : Char} {xs : List Char} {hyphens : Bool} (first : isKeyStart x)
    (run : xs.all (isKeyChar hyphens)) : Begins (x :: xs) ∧ Finishes (x :: xs) := by
  have start : isSpace x = false ∧ x ≠ '.' := by
    simp only [isKeyStart, Bool.or_eq_true, decide_eq_true_eq] at first
    rcases first with ident | rfl
    · exact ⟨isSpace_of_isIdentChar ident, fun same => absurd (same ▸ ident) (by decide)⟩
    · exact ⟨rfl, by decide⟩
  refine ⟨⟨x, xs, rfl, start.1⟩, ?_⟩
  rcases List.eq_nil_or_concat xs with rfl | ⟨ys, y, rfl⟩
  · exact ⟨[], x, rfl, start⟩
  · refine ⟨x :: ys, y, by simp, ?_⟩
    have last := List.all_eq_true.mp run y (by simp)
    simp only [isKeyChar, Bool.or_eq_true, Bool.and_eq_true, decide_eq_true_eq] at last
    rcases last with ident | ⟨-, rfl⟩
    · exact ⟨isSpace_of_isIdentChar ident, fun same => absurd (same ▸ ident) (by decide)⟩
    · exact ⟨rfl, by decide⟩

theorem dropWhile_blanks {b c : List Char} (blank : b.all isBlank) (h : Begins c) :
    (b ++ c).dropWhile isSpace = c := by
  have space : ∀ x ∈ b, isSpace x = true := fun x mem =>
    isSpace_of_isBlank (List.all_eq_true.mp blank x mem)
  obtain ⟨x, d, rfl, ink⟩ := h
  rw [List.dropWhile_append_of_pos space, List.dropWhile_cons, ink]
  rfl

theorem trimChars_blanks {b c b' : List Char} (front : b.all isBlank) (back : b'.all isBlank)
    (first : Begins c) (last : Finishes c) : trimChars (b ++ (c ++ b')) = c := by
  unfold trimChars
  rw [dropWhile_blanks front (first.append b'), List.reverse_append,
    dropWhile_blanks (by simpa using back) last.begins, List.reverse_reverse]

namespace Reader

variable {expr : Reader Expr} {n : Nat}

theorem stringLiteral_edges : Takes stringLiteral fun c _ => Begins c ∧ Finishes c := by
  have one (q : Quote) : Takes (quotedWith q) fun c _ => Begins c ∧ Finishes c := by
    intro s k r read
    obtain ⟨c, text, d, rfl⟩ :=
      (quotedUpTo_encloses q (Nat.zero_le s.length) (Nat.zero_le s.length)).ends _ _ _ read
    obtain ⟨x, t, first, -⟩ := done_of_bind read
    obtain ⟨e, rfl, rfl, -⟩ := Takes.char q.char _ _ _ first
    refine ⟨_, text, ?_, d, q.char, rfl, by cases q <;> decide, by cases q <;> decide⟩
    have ink : isSpace q.char = false := by cases q <;> decide
    cases d with
    | nil => exact ⟨q.char, [], rfl, ink⟩
    | cons y d =>
      cases text
      exact ⟨q.char, _, rfl, ink⟩
  exact ((one .single).orElse (one .double)).within _

theorem bareKey_edges (hyphens : Bool) :
    Takes (bareKey hyphens) fun c _ => Begins c ∧ Finishes c := by
  refine (firstAndRun_takes _ _).mono ?_
  rintro c name ⟨-, x, xs, rfl, first, run⟩
  exact edges_of_keys first run

theorem subscript_edges : Takes subscript fun c _ => Begins c ∧ Finishes c := by
  refine (subscript_takes true).mono ?_
  rintro c g ⟨i, c', -, rfl, -⟩
  exact ⟨⟨'[', _, rfl, rfl⟩, '[' :: c', ']', rfl, rfl, by decide⟩

section
variable (some : Advances expr)
include some

theorem callArguments_finishes : Takes (callArguments expr n) fun c _ => Finishes c := by
  have none : Mirrors Closed Closed 0 expr expr := .none some.any
  have closed : Takes (closure expr n) fun c _ => Finishes c :=
    (closure_encloses (Nat.zero_le n) (Nat.zero_le n) none).ends.mono fun c _ taken => by
      obtain ⟨d, rfl⟩ := taken
      exact ⟨d, '}', rfl, rfl, by decide⟩
  have arguments : Takes (parenthesizedArguments expr n) fun c _ => Finishes c :=
    (parenthesizedArguments_encloses (Nat.zero_le n) (Nat.zero_le n) none some).ends.mono
      fun c _ taken => by
        obtain ⟨d, rfl⟩ := taken
        exact ⟨d, ')', rfl, rfl, by decide⟩
  have behind : Takes (do blanks; closure expr n) fun c _ => Finishes c := by
    refine (Takes.blanks.bind fun _ => closed).mono ?_
    rintro c k ⟨b, d, u, rfl, -, last⟩
    exact last.append b
  refine .orElse ((arguments.bind fun args => behind.optional.bind fun c => .pure _).mono ?_)
    ((Takes.blanks.bind fun _ => closed.bind fun c => .pure _).mono ?_)
  · rintro c args ⟨c₁, c₂, as, rfl, last, c₃, c₄, o, rfl, trailing, rfl, -⟩
    rw [List.append_nil]
    rcases trailing with ⟨k, -, last'⟩ | ⟨-, rfl⟩
    · exact last'.append c₁
    · rw [List.append_nil]
      exact last
  · rintro c args ⟨b, c₁, u, rfl, -, c₂, c₃, k, rfl, last, rfl, -⟩
    rw [List.append_nil]
    exact last.append b

theorem call_edges : Takes (call expr n) fun c _ => Begins c ∧ Finishes c := by
  intro s g r read
  obtain ⟨name, args, t, -, -, first, second⟩ := done_of_call read
  obtain ⟨c₁, rfl, rfl, word⟩ := methodName_takes _ _ _ first
  obtain ⟨c₂, rfl, last⟩ := callArguments_finishes some _ _ _ second
  obtain ⟨x, xs, chars, start, -⟩ := isIdentifier_parts word
  refine ⟨name.toList ++ c₂, by rw [List.append_assoc], ?_, last.append _⟩
  rw [chars]
  exact ⟨x, xs ++ c₂, rfl, isSpace_of_isIdentChar (isIdentChar_of_isIdentStart start)⟩

theorem segment_edges (hyphens : Bool) :
    Takes (segment expr n hyphens) fun c _ => Begins c ∧ Finishes c := by
  have star {w : String} (stars : Begins w.toList ∧ Finishes w.toList) (g : Segment) :
      Takes (do word w; pure g) fun c _ => Begins c ∧ Finishes c := by
    refine ((Takes.word w).bind fun _ => .pure g).mono ?_
    rintro c h ⟨c₁, c₂, u, rfl, rfl, rfl, -⟩
    rw [List.append_nil]
    exact stars
  have field {p : Reader String} (h : Takes p fun c _ => Begins c ∧ Finishes c) :
      Takes (do let k ← p; pure (Segment.field k)) fun c _ => Begins c ∧ Finishes c := by
    refine (h.bind fun k => .pure _).mono ?_
    rintro c g ⟨c₁, c₂, k, rfl, edges, rfl, -⟩
    rw [List.append_nil]
    exact edges
  refine .orElse (star ?_ _) (.orElse (star ?_ _) (.orElse (call_edges some)
    (.orElse (field stringLiteral_edges) (field (bareKey_edges hyphens)))))
  · exact ⟨⟨'*', ['*'], rfl, rfl⟩, ['*'], '*', rfl, rfl, by decide⟩
  · exact ⟨⟨'*', [], rfl, rfl⟩, [], '*', rfl, rfl, by decide⟩

theorem subsequent_finishes (hyphens : Bool) :
    Takes (subsequent expr n hyphens) fun c _ => Finishes c := by
  have part (c : Context) : Takes (commit (within c (segment expr n hyphens))) fun c _ =>
      Finishes c :=
    (((segment_edges some hyphens).mono fun _ _ edges => edges.2).within c).commit
  refine .orElse ?_ (.orElse ?_ (subscript_edges.mono fun _ _ edges => edges.2))
  · refine ((Takes.word "*.").bind fun _ => (part _).bind fun g => .pure _).mono ?_
    rintro c g ⟨c₁, c₂, u, rfl, -, c₃, c₄, h, rfl, last, rfl, -⟩
    rw [List.append_nil]
    exact last.append c₁
  · refine (((Takes.word "?.").any.orElse (Takes.word ".").any).bind fun _ => part _).mono ?_
    rintro c g ⟨c₁, c₂, u, rfl, -, last⟩
    exact last.append c₁

theorem segments_edges : Takes (segments expr n) fun c _ => Begins c ∧ Finishes c := by
  have links : Takes (many (subsequent expr n true) n) fun c _ => c = [] ∨ Finishes c := by
    refine .many (subsequent_finishes some true) (.inl rfl) ?_ n
    rintro c g d gs last (rfl | last')
    · rw [List.append_nil]
      exact .inr last
    · exact .inr (last'.append c)
  refine ((subscript_edges.orElse (segment_edges some true)).bind fun g =>
    links.bind fun gs => .pure (g :: gs)).mono ?_
  rintro c gs ⟨c₁, c₂, g, rfl, ⟨front, last⟩, c₃, c₄, hs, rfl, rest, rfl, -⟩
  rw [List.append_nil]
  refine ⟨front.append c₃, ?_⟩
  rcases rest with rfl | last'
  · rw [List.append_nil]
    exact last
  · exact last'.append c₁

end

end Reader
end DocPath
