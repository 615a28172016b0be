import DocPath.Proofs.Path.Continued

/-!
A path text behind a root path. The segments of the root path are read as before, since they end in
front of a separator as they end in front of blanks, and behind the separator the segments of the
other path are. The text `$` stands for the whole when it is alone and for a key beside segments.
-/

namespace DocPath

open Reader

/-- The text of a path as it stands behind another one. -/
def attached (d : List Char) : List Char := if d.head? = some '[' then d else '.' :: d

namespace Reader

variable {ps : List Segment} {d : List Char}

theorem attached_cons (d : List Char) : ∃ x e, attached d = x :: e ∧ (x = '.' ∨ x = '[') := by
  unfold attached
  split
  · next bracket =>
    obtain ⟨e, rfl⟩ := List.head?_eq_some_iff.mp bracket
    exact ⟨'[', e, rfl, .inr rfl⟩
  · exact ⟨'.', d, rfl, .inl rfl⟩

theorem attached_break (d : List Char) : Break (attached d) := by
  obtain ⟨x, e, same, joint⟩ := attached_cons d
  rw [same]
  exact break_joint joint e

theorem attached_length (d : List Char) : d.length ≤ (attached d).length := by
  unfold attached
  split <;> simp

theorem subsequent_attached {expr : Reader Expr} {n : Nat} {g : Segment} {t : List Char}
    (read : (subscript <|> segment expr n true) d = .done g t) :
    subsequent expr n true (attached d) = .done g t := by
  have other {w : String} {x y : Char} (head : w.toList.head? = some x) (apart : y ≠ x)
      (s : List Char) : Misses (word w) (y :: s) :=
    word_misses_head head fun same => apart (Option.some.inj same)
  unfold attached
  by_cases bracket : d.head? = some '['
  · rw [if_pos bracket]
    have square : subscript d = .done g t := by
      rcases done_of_orElse read with first | ⟨missed, -⟩
      · exact first
      · exact absurd bracket ((subscript_opens d).mp missed)
    obtain ⟨e, rfl⟩ := List.head?_eq_some_iff.mp bracket
    unfold subsequent
    rw [orElse_next (other (x := '*') rfl (by decide) e).bind,
      orElse_next (Misses.orElse (other (x := '?') rfl (by decide) e)
        (other (x := '.') rfl (by decide) e)).bind]
    exact square
  · rw [if_neg bracket]
    rw [orElse_next ((subscript_opens d).mpr bracket)] at read
    exact subsequent_point read

theorem Linked.links (h : Linked d ps) : links (attached d) = .done ps [] := by
  obtain ⟨b, n, left, first, read⟩ := h.read
  have longer := attached_length d
  have second : d.length ≤ (attached d).length + 1 := by omega
  have inner : Mirrors Closed Closed d.length (expression n)
      (expression ((attached d).length + 1)) := expression_mirrors first second
  have some := expression_advances n
  obtain ⟨g, u, start, rest⟩ := done_of_bind read
  obtain ⟨gs, v, behind, given⟩ := done_of_bind rest
  cases given
  have again : Carries Loose Loose d.length (many (subsequent (expression n) n true) n)
      (many (subsequent (expression ((attached d).length + 1)) ((attached d).length + 1) true)
        (attached d).length) :=
    .many ((subsequent_mirrors first second inner some true).mono (fun _ last => last)
      (fun _ last => last) (Nat.le_succ _)) (subsequent_advances first second inner some true)
      first longer
  obtain ⟨w, rfl, -⟩ := again.takes _ _ _ behind
  have full : Advances (subscript <|> segment (expression n) n true) :=
    (subscript_encloses (k := 0)).advances.orElse (segment_advances first second inner some true)
  have start' := (start_carries first second inner some).done left Loose.nil.break
    (Nat.lt_succ_self _) start
  have behind' := again.done (r := []) left Loose.nil (full.shorter start) behind
  simp only [List.append_nil] at start' behind'
  exact many_cons (subsequent_attached start') behind'

end Reader

theorem Begins.of_append {c d : List Char} (h : Begins (c ++ d)) (full : c ≠ []) : Begins c := by
  obtain ⟨x, e, same, ink⟩ := h
  cases c with
  | nil => exact absurd rfl full
  | cons y c =>
    cases same
    exact ⟨x, c, rfl, ink⟩

theorem begins_dropWhile {cs : List Char} (full : cs.dropWhile isSpace ≠ []) :
    Begins (cs.dropWhile isSpace) := by
  induction cs with
  | nil => exact absurd rfl full
  | cons c cs ih =>
    rw [List.dropWhile_cons] at full ⊢
    split
    · next space =>
      rw [if_pos space] at full
      exact ih full
    · next ink => exact ⟨c, cs, rfl, by simpa using ink⟩

theorem trimChars_of_begins {c : List Char} (first : Begins c) (last : Begins c.reverse) :
    trimChars c = c := by
  have front := dropWhile_blanks (b := []) rfl first
  have back := dropWhile_blanks (b := []) rfl last
  rw [List.nil_append] at front back
  rw [trimChars, front, back, List.reverse_reverse]

theorem trimChars_begins {cs : List Char} (full : trimChars cs ≠ []) :
    Begins (trimChars cs) ∧ Begins (trimChars cs).reverse := by
  have back : (cs.dropWhile isSpace).reverse.dropWhile isSpace ≠ [] := by
    simpa [trimChars] using full
  constructor
  · obtain ⟨t, split⟩ := List.dropWhile_suffix (l := (cs.dropWhile isSpace).reverse) isSpace
    have front : cs.dropWhile isSpace = trimChars cs ++ t.reverse := by
      rw [trimChars, ← List.reverse_append, split, List.reverse_reverse]
    refine Begins.of_append (d := t.reverse) ?_ full
    rw [← front]
    refine begins_dropWhile fun none => back ?_
    rw [none]
    rfl
  · rw [trimChars, List.reverse_reverse]
    exact begins_dropWhile back

theorem trimChars_trimChars (cs : List Char) : trimChars (trimChars cs) = trimChars cs := by
  by_cases full : trimChars cs = []
  · rw [full]
    rfl
  · obtain ⟨first, last⟩ := trimChars_begins full
    exact trimChars_of_begins first last

/-- What stands between two trimmed texts that are joined. -/
def joint (c d : List Char) : List Char :=
  if c.getLast? = some '.' || d.head? = some '[' then [] else ['.']

theorem joint_append (c : List Char) {d : List Char} (full : d ≠ []) (e : List Char) :
    joint c (d ++ e) = joint c d := by
  cases d with
  | nil => exact absurd rfl full
  | cons x d => rfl

theorem append_joint (e : List Char) {c : List Char} (full : c ≠ []) (d : List Char) :
    joint (e ++ c) d = joint c d := by
  rw [joint, joint, List.getLast?_append, Option.or_of_isSome (by simpa using full)]

theorem joint_attached {c : List Char} (last : Finishes c) (d : List Char) :
    joint c d ++ d = attached d := by
  have point : (c.getLast? = some '.') = False := eq_false last.getLast?
  simp only [joint, attached, point, decide_false, Bool.false_or, decide_eq_true_eq]
  split <;> rfl

section
variable {p q : List Char}

theorem joinChars_full (full : trimChars p ≠ []) (full' : trimChars q ≠ []) :
    joinChars p q = trimChars p ++ (joint (trimChars p) (trimChars q) ++ trimChars q) := by
  have some : (trimChars p).isEmpty = false := by simpa using full
  have some' : (trimChars q).isEmpty = false := by simpa using full'
  simp only [joinChars, joint, some, some', Bool.false_eq_true, if_false]
  split <;> rfl

theorem joinChars_begins (full : trimChars p ≠ []) (full' : trimChars q ≠ []) :
    Begins (joinChars p q) ∧ Begins (joinChars p q).reverse := by
  rw [joinChars_full full full']
  refine ⟨(trimChars_begins full).1.append _, ?_⟩
  rw [List.reverse_append, List.reverse_append, List.append_assoc]
  exact (trimChars_begins full').2.append _

theorem trimChars_joinChars (full : trimChars p ≠ []) (full' : trimChars q ≠ []) :
    trimChars (joinChars p q) = joinChars p q := by
  obtain ⟨first, last⟩ := joinChars_begins full full'
  exact trimChars_of_begins first last

theorem joinChars_assoc (r : List Char) (full : trimChars p ≠ []) (full' : trimChars q ≠ []) :
    joinChars r (joinChars p q) = joinChars (joinChars r p) q := by
  have joined := trimChars_joinChars full full'
  have some : trimChars (joinChars p q) ≠ [] := by
    rw [joined, joinChars_full full full']
    simp [full]
  by_cases blank : trimChars r = []
  · have alone (s : List Char) : joinChars r s = trimChars s := by simp [joinChars, blank]
    rw [alone, alone, joined, joinChars, joinChars, trimChars_trimChars]
  · have front := trimChars_joinChars blank full
    have some' : trimChars (joinChars r p) ≠ [] := by
      rw [front, joinChars_full blank full]
      simp [blank]
    have behind : joint (joinChars r p) (trimChars q) = joint (trimChars p) (trimChars q) := by
      rw [joinChars_full blank full, ← List.append_assoc, append_joint _ full]
    rw [joinChars_full blank some, joinChars_full some' full', joined, front, behind,
      joinChars_full full full', joint_append _ full, joinChars_full blank full]
    simp only [List.append_assoc]

end

theorem trim_toList (t : String) : (trim t).toList = trimChars t.toList := String.toList_ofList

theorem trim_eq_iff {t u : String} : trim t = u ↔ trimChars t.toList = u.toList := by
  rw [← trim_toList, String.toList_inj]

theorem trimChars_of_blank {b : List Char} (blank : b.all isBlank) : trimChars b = [] := by
  have none : b.dropWhile isSpace = [] := List.dropWhile_eq_nil_iff.mpr fun x mem =>
    isSpace_of_isBlank (List.all_eq_true.mp blank x mem)
  rw [trimChars, none]
  rfl

theorem trimChars_of_trim {t : String} (full : trim t ≠ "") : trimChars t.toList ≠ [] := fun none =>
  full (trim_eq_iff.mpr none)

theorem joinRootPath_assoc (r : String) {p q : String} (full : trim p ≠ "") (full' : trim q ≠ "") :
    joinRootPath r (joinRootPath p q) = joinRootPath (joinRootPath r p) q := by
  simp only [joinRootPath, String.toList_ofList,
    joinChars_assoc r.toList (trimChars_of_trim full) (trimChars_of_trim full')]

theorem trim_joinRootPath {p q : String} (full : trim p ≠ "") (full' : trim q ≠ "") :
    trim (joinRootPath p q) = joinRootPath p q := by
  simp only [joinRootPath, trim, String.toList_ofList,
    trimChars_joinChars (trimChars_of_trim full) (trimChars_of_trim full')]

theorem joinRootPath_blank {r : String} (blank : trim r = "") (p : String) :
    joinRootPath r p = trim p := by
  have none : trimChars r.toList = [] := trim_eq_iff.mp blank
  simp only [joinRootPath, joinChars, none, List.isEmpty_nil, if_true, trim]

theorem joinRootPath_trim (r p : String) : joinRootPath r (trim p) = joinRootPath r p := by
  simp only [joinRootPath, trim, String.toList_ofList, joinChars, trimChars_trimChars]

namespace Path

variable {t : String} {p : Path}

theorem trim_of_read (read : Path.read t = .ok p) (some : p.segments ≠ []) : trim t ≠ "" := by
  obtain ⟨b, c, b', text, front, back, first, last, -⟩ := readChars_parts read some
  rw [ne_eq, trim_eq_iff, text, trimChars_blanks front back first last]
  exact last.ne_nil

/-- The segments that a path text stands for in front of others or behind them: there the sign of
the whole is a key. -/
def beside (text : String) (p : Path) : List Segment :=
  if trim text = "$" then [.field "$"] else p.segments

theorem whole_of_blank (read : Path.read t = .ok p) (blank : trim t = "") : p = ⟨[]⟩ := by
  obtain ⟨segments⟩ := p
  by_contra some
  exact trim_of_read read (fun none => some (congrArg Path.mk none)) blank

theorem whole_of_sign (read : Path.read t = .ok p) (sign : trim t = "$") : p = ⟨[]⟩ := by
  obtain ⟨segments⟩ := p
  by_contra some
  obtain ⟨b, c, b', text, front, back, first, last, -⟩ :=
    readChars_parts read fun none => some (congrArg Path.mk none)
  have trimmed := trim_eq_iff.mp sign
  rw [text, trimChars_blanks front back first last] at trimmed
  rw [Path.read, text, trimmed] at read
  have whole : readChars (b ++ '$' :: b') = .ok ⟨segments⟩ := read
  rw [readChars_sign front back] at whole
  exact some (Except.ok.inj whole).symm

theorem beside_blank (read : Path.read t = .ok p) (blank : trim t = "") : p.beside t = [] := by
  rw [beside, blank, if_neg (by decide), whole_of_blank read blank]

theorem beside_segments (read : Path.read t = .ok p) (some : p.segments ≠ []) :
    p.beside t = p.segments :=
  if_neg fun sign => some (congrArg segments (whole_of_sign read sign))

theorem read_linked (read : Path.read t = .ok p) (full : trim t ≠ "") :
    ∃ b b', t.toList = b ++ ((trim t).toList ++ b') ∧ b.all isBlank ∧ b'.all isBlank ∧
      Linked (trim t).toList (p.beside t) := by
  by_cases none : p.segments = []
  · obtain ⟨segments⟩ := p
    cases none
    rcases readChars_whole read with blank | ⟨b, b', text, front, back⟩
    · exact absurd (trim_eq_iff.mpr (trimChars_of_blank blank)) full
    · have sign : trimChars t.toList = ['$'] := by
        rw [text]
        exact trimChars_blanks front back Linked.sign.first Linked.sign.last
      rw [beside, if_pos (trim_eq_iff.mpr sign), trim_toList, sign]
      exact ⟨b, b', text, front, back, Linked.sign⟩
  · obtain ⟨b, c, b', text, front, back, first, last, segments⟩ := readChars_parts read none
    have trimmed : trimChars t.toList = c := by
      rw [text, trimChars_blanks front back first last]
    rw [beside_segments read none, trim_toList, trimmed]
    refine ⟨b, b', text, front, back, first, last, b', _, loose_of_blank back, ?_, segments⟩
    rw [text]
    simp only [List.length_append]
    omega

theorem read_beside {r p : String} {root path : Path} (first : Path.read r = .ok root)
    (second : Path.read p = .ok path) (full : trim r ≠ "") (full' : trim p ≠ "") :
    Path.read (joinRootPath r p) = .ok ⟨root.beside r ++ path.beside p⟩ := by
  obtain ⟨-, -, -, -, -, front⟩ := read_linked first full
  obtain ⟨-, -, -, -, -, behind⟩ := read_linked second full'
  have text := joinChars_full (trimChars_of_trim full) (trimChars_of_trim full')
  rw [← trim_toList, ← trim_toList, joint_attached front.last] at text
  obtain ⟨x, t, same, ink⟩ := attached_cons (trim p).toList
  have solid : skipBlanks (attached (trim p).toList) ≠ [] := by
    rw [same, skipBlanks_of_not_blank (by rcases ink with rfl | rfl <;> rfl)]
    exact List.cons_ne_nil x t
  have whole := readChars_behind (p := ⟨root.beside r ++ path.beside p⟩) front
    (attached_break _) (root_misses_before front.first solid)
  rw [Path.read, joinRootPath, String.toList_ofList, text, whole]
  exact ⟨_, [], behind.links, rfl, rfl⟩

theorem read_joinRootPath {r p : String} {rs ps : List Segment} (first : Path.read r = .ok ⟨rs⟩)
    (second : Path.read p = .ok ⟨ps⟩) (some : rs ≠ []) (some' : ps ≠ []) :
    Path.read (joinRootPath r p) = .ok ⟨rs ++ ps⟩ := by
  have joined := read_beside first second (trim_of_read first some) (trim_of_read second some')
  rwa [beside_segments first some, beside_segments second some'] at joined

end Path

end DocPath
