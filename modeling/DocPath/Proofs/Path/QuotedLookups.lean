import DocPath.Proofs.Path.Joined
import DocPath.Proofs.Reader.Spelling

/-!
A key between quotes behind a path, once after a dot and once in a subscript. Both texts are read
alike: they are refused together, or they give the same segments but for the one of the key, a field
after the dot and a subscript in brackets, whatever stands behind it and before it.
-/

namespace DocPath

open Reader

def trimEnd (cs : List Char) : List Char := (cs.reverse.dropWhile isSpace).reverse

theorem trimEnd_append {c : List Char} (last : Begins c.reverse) (rest : List Char) :
    trimEnd (c ++ rest) = c ++ trimEnd rest := by
  have stop : c.reverse.dropWhile isSpace = c.reverse := dropWhile_blanks (b := []) rfl last
  rw [trimEnd, List.reverse_append, List.dropWhile_append]
  split
  · next none =>
    rw [stop, trimEnd, List.isEmpty_iff.mp none, List.reverse_nil, List.append_nil,
      List.reverse_reverse]
  · rw [List.reverse_append, List.reverse_reverse, trimEnd]

theorem trimChars_eq {b c : List Char} (front : b.all isBlank) (first : Begins c) :
    trimChars (b ++ c) = trimEnd c := by
  rw [trimChars, dropWhile_blanks front first, trimEnd]

theorem joinChars_behind {b c w y : List Char} (front : b.all isBlank) (back : w.all isBlank)
    (first : Begins c) (last : Finishes c) (ending : Finishes y) (r rest : List Char) :
    joinChars r (b ++ (c ++ w) ++ (y ++ rest)) =
      joinChars r (b ++ (c ++ w)) ++ (w ++ (y ++ trimEnd rest)) := by
  have inner : trimChars (b ++ (c ++ w)) = c := trimChars_blanks front back first last
  have outer : trimChars (b ++ (c ++ w) ++ (y ++ rest)) = c ++ (w ++ (y ++ trimEnd rest)) := by
    have whole : Begins (c ++ (w ++ y)).reverse := ((ending.append w).append c).begins
    have start : Begins (c ++ (w ++ (y ++ rest))) := first.append _
    rw [List.append_assoc, List.append_assoc, trimChars_eq front start]
    simp only [← List.append_assoc] at whole ⊢
    exact trimEnd_append whole rest
  have full : trimChars (b ++ (c ++ w)) ≠ [] := by
    rw [inner]
    exact last.ne_nil
  have full' : trimChars (b ++ (c ++ w) ++ (y ++ rest)) ≠ [] := by
    rw [outer]
    exact List.append_ne_nil_of_left_ne_nil last.ne_nil _
  by_cases blank : trimChars r = []
  · have alone (s : List Char) : joinChars r s = trimChars s := by simp [joinChars, blank]
    rw [alone, alone, outer, inner]
  · rw [joinChars_full blank full, joinChars_full blank full', outer, inner,
      joint_append _ last.ne_nil]
    simp only [List.append_assoc]

def dotKey (q : Quote) (t : List Char) : List Char := '.' :: q.char :: (t ++ [q.char])

def subscriptKey (q : Quote) (t : List Char) : List Char := '[' :: q.char :: (t ++ [q.char, ']'])

namespace Reader

variable {expr : Reader Expr} {n : Nat} {q : Quote} {t : List Char} {key : String}

theorem stringLiteral_key (spelled : Spells q t key.toList) (r : List Char) :
    stringLiteral (q.char :: (t ++ q.char :: r)) = .done key r := by
  rw [stringLiteral_spelled spelled, String.ofList_toList]

theorem segment_quoted (spelled : Spells q t key.toList) (r : List Char) :
    segment expr n true (q.char :: (t ++ q.char :: r)) = .done (.field key) r := by
  have letter : isIdentStart q.char = false := by cases q <;> decide
  have star : (q.char :: (t ++ q.char :: r)).head? ≠ some '*' := by cases q <;> simp [Quote.char]
  rw [segment_key true star (identifier_misses (.cons letter _)).bind]
  exact orElse_done (bind_done (stringLiteral_key spelled r))

theorem subsequent_dotKey (spelled : Spells q t key.toList) (r : List Char) :
    subsequent expr n true (dotKey q t ++ r) = .done (.field key) r := by
  have text : dotKey q t ++ r = '.' :: (q.char :: (t ++ q.char :: r)) := by simp [dotKey]
  rw [text]
  exact subsequent_point (segment_quoted spelled r)

theorem subsequent_subscriptKey (spelled : Spells q t key.toList) (r : List Char) :
    subsequent expr n true (subscriptKey q t ++ r) = .done (.index (.key key)) r := by
  have text : subscriptKey q t ++ r = '[' :: (q.char :: (t ++ q.char :: ']' :: r)) := by
    simp [subscriptKey]
  have plain : isBlank q.char = false := by cases q <;> decide
  have none : Misses index (q.char :: (t ++ q.char :: ']' :: r)) :=
    index_misses (.cons (by cases q <;> decide) _)
  have selected : selector (q.char :: (t ++ q.char :: ']' :: r)) = .done (.key key) (']' :: r) := by
    have noRange : Misses rangeSelector (q.char :: (t ++ q.char :: ']' :: r)) := none.bind
    unfold selector
    rw [orElse_next noRange, orElse_next none.bind,
      bind_done (stringLiteral_key spelled _)]
    rfl
  have close : (do
      blanks
      let _ ← char ']'
      pure () : Reader Unit) (']' :: r) = .done () r := by
    rw [bind_done (blanks_apply _), skipBlanks_of_not_blank (by decide), bind_done (char_cons _ _)]
    rfl
  have square : subscript ('[' :: (q.char :: (t ++ q.char :: ']' :: r))) =
      .done (.index (.key key)) r := by
    refine within_done _ ?_
    rw [bind_done (char_cons _ _), bind_done (blanks_apply _), skipBlanks_of_not_blank plain,
      bind_done (commit_done selected), bind_done (commit_done close)]
    rfl
  have other (w : String) (x : Char) (head : w.toList.head? = some x) (apart : x ≠ '[') :
      Misses (word w) ('[' :: (q.char :: (t ++ q.char :: ']' :: r))) :=
    word_misses_head head fun same => apart (Option.some.inj same).symm
  rw [text]
  unfold subsequent
  rw [orElse_next (other "*." '*' rfl (by decide)).bind,
    orElse_next ((other "?." '?' rfl (by decide)).orElse (other "." '.' rfl (by decide))).bind]
  exact square

end Reader

theorem finishes_dotKey (q : Quote) (t : List Char) : Finishes (dotKey q t) :=
  ⟨'.' :: q.char :: t, q.char, by simp [dotKey], by cases q <;> decide, by cases q <;> decide⟩

theorem finishes_subscriptKey (q : Quote) (t : List Char) : Finishes (subscriptKey q t) :=
  ⟨'[' :: q.char :: (t ++ [q.char]), ']', by simp [subscriptKey], by decide, by decide⟩

namespace Path

variable {c w e : List Char} {rs : List Segment} {g : Segment}

/-- A text that has a segment of its own in front stands behind another text exactly as the rest of
it does, and not at all behind blanks. -/
theorem readChars_lookup {x : Char} {y rest : List Char} (h : Linked c rs) (blank : w.all isBlank)
    (text : y = x :: e) (joint : x = '.' ∨ x = '[')
    (first : ∀ n, subsequent (expression n) n true (y ++ rest) = .done g rest) (p : Path) :
    readChars (c ++ (w ++ (y ++ rest))) = .ok p ↔
      w = [] ∧ ∃ ps u, links rest = .done ps u ∧ skipBlanks u = [] ∧ p = ⟨rs ++ g :: ps⟩ := by
  subst text
  have plain : isBlank x = false := by rcases joint with rfl | rfl <;> rfl
  have solid : skipBlanks (w ++ (x :: e ++ rest)) ≠ [] := by
    rw [skipBlanks, List.dropWhile_append_of_pos (List.all_eq_true.mp blank), List.cons_append,
      List.dropWhile_cons, plain]
    exact List.cons_ne_nil _ _
  have other := root_misses_before h.first solid
  by_cases none : w = []
  · subst none
    rw [List.nil_append] at other ⊢
    have shorter : rest.length < (x :: e ++ rest).length := by
      rw [List.length_append, List.length_cons]
      omega
    have right : Break (x :: e ++ rest) := break_joint joint (e ++ rest)
    rw [readChars_behind h right other]
    constructor
    · rintro ⟨ps, u, read, last, rfl⟩
      obtain ⟨qs, rfl, behind⟩ := (links_cons shorter first).mp read
      exact ⟨rfl, qs, u, behind, last, rfl⟩
    · rintro ⟨-, qs, u, behind, last, rfl⟩
      exact ⟨g :: qs, u, (links_cons shorter first).mpr ⟨qs, rfl, behind⟩, last, rfl⟩
  · have brace : x ≠ '{' := by rcases joint with rfl | rfl <;> decide
    have loose : Loose (w ++ (x :: e ++ rest)) := loose_blanks blank none plain brace _
    refine iff_of_false (fun read => ?_) fun same => none same.1
    obtain ⟨ps, u, left, last, -⟩ := (readChars_behind h loose.break other).mp read
    rw [links_loose loose] at left
    cases left
    exact solid last

/-- How two texts are read that have a field and a subscript with its key at one place: not at all,
or as the same segments but for these two. -/
def ReadAlike (rs : List Segment) (key : String) (t t' : String) : Prop :=
  (∃ f f', Path.read t = .error f ∧ Path.read t' = .error f') ∨
    ∃ ps, Path.read t = .ok ⟨rs ++ .field key :: ps⟩ ∧
      Path.read t' = .ok ⟨rs ++ .index (.key key) :: ps⟩

theorem trim_joined (r : String) {p : String} (full : trim p ≠ "") :
    trim (joinRootPath r p) = joinRootPath r p ∧ joinRootPath r p ≠ "" := by
  by_cases blank : trim r = ""
  · rw [joinRootPath_blank blank]
    refine ⟨?_, full⟩
    rw [trim, trim_toList, trimChars_trimChars, trim]
  · have trimmed := trim_joinRootPath blank full
    refine ⟨trimmed, fun none => ?_⟩
    have chars := joinChars_full (trimChars_of_trim blank) (trimChars_of_trim full)
    rw [joinRootPath] at none
    have empty := congrArg String.toList none
    rw [String.toList_ofList, chars] at empty
    exact trimChars_of_trim blank (List.append_eq_nil_iff.mp empty).1

theorem linked_joined {r p : String} {base : Path} (whole : Path.read (joinRootPath r p) = .ok base)
    (full : trim p ≠ "") :
    Linked (joinRootPath r p).toList (base.beside (joinRootPath r p)) := by
  obtain ⟨trimmed, some⟩ := trim_joined r full
  have some' : trim (joinRootPath r p) ≠ "" := by
    rw [trimmed]
    exact some
  obtain ⟨b, b', text, front, back, linked⟩ := read_linked whole some'
  rwa [trimmed] at linked

theorem read_lookups {r p : String} {path base : Path} {q : Quote} {t : List Char} {key : String}
    (read : Path.read p = .ok path) (full : trim p ≠ "")
    (whole : Path.read (joinRootPath r p) = .ok base) (spelled : Spells q t key.toList)
    (rest : String) :
    ReadAlike (base.beside (joinRootPath r p)) key
      (joinRootPath r (p ++ String.ofList (dotKey q t) ++ rest))
      (joinRootPath r (p ++ String.ofList (subscriptKey q t) ++ rest)) := by
  have linked := linked_joined whole full
  obtain ⟨b, w, text, front, blank, inner⟩ := read_linked read full
  -- What is put behind the path stands behind the joined text, with the blanks of the path.
  have joined {y : List Char} (ending : Finishes y) :
      Path.read (joinRootPath r (p ++ String.ofList y ++ rest)) =
        readChars ((joinRootPath r p).toList ++ (w ++ (y ++ trimEnd rest.toList))) := by
    have behind := joinChars_behind front blank inner.first inner.last ending r.toList rest.toList
    rw [← text] at behind
    simp only [Path.read, joinRootPath, String.toList_ofList, String.toList_append,
      List.append_assoc]
    rw [behind]
  have dot (p : Path) := readChars_lookup linked blank (y := dotKey q t) rfl (.inl rfl)
    (fun n => subsequent_dotKey spelled (trimEnd rest.toList)) p
  have square (p : Path) := readChars_lookup linked blank (y := subscriptKey q t) rfl (.inr rfl)
    (fun n => subsequent_subscriptKey spelled (trimEnd rest.toList)) p
  rw [ReadAlike, joined (finishes_dotKey q t), joined (finishes_subscriptKey q t)]
  by_cases stands : w = [] ∧ ∃ ps u, links (trimEnd rest.toList) = .done ps u ∧ skipBlanks u = []
  · obtain ⟨none, ps, u, behind, last⟩ := stands
    exact .inr ⟨ps, (dot _).mpr ⟨none, ps, u, behind, last, rfl⟩,
      (square _).mpr ⟨none, ps, u, behind, last, rfl⟩⟩
  · refine .inl ?_
    have refused {r : Except SyntaxError Path} (only : ∀ p, r ≠ .ok p) : ∃ f, r = .error f := by
      cases r with
      | ok p => exact absurd rfl (only p)
      | error f => exact ⟨f, rfl⟩
    obtain ⟨f, first⟩ := refused fun p read => by
      obtain ⟨none, ps, u, behind, last, -⟩ := (dot p).mp read
      exact stands ⟨none, ps, u, behind, last⟩
    obtain ⟨f', second⟩ := refused fun p read => by
      obtain ⟨none, ps, u, behind, last, -⟩ := (square p).mp read
      exact stands ⟨none, ps, u, behind, last⟩
    exact ⟨f, f', first, second⟩

end Path

end DocPath
