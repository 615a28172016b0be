import DocPath.Proofs.Path.Edges
import DocPath.Proofs.Path.Segments

/-!
A path text that goes on. Behind the text of some segments a further text is read from its own
start, as far as it begins like something that may stand behind a segment: it adds its segments or
spoils the whole, whatever the segments in front are.
-/

namespace DocPath

open Reader

namespace Reader

variable {e u b : List Char} {ps : List Segment}

theorem loose_of_blank (blank : b.all isBlank) : Loose b := by
  constructor
  · intro x head
    exact .inl (List.all_eq_true.mp blank x (List.mem_of_head? head))
  · have none : skipBlanks b = [] :=
      List.dropWhile_eq_nil_iff.mpr fun x mem => List.all_eq_true.mp blank x mem
    rw [NoClosure, none]
    intro head
    cases head

theorem loose_blanks {b : List Char} {x : Char} (blank : b.all isBlank) (full : b ≠ [])
    (plain : isBlank x = false) (other : x ≠ '{') (e : List Char) : Loose (b ++ x :: e) := by
  constructor
  · intro y head
    cases b with
    | nil => exact absurd rfl full
    | cons z b =>
      cases head
      exact .inl (List.all_eq_true.mp blank y List.mem_cons_self)
  · rw [NoClosure, skipBlanks, List.dropWhile_append_of_pos (List.all_eq_true.mp blank),
      List.dropWhile_cons, plain]
    exact fun head => other (Option.some.inj head)

theorem break_joint {x : Char} (joint : x = '.' ∨ x = '[') (e : List Char) : Break (x :: e) := by
  constructor
  · intro y head
    cases head
    rcases joint with rfl | rfl <;> decide
  · rw [NoClosure, skipBlanks_of_not_blank (by rcases joint with rfl | rfl <;> rfl)]
    intro head
    cases head
    rcases joint with none | none <;> cases none

section
variable {expr expr' : Reader Expr} {n m k : Nat}
  (first : k ≤ n) (second : k ≤ m) (inner : Mirrors Closed Closed k expr expr')
  (some : Advances expr)
include first second inner some

theorem start_carries : Carries Loose Break (k + 1) (subscript <|> segment expr n true)
    (subscript <|> segment expr' m true) :=
  .orElse_opens subscript_encloses.carries subscript_opens subscript_opens
    (segment_mirrors first second inner some true).toCarries
    (segment_advances first second inner some true)

end

theorem many_length {α : Type} {p : Reader α} (some : Advances p) (n : Nat) :
    Takes (many p n) fun c as => as.length ≤ c.length := by
  refine .many some (Nat.le_refl 0) ?_ n
  intro c a d as full less
  have := List.length_pos_iff.mpr full
  rw [List.length_cons, List.length_append]
  omega

/-- What a text is read as behind a segment. -/
def links (e : List Char) : Outcome (List Segment) :=
  many (subsequent (expression (e.length + 1)) (e.length + 1) true) (e.length + 1) e

section
variable {n m i j : Nat}

theorem links_again (first : e.length < n) (second : e.length < m) (third : e.length < i)
    (fourth : e.length < j)
    (read : many (subsequent (expression n) n true) i e = .done ps u) :
    many (subsequent (expression m) m true) j e = .done ps u := by
  have inner : Mirrors Closed Closed e.length (expression n) (expression m) :=
    expression_mirrors (Nat.le_of_lt first) (Nat.le_of_lt second)
  have some := expression_advances n
  have again : Carries Loose Loose (e.length + 1) (many (subsequent (expression n) n true) i)
      (many (subsequent (expression m) m true) j) :=
    .many (subsequent_mirrors (Nat.le_of_lt first) (Nat.le_of_lt second) inner some true)
      (subsequent_advances (Nat.le_of_lt first) (Nat.le_of_lt second) inner some true) third fourth
  have alone : many (subsequent (expression n) n true) i (e ++ []) = .done ps (u ++ []) := by
    rwa [List.append_nil, List.append_nil]
  have result := again.done Loose.nil Loose.nil (Nat.lt_succ_self _) alone
  rwa [List.append_nil, List.append_nil] at result

theorem links_iff (first : e.length < m) (second : e.length < j) :
    many (subsequent (expression m) m true) j e = .done ps u ↔ links e = .done ps u :=
  ⟨links_again first (Nat.lt_succ_self _) second (Nat.lt_succ_self _),
    links_again (Nat.lt_succ_self _) first (Nat.lt_succ_self _) second⟩

end

theorem links_loose (loose : Loose e) : links e = .done [] e :=
  many_none (subsequent_misses loose true) _

theorem links_cons {g : Segment} {r : List Char} (shorter : r.length < e.length)
    (first : ∀ n, subsequent (expression n) n true e = .done g r) :
    links e = .done ps u ↔ ∃ qs, ps = g :: qs ∧ links r = .done qs u := by
  constructor
  · intro read
    rcases done_of_many read with ⟨-, -, fault, missed⟩ | ⟨g', t, qs, rfl, item, rest⟩
    · rw [first] at missed
      cases missed
    · obtain ⟨rfl, rfl⟩ := Outcome.done.inj ((first _).symm.trans item)
      exact ⟨qs, rfl, (links_iff (by omega) shorter).mp rest⟩
  · rintro ⟨qs, rfl, rest⟩
    exact many_cons (first _) ((links_iff (by omega) shorter).mpr rest)

theorem links_point_bracket (e : List Char) : links ('.' :: '[' :: e) ≠ .done ps u := by
  have none (expr : Reader Expr) (n : Nat) : Misses (segment expr n true) ('[' :: e) := by
    have star : ('[' :: e).head? ≠ some '*' := by simp
    have word : Misses methodName ('[' :: e) := (identifier_misses (.cons (by decide) e)).bind
    obtain ⟨fault, missed⟩ : Misses ((do let k ← stringLiteral; pure (.field k)) <|>
        (do let k ← bareKey true; pure (.field k)) : Reader Segment) ('[' :: e) :=
      .orElse (stringLiteral_misses (.cons (by decide) e)).bind
        (Misses.bind (satisfy_misses (.cons (by decide) e)).bind)
    exact ⟨fault, (segment_key true star word).trans missed⟩
  have halted (expr : Reader Expr) (n : Nat) :
      ∃ fault, subsequent expr n true ('.' :: '[' :: e) = .halt fault := by
    obtain ⟨fault, missed⟩ := (none expr n).within .segment
    have question : Misses (word "?.") ('.' :: '[' :: e) := by
      refine word_misses ?_
      rintro ⟨t, text⟩
      cases text
    have separator : (word "?." <|> word ".") ('.' :: '[' :: e) = .done () ('[' :: e) :=
      (orElse_next question).trans (word_append "." _)
    refine ⟨fault, ?_⟩
    unfold subsequent
    rw [orElse_next (spread_misses (by simp) true), orElse_apply, bind_done separator]
    simp only [commit, missed]
  intro read
  obtain ⟨fault, halt⟩ := halted (expression (('.' :: '[' :: e).length + 1))
    (('.' :: '[' :: e).length + 1)
  rcases done_of_many read with ⟨-, -, f, missed⟩ | ⟨g, t, qs, -, item, -⟩
  · rw [halt] at missed
    cases missed
  · rw [halt] at item
    cases item

/-- A text without blanks around it that is read as segments. -/
structure Linked (c : List Char) (rs : List Segment) : Prop where
  first : Begins c
  last : Finishes c
  read : ∃ b n, Loose b ∧ c.length ≤ n ∧ segments (expression n) n (c ++ b) = .done rs b

theorem Linked.sign : Linked ['$'] [.field "$"] where
  first := ⟨'$', [], rfl, by decide⟩
  last := ⟨[], '$', rfl, by decide, by decide⟩
  read := ⟨[], 1, Loose.nil, Nat.le_refl 1, rfl⟩

section
variable {c d b : List Char} {rs : List Segment} {p : Path}

theorem Linked.segments_behind (h : Linked c rs) (right : Break e) {m : Nat}
    (enough : (c ++ e).length < m) {ss : List Segment} :
    segments (expression m) m (c ++ e) = .done ss u ↔
      ∃ ps, links e = .done ps u ∧ ss = rs ++ ps := by
  obtain ⟨b, n, left, bound, read⟩ := h.read
  rw [List.length_append] at enough
  have less : c.length ≤ m := by omega
  have inner : Mirrors Closed Closed c.length (expression n) (expression m) :=
    expression_mirrors bound less
  have some := expression_advances n
  obtain ⟨g, t, start, rest⟩ := done_of_bind read
  obtain ⟨gs, v, front, given⟩ := done_of_bind rest
  cases given
  have again := subsequent_carries bound less inner some true
  obtain ⟨w, rfl, short⟩ :=
    many_length (subsequent_advances bound less inner some true) n _ _ _ front
  have full : Advances (subscript <|> segment (expression n) n true) :=
    (subscript_encloses (k := 0)).advances.orElse (segment_advances bound less inner some true)
  have shorter := full.shorter start
  have start' := (start_carries bound less inner some).done left right (Nat.lt_succ_self _) start
  -- The repetitions behind the first segment are those of the text and then those of the end.
  have count : gs.length + (m - gs.length) = m := Nat.add_sub_cancel' (by omega)
  constructor
  · intro whole
    obtain ⟨g', t, start'', rest⟩ := done_of_bind whole
    obtain ⟨xs, v, later, given⟩ := done_of_bind rest
    cases given
    obtain ⟨rfl, rfl⟩ := Outcome.done.inj (start'.symm.trans start'')
    have counted : many (subsequent (expression m) m true) (gs.length + (m - gs.length))
        (w ++ e) = .done xs u := by rwa [count]
    obtain ⟨ps, rfl, behind⟩ := again.many_behind left right (by omega) front counted
    exact ⟨ps, (links_iff (by omega) (by omega)).mp behind, rfl⟩
  · rintro ⟨ps, behind, rfl⟩
    have later := again.many_append left right (by omega) front
      ((links_iff (m := m) (j := m - gs.length) (by omega) (by omega)).mpr behind)
    rw [count] at later
    unfold segments
    rw [bind_done start', bind_done later]
    rfl

end

theorem root_misses_other {s : List Char} (full : s ≠ [])
    (other : ∀ b, s = '$' :: b → skipBlanks b ≠ []) : Misses root s := by
  refine .orElse ?dollar (atEnd_misses full).bind
  case dollar =>
    by_cases sign : s.head? = some '$'
    · obtain ⟨b, rfl⟩ := List.head?_eq_some_iff.mp sign
      have more : Misses (do blanks; atEnd : Reader Unit) b :=
        .bind_after (blanks_apply b) (atEnd_misses (other b rfl))
      exact .bind_after (char_cons '$' b) (ahead_misses more).bind
    · exact (char_misses sign).bind

theorem root_misses_behind {e : List Char} (x : Char) (last : Finishes e) :
    Misses root (x :: e) := by
  refine root_misses_other (List.cons_ne_nil x e) fun b same => ?_
  obtain ⟨-, rfl⟩ := List.cons.inj same
  exact last.not_blank

theorem done_of_root {s : List Char} {p : Path} (read : root s = .done p u) :
    p = ⟨[]⟩ ∧ (s = [] ∨ ∃ b, s = '$' :: b ∧ skipBlanks b = []) := by
  rcases done_of_orElse read with dollar | ⟨-, empty⟩
  · obtain ⟨x, t, sign, rest⟩ := done_of_bind dollar
    obtain ⟨v, t', behind, given⟩ := done_of_bind rest
    obtain ⟨-, w, t'', blank⟩ := done_of_ahead behind
    obtain ⟨v, t₁, back, ends⟩ := done_of_bind blank
    cases given
    cases back
    obtain ⟨c, same, rfl, -⟩ := Takes.char '$' _ _ _ sign
    exact ⟨rfl, .inr ⟨t, same, (done_of_atEnd ends).1⟩⟩
  · obtain ⟨x, t, ends, given⟩ := done_of_bind empty
    cases given
    exact ⟨rfl, .inl (done_of_atEnd ends).1⟩

end Reader

namespace Path

variable {b b' c e s : List Char} {rs : List Segment} {p : Path}

theorem skipBlanks_begins (front : b.all isBlank) (first : Begins s) : skipBlanks (b ++ s) = s := by
  obtain ⟨x, t, rfl, ink⟩ := first
  rw [skipBlanks, List.dropWhile_append_of_pos (List.all_eq_true.mp front), List.dropWhile_cons,
    isBlank_of_not_isSpace ink]
  rfl

theorem skipBlanks_of_blank (blank : b.all isBlank) : skipBlanks b = [] :=
  List.dropWhile_eq_nil_iff.mpr (List.all_eq_true.mp blank)

theorem blank_of_skipBlanks (none : skipBlanks b = []) : b.all isBlank :=
  List.all_eq_true.mpr (List.dropWhile_eq_nil_iff.mp none)

theorem readChars_padded :
    readChars s = .ok p ↔
      ∃ u, Reader.path (s.length + 1) (skipBlanks s) = .done p u ∧ skipBlanks u = [] := by
  unfold readChars
  constructor
  · intro read
    split at read
    · next q r whole =>
      cases read
      obtain ⟨p, t, first, rest⟩ := done_of_bind whole
      obtain ⟨u, v, ended, given⟩ := done_of_bind rest
      obtain ⟨rfl, rfl⟩ := done_of_atEnd ended
      cases given
      obtain ⟨u, t₁, front, first⟩ := done_of_bind first
      cases front
      obtain ⟨q, t₂, inside, first⟩ := done_of_bind first
      obtain ⟨u, t₃, back, given⟩ := done_of_bind first
      cases given
      exact ⟨t₂, inside, (Outcome.done.inj back).2⟩
    · cases read
    · cases read
  · rintro ⟨u, inside, none⟩
    have whole : wholePath (s.length + 1) s = .done p [] := by
      unfold wholePath padded
      rw [bind_done (t := []) (a := p)]
      · rfl
      · rw [bind_done (blanks_apply _), bind_done inside, bind_done (blanks_apply _), none]
        rfl
    rw [whole]

theorem readChars_sign (front : b.all isBlank) (back : b'.all isBlank) :
    readChars (b ++ '$' :: b') = .ok ⟨[]⟩ := by
  refine readChars_padded.mpr ⟨b', ?_, skipBlanks_of_blank back⟩
  have ends : (do blanks; atEnd : Reader Unit) b' = .done () [] := by
    rw [bind_done (blanks_apply _), skipBlanks_of_blank back]
    rfl
  rw [skipBlanks_begins front ⟨'$', b', rfl, by decide⟩]
  unfold Reader.path root
  refine orElse_done (orElse_done ?_)
  rw [bind_done (char_cons '$' b'), bind_done (ahead_done ends)]
  rfl

theorem readChars_blank (blank : b.all isBlank) : readChars b = .ok ⟨[]⟩ := by
  refine readChars_padded.mpr ⟨[], ?_, rfl⟩
  rw [skipBlanks_of_blank blank]
  rfl

theorem readChars_iff (first : Begins s) (other : Misses root s) :
    readChars s = .ok p ↔
      ∃ ss u, Reader.segments (expression (s.length + 1)) (s.length + 1) s = .done ss u ∧
        skipBlanks u = [] ∧ p = ⟨ss⟩ := by
  have start : skipBlanks s = s := skipBlanks_begins (b := []) rfl first
  rw [readChars_padded, start]
  unfold Reader.path
  rw [orElse_next other]
  constructor
  · rintro ⟨u, read, none⟩
    obtain ⟨ss, u, read, given⟩ := done_of_bind read
    cases given
    exact ⟨ss, u, read, none, rfl⟩
  · rintro ⟨ss, u, read, none, rfl⟩
    exact ⟨u, by rw [bind_done read]; rfl, none⟩

theorem readChars_segments (front : Begins c) (last : Finishes e)
    (read : Reader.segments (expression ((c ++ e).length + 1)) ((c ++ e).length + 1) (c ++ e) =
      .done rs []) : readChars (c ++ e) = .ok ⟨rs⟩ := by
  obtain ⟨x, d, rfl, ink⟩ := front
  have other : Misses root ((x :: d) ++ e) := root_misses_behind x (last.append d)
  exact (readChars_iff ⟨x, d ++ e, rfl, ink⟩ other).mpr ⟨rs, [], read, rfl, rfl⟩

theorem readChars_behind (h : Linked c rs) (right : Break e) (other : Misses root (c ++ e)) :
    readChars (c ++ e) = .ok p ↔
      ∃ ps u, links e = .done ps u ∧ skipBlanks u = [] ∧ p = ⟨rs ++ ps⟩ := by
  have enough : (c ++ e).length < (c ++ e).length + 1 := Nat.lt_succ_self _
  rw [readChars_iff (h.first.append e) other]
  constructor
  · rintro ⟨ss, u, read, none, rfl⟩
    obtain ⟨ps, behind, rfl⟩ := (h.segments_behind right enough).mp read
    exact ⟨ps, u, behind, none, rfl⟩
  · rintro ⟨ps, u, behind, none, rfl⟩
    exact ⟨rs ++ ps, u, (h.segments_behind right enough).mpr ⟨ps, behind, rfl⟩, none, rfl⟩

theorem root_misses_before (h : Begins c) (more : skipBlanks e ≠ []) : Misses root (c ++ e) := by
  obtain ⟨x, d, rfl, -⟩ := h
  refine root_misses_other (List.cons_ne_nil _ _) fun t same none => more ?_
  obtain ⟨-, rfl⟩ := List.cons.inj same
  have blank := List.dropWhile_eq_nil_iff.mp none
  exact List.dropWhile_eq_nil_iff.mpr fun y mem => blank y (List.mem_append_right d mem)

theorem readChars_refused (h : Linked c rs) (right : Break e) (more : skipBlanks e ≠ [])
    (refused : ∀ ps u, links e = .done ps u → skipBlanks u ≠ []) :
    ∃ fault, readChars (c ++ e) = .error fault := by
  cases read : readChars (c ++ e) with
  | error fault => exact ⟨fault, rfl⟩
  | ok p =>
    obtain ⟨ps, u, behind, none, -⟩ :=
      (readChars_behind h right (root_misses_before h.first more)).mp read
    exact absurd none (refused ps u behind)

theorem readChars_whole (read : readChars s = .ok ⟨[]⟩) :
    s.all isBlank ∨ ∃ b b', s = b ++ '$' :: b' ∧ b.all isBlank ∧ b'.all isBlank := by
  obtain ⟨u, inside, -⟩ := readChars_padded.mp read
  have text : s.takeWhile isBlank ++ skipBlanks s = s := List.takeWhile_append_dropWhile
  rcases done_of_orElse inside with whole | ⟨-, some⟩
  · rcases (done_of_root whole).2 with none | ⟨b', sign, back⟩
    · exact .inl (blank_of_skipBlanks none)
    · rw [sign] at text
      exact .inr ⟨_, b', text.symm, List.all_takeWhile, blank_of_skipBlanks back⟩
  · obtain ⟨ss, t, read, given⟩ := done_of_bind some
    obtain ⟨g, t₁, -, rest⟩ := done_of_bind read
    obtain ⟨gs, t₂, -, made⟩ := done_of_bind rest
    cases made
    cases given

theorem readChars_parts (read : readChars s = .ok ⟨rs⟩) (some : rs ≠ []) :
    ∃ b c b', s = b ++ (c ++ b') ∧ b.all isBlank ∧ b'.all isBlank ∧ Begins c ∧ Finishes c ∧
      Reader.segments (expression (s.length + 1)) (s.length + 1) (c ++ b') = .done rs b' := by
  obtain ⟨u, inside, none⟩ := readChars_padded.mp read
  have text : s.takeWhile isBlank ++ skipBlanks s = s := List.takeWhile_append_dropWhile
  rcases done_of_orElse inside with whole | ⟨-, rest⟩
  · exact absurd (Path.mk.inj (done_of_root whole).1) some
  · obtain ⟨ss, t, segments, given⟩ := done_of_bind rest
    cases given
    obtain ⟨c, same, first, last⟩ := segments_edges (expression_advances _) _ _ _ segments
    rw [same] at text segments
    exact ⟨_, c, u, text.symm, List.all_takeWhile, blank_of_skipBlanks none, first, last, segments⟩

end Path

end DocPath
