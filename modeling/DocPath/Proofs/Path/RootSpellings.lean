import DocPath.Proofs.Path.Joined

/-!
Spellings of a root path. A dot behind a root path is the one that separates it from a path, so it
changes nothing in front of a key, and it spoils a subscript, which takes none. The empty text and
`$` stand for the whole, but beside another path only the empty text does: there `$` is a key.
-/

namespace DocPath

open Reader

def endsBlank (t : String) : Bool := t.toList.getLast?.any isBlank

/-- Where a dot behind a root path is only the one that separates it from a path: nothing comes
behind it, or no blank stands before it and no subscript behind it. -/
def DotSeparates (r p : String) : Prop :=
  trim p = "" ∨ (¬endsBlank r ∧ (trim p).toList.head? ≠ some '[')

instance (r p : String) : Decidable (DotSeparates r p) := inferInstanceAs (Decidable (_ ∨ _))

namespace Path

variable {b c d e : List Char} {rs : List Segment} {r p : String} {root path : Path}

theorem sign_of_blank (last : Finishes ('$' :: c)) (blank : c.all isBlank) : c = [] := by
  obtain ⟨d, x, same, ink, -⟩ := last
  cases d with
  | nil => exact (List.cons.inj same).2
  | cons y d =>
    have mem : x ∈ c := by
      rw [(List.cons.inj same).2]
      simp
    rw [isSpace_of_isBlank (List.all_eq_true.mp blank x mem)] at ink
    cases ink

theorem read_blanks (read : Path.read r = .ok root) (full : trim r ≠ "") (blank : b.all isBlank) :
    readChars ((trim r).toList ++ b) = .ok root := by
  obtain ⟨a, a', text, front, back, linked⟩ := read_linked read full
  by_cases sign : trim r = "$"
  · rw [sign] at text ⊢
    rw [Path.read, text] at read
    have whole : readChars (a ++ '$' :: a') = .ok root := read
    rw [readChars_sign front back] at whole
    rw [← whole]
    exact readChars_sign (b := []) rfl blank
  · have other : Misses Reader.root ((trim r).toList ++ b) := by
      refine root_misses_other (List.append_ne_nil_of_left_ne_nil linked.last.ne_nil b)
        fun t same none => ?_
      obtain ⟨x, c, chars, -⟩ := linked.first
      rw [chars, List.cons_append] at same
      obtain ⟨rfl, rfl⟩ := List.cons.inj same
      have blanks := blank_of_skipBlanks none
      rw [List.all_append, Bool.and_eq_true] at blanks
      have last := linked.last
      rw [chars] at last
      rw [sign_of_blank last blanks.1] at chars
      exact sign (String.toList_inj.mp chars)
    rw [beside, if_neg sign] at linked
    have loose := loose_of_blank blank
    refine (readChars_behind linked loose.break other).mpr
      ⟨[], b, links_loose loose, skipBlanks_of_blank blank, ?_⟩
    rw [List.append_nil]

theorem read_trim (read : Path.read r = .ok root) : Path.read (trim r) = .ok root := by
  by_cases full : trim r = ""
  · have none : root.segments = [] := by
      by_contra some
      exact trim_of_read read some full
    obtain ⟨segments⟩ := root
    cases none
    rw [full]
    exact readChars_blank rfl
  · have alone := read_blanks (b := []) read full rfl
    rwa [List.append_nil] at alone

theorem trimDots_eq (last : c.getLast? ≠ some '.') : trimDots c = c := by
  rw [trimDots]
  rcases List.eq_nil_or_concat c with rfl | ⟨d, x, rfl⟩
  · rfl
  · have plain : x ≠ '.' := by simpa using last
    simp [plain]

theorem trimDots_point (c : List Char) : trimDots (c ++ ['.']) = trimDots c := by
  simp [trimDots]

theorem joinChars_blank {s t : List Char} (blank : trimChars t = []) :
    joinChars s t = trimDots (trimChars s) := by
  simp only [joinChars, blank]
  split
  · next none => rw [List.isEmpty_iff.mp none, trimDots_eq (by simp)]
  · rfl

theorem read_beside_blank (read : Path.read r = .ok root) (blank : trim p = "") :
    Path.read (joinRootPath r p) = .ok root ∧ Path.read (joinRootPath p r) = .ok root := by
  refine ⟨?_, by rw [joinRootPath_blank blank]; exact read_trim read⟩
  have last : (trimChars r.toList).getLast? ≠ some '.' := by
    by_cases full : trim r = ""
    · simp [trim_eq_iff.mp full]
    · obtain ⟨-, -, -, -, -, linked⟩ := read_linked read full
      rw [← trim_toList]
      exact linked.last.getLast?
  have alone : joinRootPath r p = trim r := by
    rw [joinRootPath, joinChars_blank (trim_eq_iff.mp blank), trimDots_eq last, trim]
  rw [alone]
  exact read_trim read

theorem trimChars_front (front : b.all isBlank) (first : Begins c) (last : Begins c.reverse) :
    trimChars (b ++ c) = c := by
  have start : c.dropWhile isSpace = c := dropWhile_blanks (b := []) rfl first
  have alone := trimChars_of_begins first last
  rw [trimChars, start] at alone
  rw [trimChars, dropWhile_blanks front first, alone]

theorem endsBlank_iff {a : List Char} (text : r.toList = a ++ (c ++ b)) (last : Finishes c)
    (blank : b.all isBlank) : endsBlank r ↔ b ≠ [] := by
  rw [endsBlank, text, ← List.append_assoc]
  rcases List.eq_nil_or_concat b with rfl | ⟨d, x, rfl⟩
  · obtain ⟨d, x, rfl, ink, -⟩ := last
    simp [← List.append_assoc, isBlank_of_not_isSpace ink]
  · have plain := List.all_eq_true.mp blank x (by simp)
    simp [← List.append_assoc, plain]

theorem trim_point {a : List Char} (text : r.toList = a ++ (c ++ b)) (front : a.all isBlank)
    (first : Begins c) : trimChars (r ++ ".").toList = c ++ (b ++ ['.']) := by
  have last : Begins (c ++ (b ++ ['.'])).reverse := by
    rw [← List.append_assoc, List.reverse_append]
    exact ⟨'.', _, rfl, by decide⟩
  have whole : (r ++ ".").toList = a ++ (c ++ (b ++ ['.'])) := by
    rw [String.toList_append, text]
    simp only [List.append_assoc]
    rfl
  rw [whole, trimChars_front front (first.append _) last]

theorem joinChars_point {s : List Char} {t : List Char} (pointed : trimChars s = c ++ (b ++ ['.']))
    (full : trimChars t ≠ []) : joinChars s t = c ++ (b ++ '.' :: trimChars t) := by
  have some : trimChars s ≠ [] := by
    rw [pointed]
    simp
  have last : (c ++ (b ++ ['.'])).getLast? = .some '.' := by
    rw [← List.append_assoc, List.getLast?_concat]
  rw [joinChars_full some full, pointed, joint, last]
  simp

theorem joinChars_point_blank {s t : List Char} (pointed : trimChars s = c ++ (b ++ ['.']))
    (last : Finishes c) (back : b.all isBlank) (blank : trimChars t = []) :
    joinChars s t = c ++ b := by
  have other : (c ++ b).getLast? ≠ some '.' := by
    rcases List.eq_nil_or_concat b with rfl | ⟨d, x, rfl⟩
    · rw [List.append_nil]
      exact last.getLast?
    · have plain := List.all_eq_true.mp back x (by simp)
      have apart : x ≠ '.' := by
        rintro rfl
        cases plain
      simpa [← List.append_assoc] using apart
  rw [joinChars_blank blank, pointed, ← List.append_assoc, trimDots_point, trimDots_eq other]

theorem read_point (first : Path.read r = .ok root) (some : root.segments ≠ []) (p : String) :
    (DotSeparates r p → Path.read (joinRootPath (r ++ ".") p) = Path.read (joinRootPath r p)) ∧
      (¬DotSeparates r p → ∃ fault, Path.read (joinRootPath (r ++ ".") p) = .error fault) := by
  have full := trim_of_read first some
  obtain ⟨a, b, text, front, back, linked⟩ := read_linked first full
  have blanks := endsBlank_iff text linked.last back
  have pointed := trim_point text front linked.first
  by_cases blank : trim p = ""
  · refine ⟨fun _ => ?_, fun spoils => absurd (.inl blank) spoils⟩
    rw [(read_beside_blank first blank).1, ← read_blanks first full back, Path.read, joinRootPath,
      String.toList_ofList,
      joinChars_point_blank pointed linked.last back (trim_eq_iff.mp blank)]
  have joined := joinChars_point pointed (trimChars_of_trim blank)
  rw [← trim_toList] at joined
  have solid : skipBlanks (b ++ '.' :: (trim p).toList) ≠ [] := by
    rw [skipBlanks_begins back ⟨'.', _, rfl, by decide⟩]
    exact List.cons_ne_nil _ _
  constructor
  · rintro (none | ⟨apart, bracket⟩)
    · exact absurd none blank
    obtain rfl : b = [] := by
      by_contra more
      exact apart (blanks.mpr more)
    have separated := joinChars_full (trimChars_of_trim full) (trimChars_of_trim blank)
    rw [← trim_toList, ← trim_toList, joint_attached linked.last, attached, if_neg bracket]
      at separated
    rw [joinRootPath, joinRootPath, joined, separated, List.nil_append]
  · intro spoils
    have refused (right : Break (b ++ '.' :: (trim p).toList))
        (behind : ∀ ps u, links (b ++ '.' :: (trim p).toList) = .done ps u → skipBlanks u ≠ []) :
        ∃ fault, Path.read (joinRootPath (r ++ ".") p) = .error fault := by
      rw [Path.read, joinRootPath, String.toList_ofList, joined]
      exact readChars_refused linked right solid behind
    -- Either blanks end the segments before the point, or a subscript stands right behind it.
    by_cases apart : endsBlank r
    · have loose := loose_blanks (x := '.') back (blanks.mp apart) rfl (by decide) (trim p).toList
      refine refused loose.break fun ps u read => ?_
      rw [links_loose loose] at read
      cases read
      exact solid
    · obtain rfl : b = [] := by
        by_contra more
        exact apart (blanks.mpr more)
      have bracket : (trim p).toList.head? = .some '[' := by
        by_contra other
        exact spoils (.inr ⟨apart, other⟩)
      obtain ⟨d, chars⟩ := List.head?_eq_some_iff.mp bracket
      rw [chars] at refused
      exact refused (break_joint (.inl rfl) _) fun ps u read => absurd read (links_point_bracket d)

end Path

/-- What the spellings of a root path stand for. A dot behind a root path with segments changes
nothing where it separates the root path from the path, and spoils the joined text elsewhere. Beside
the empty text every path is what it is alone, on either side; `$` adds a key instead, unless the
other side is blank, and as the other side it is a key itself. -/
theorem root_path_spellings {r p : String} {root path : Path} (first : Path.read r = .ok root)
    (second : Path.read p = .ok path) :
    (root.segments ≠ [] →
      Path.read (joinRootPath r p) = .ok ⟨root.segments ++ path.beside p⟩ ∧
      (DotSeparates r p → Path.read (joinRootPath (r ++ ".") p) = Path.read (joinRootPath r p)) ∧
      (¬DotSeparates r p → ∃ fault, Path.read (joinRootPath (r ++ ".") p) = .error fault)) ∧
    (Path.read (joinRootPath r "") = .ok root ∧
      Path.read (joinRootPath r "$") =
        .ok (if trim r = "" then root else ⟨root.beside r ++ [.field "$"]⟩)) ∧
    Path.read (joinRootPath "" p) = .ok path ∧
      Path.read (joinRootPath "$" p) =
        .ok (if trim p = "" then path else ⟨.field "$" :: path.beside p⟩) := by
  have none : trim "" = "" := rfl
  have sign : Path.read "$" = .ok ⟨[]⟩ := @Path.readChars_sign [] [] rfl rfl
  have full : trim "$" ≠ "" := by decide
  have key : Path.beside "$" ⟨[]⟩ = [.field "$"] := if_pos rfl
  refine ⟨fun some => ⟨?_, Path.read_point first some p⟩,
    ⟨(Path.read_beside_blank first none).1, ?_⟩, (Path.read_beside_blank second none).2, ?_⟩
  · by_cases blank : trim p = ""
    · rw [(Path.read_beside_blank first blank).1, Path.beside_blank second blank, List.append_nil]
    · rw [Path.read_beside first second (Path.trim_of_read first some) blank,
        Path.beside_segments first some]
  · by_cases blank : trim r = ""
    · rw [if_pos blank, (Path.read_beside_blank sign blank).2, Path.whole_of_blank first blank]
    · rw [if_neg blank, Path.read_beside first sign blank full, key]
  · by_cases blank : trim p = ""
    · rw [if_pos blank, (Path.read_beside_blank sign blank).1, Path.whole_of_blank second blank]
    · rw [if_neg blank, Path.read_beside sign second full blank, key]
      rfl

/-- A key as the root path and a subscript behind it. -/
theorem root_path_spellings_subscript :
    ([.field "a"] : List Segment) ≠ [] ∧ ¬DotSeparates "a" "[0]" ∧ DotSeparates "a" "" ∧
      Path.read (joinRootPath "a" "[0]") = .ok ⟨[.field "a", .index (.single 0)]⟩ ∧
      (∃ fault, Path.read (joinRootPath ("a" ++ ".") "[0]") = .error fault) ∧
      Path.read (joinRootPath ("a" ++ ".") "") = .ok ⟨[.field "a"]⟩ ∧
      Path.read (joinRootPath "a" "$") = .ok ⟨[.field "a", .field "$"]⟩ ∧
      Path.read (joinRootPath "$" "[0]") = .ok ⟨[.field "$", .index (.single 0)]⟩ := by
  have key : Path.read "a" = .ok ⟨[.field "a"]⟩ := rfl
  have item : Path.read "[0]" = .ok ⟨[.index (.single 0)]⟩ := rfl
  have whole : Path.read "" = .ok ⟨[]⟩ := rfl
  have spoils : ¬DotSeparates "a" "[0]" := by decide
  have separates : DotSeparates "a" "" := by decide
  have some : ([.field "a"] : List Segment) ≠ [] := nofun
  obtain ⟨dots, ⟨-, behind⟩, -, front⟩ := root_path_spellings key item
  obtain ⟨joined, -, refused⟩ := dots some
  obtain ⟨alone, same, -⟩ := (root_path_spellings key whole).1 some
  exact ⟨some, spoils, separates, joined, refused spoils, (same separates).trans alone, behind,
    front⟩

end DocPath
