import DocPath.Text.Basic

/-!
A count of the marks in a text that tell its words apart: points, quotes, backslashes and the
letters of exponents and code points. A point counts less after the end of a number, where it may
be the point of a fraction.
-/

namespace DocPath

def isTail (c : Char) : Bool := isDigit c || c = 'f' || c = 'N'

/-- What a character counts, by whether a number may end before it. -/
def mark (tail : Bool) (c : Char) : Nat :=
  if c = '.' then (if tail then 1 else 2)
  else if c = '"' || c = 'u' || c = 'e' || c = 'E' then 2
  else if c = '\'' || c = '\\' then 1
  else 0

def marks : (tail : Bool) → List Char → Nat
  | _, [] => 0
  | tail, c :: cs => mark tail c + marks (isTail c) cs

/-- Whether a number may end at the end of a text. -/
def tailOf : (tail : Bool) → List Char → Bool
  | tail, [] => tail
  | _, c :: cs => tailOf (isTail c) cs

theorem marks_append (tail : Bool) (cs ds : List Char) :
    marks tail (cs ++ ds) = marks tail cs + marks (tailOf tail cs) ds := by
  induction cs generalizing tail with
  | nil => simp only [List.nil_append, marks, tailOf, Nat.zero_add]
  | cons c cs ih => simp only [List.cons_append, marks, tailOf, ih, Nat.add_assoc]

theorem tailOf_append (tail : Bool) (cs ds : List Char) :
    tailOf tail (cs ++ ds) = tailOf (tailOf tail cs) ds := by
  induction cs generalizing tail with
  | nil => rfl
  | cons c cs ih => exact ih (isTail c)

theorem tailOf_concat (tail : Bool) (cs : List Char) (c : Char) :
    tailOf tail (cs ++ [c]) = isTail c := by
  rw [tailOf_append]
  rfl

theorem mark_true_le (tail : Bool) (c : Char) : mark true c ≤ mark tail c := by
  unfold mark
  split
  · cases tail <;> decide
  · exact Nat.le_refl _

theorem mark_le_false (tail : Bool) (c : Char) : mark tail c ≤ mark false c := by
  unfold mark
  split
  · cases tail <;> decide
  · exact Nat.le_refl _

theorem mark_le_two (tail : Bool) (c : Char) : mark tail c ≤ 2 := by
  unfold mark
  repeat' split
  all_goals omega

theorem marks_true_le (tail : Bool) (cs : List Char) : marks true cs ≤ marks tail cs := by
  cases cs with
  | nil => exact Nat.le_refl _
  | cons c cs => exact Nat.add_le_add_right (mark_true_le tail c) _

theorem marks_start {c : Char} (other : c ≠ '.') (tail : Bool) (cs : List Char) :
    marks tail (c :: cs) = marks false (c :: cs) := by
  simp only [marks, mark, other, if_false]

theorem marks_of_head {cs : List Char} (other : cs.head? ≠ some '.') (tail : Bool) :
    marks tail cs = marks false cs := by
  cases cs with
  | nil => rfl
  | cons c cs => exact marks_start (by simpa using other) tail cs

theorem marks_point (tail : Bool) (cs : List Char) :
    marks tail ('.' :: cs) = (if tail then 1 else 2) + marks false cs := by
  cases tail <;> rfl

theorem isTail_of_isDigit {c : Char} (h : isDigit c) : isTail c := by
  simp [isTail, h]

theorem mark_of_isDigit {c : Char} (h : isDigit c) (tail : Bool) : mark tail c = 0 := by
  have ne (d : Char) (other : isDigit d = false) : c ≠ d := by
    rintro rfl
    rw [other] at h
    cases h
  simp [mark, ne '.' (by decide), ne '"' (by decide), ne 'u' (by decide), ne 'e' (by decide),
    ne 'E' (by decide), ne '\'' (by decide), ne '\\' (by decide)]

theorem marks_digits {ds : List Char} (h : ds.all isDigit) (tail : Bool) : marks tail ds = 0 := by
  induction ds generalizing tail with
  | nil => rfl
  | cons d ds ih =>
    simp only [List.all_cons, Bool.and_eq_true] at h
    simp only [marks, mark_of_isDigit h.1, ih h.2]

theorem tailOf_digits {ds : List Char} (h : ds.all isDigit) (some : ds ≠ []) (tail : Bool) :
    tailOf tail ds = true := by
  induction ds generalizing tail with
  | nil => exact absurd rfl some
  | cons d ds ih =>
    simp only [List.all_cons, Bool.and_eq_true] at h
    rw [tailOf, isTail_of_isDigit h.1]
    cases ds with
    | nil => rfl
    | cons e es => exact ih h.2 (by simp) true

end DocPath
