import DocPath.Eval.Basic

/-!
An element and the list of it alone. Segments that move down in a document do not tell them apart:
a key is looked up in the children of either, and for a subscript, a wildcard, descent and spread
an element counts as the only item. An attribute of a list of elements is a list, and methods see
what they are called on.
-/

namespace DocPath

/-- Segments that move down from an element; attributes and calls do not. -/
def Segment.stepsDown : Segment → Bool
  | .field name | .index (.key name) => name.toList.head? != some '@'
  | .index _ | .wildcard | .descent | .spread _ => true
  | .call .. => false

def Path.stepsDown (p : Path) : Bool := p.segments.head?.any Segment.stepsDown

variable {e : Element} {name : String}

theorem Element.field_list (plain : name.toList.head? ≠ some '@') :
    ∃ found, e.field name = .list found := by
  unfold Element.field
  split
  · next key spelled => exact absurd (congrArg List.head? spelled) plain
  · split
    · exact ⟨_, rfl⟩
    · exact ⟨_, rfl⟩

namespace Value

theorem field_single (plain : name.toList.head? ≠ some '@') :
    (list [.node e]).field name = (node e).field name := by
  obtain ⟨found, field⟩ := e.field_list plain
  simp only [Value.field, itemFields, field, spliced, bind, Except.bind, List.append_nil]
  rfl

theorem childValues_single : (list [.node e]).childValues = (node e).childValues := by
  simp only [childValues, itemChildren, bind, Except.bind, List.append_nil]

theorem descent_single : (list [.node e]).descent = (node e).descent := by
  simp only [descent, itemDescent, List.append_nil]

end Value

theorem Segment.eval_single {g : Segment} (down : g.stepsDown) (e : Element) (scope : Scope) :
    g.eval (.list [.node e]) scope = g.eval (.node e) scope := by
  cases g with
  | field name =>
    have plain : name.toList.head? ≠ some '@' := by simpa [stepsDown] using down
    simp only [Segment.eval, Value.field_single plain]
  | index selector =>
    cases selector with
    | key name =>
      have plain : name.toList.head? ≠ some '@' := by simpa [stepsDown] using down
      simp only [Segment.eval, Selector.apply, Value.field_single plain]
    | single i => simp only [Segment.eval, Selector.apply]
    | range first last inclusive => simp only [Segment.eval, Selector.apply]
  | wildcard => simp only [Segment.eval, Value.childValues_single]
  | descent => simp only [Segment.eval, Value.descent_single]
  | spread inner => simp only [Segment.eval, Value.items]
  | call name args => cases down

namespace Path

variable {p : Path}

theorem ne_nil_of_stepsDown (down : p.stepsDown) : p.segments ≠ [] := by
  intro none
  simp [stepsDown, none] at down

/-- Only the first segment sees whether the element is in a list. -/
theorem eval_single (down : p.stepsDown) (e : Element) (params : List (String × Value)) :
    p.eval (.list [.node e]) params = p.eval (.node e) params := by
  obtain ⟨segments⟩ := p
  cases segments with
  | nil => cases down
  | cons g gs =>
    have first : g.stepsDown := by simpa [stepsDown] using down
    simp only [eval, evalFrom, g.eval_single first]

end Path

end DocPath
