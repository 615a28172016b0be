import DocPath.Element

/-!
Elements that get children behind those they have. Readers build elements child by child; text
becomes a child of its own where it does not come to stand behind text.
-/

namespace DocPath

namespace Child

def isText : Child → Bool
  | .text _ => true
  | .element _ => false

end Child

def endsWithText (cs : List Child) : Bool := cs.getLast?.any Child.isText

theorem endsWithText_concat (cs : List Child) (c : Child) :
    endsWithText (cs ++ [c]) = c.isText := by
  rw [endsWithText, List.getLast?_concat]
  rfl

theorem appendText_eq {s : String} {cs : List Child} (apart : endsWithText cs = false) :
    appendText s cs = cs ++ [.text s] := by
  induction cs with
  | nil => rfl
  | cons c cs ih =>
    cases cs with
    | nil =>
      cases c with
      | text t => cases apart
      | element e => rfl
    | cons d ds =>
      rw [endsWithText, List.getLast?_cons_cons] at apart
      have behind : appendText s (c :: d :: ds) = c :: appendText s (d :: ds) := by
        cases c <;> rfl
      exact behind.trans (congrArg (c :: ·) (ih apart))

namespace Element

def withChildren (e : Element) (cs : List Child) : Element :=
  .mk e.name e.space e.attributes (e.children ++ cs)

variable {e : Element}

theorem withChildren_nil : e.withChildren [] = e := by
  cases e
  simp only [withChildren, name, space, attributes, children, List.append_nil]

theorem withChildren_withChildren (cs ds : List Child) :
    (e.withChildren cs).withChildren ds = e.withChildren (cs ++ ds) := by
  simp only [withChildren, name, space, attributes, children, List.append_assoc]

theorem withChild_eq (c : Element) : e.withChild c = e.withChildren [.element c] := rfl

theorem withText_eq {s : String} (apart : endsWithText e.children = false) :
    e.withText s = e.withChildren [.text s] := by
  rw [withText, appendText_eq apart, withChildren]

end Element

end DocPath
