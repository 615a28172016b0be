import Mathlib.Data.List.Forall2
import DocPath.Proofs.Element.Grouping
import DocPath.Proofs.Element.Traversal
import DocPath.Proofs.Json.Delimited

/-!
What the document that stands for an element says. It says the attributes and either the text of a
leaf or, name by name, the child elements, which it says the same way. So two elements are written
as one text exactly if they are alike in this, provided that no child element has a name that could
be taken for an attribute or for text.
-/

namespace DocPath

/-- A name that is neither written like an attribute nor like the text of a leaf. -/
def IsPlainName (name : String) : Prop :=
  name.toList.head? ≠ some '@' ∧ name.toList.head? ≠ some '#'

instance (name : String) : Decidable (IsPlainName name) := inferInstanceAs (Decidable (_ ∧ _))

namespace Element

def childNames (e : Element) : List String := (e.elements.map name).eraseDups

/-- No child element in the tree is named like an attribute or like the text of a leaf. -/
def PlainNames (e : Element) : Prop :=
  ∀ f ∈ e.preorder, ∀ c ∈ f.elements, IsPlainName c.name

instance (e : Element) : Decidable e.PlainNames :=
  inferInstanceAs (Decidable (∀ f ∈ e.preorder, ∀ c ∈ f.elements, IsPlainName c.name))

/-- Elements with the same attributes that are both leaves with the same text, or both have child
elements, of the same names in order of first occurrence and alike one by one under each name. -/
inductive Alike : Element → Element → Prop
  | leaf {e e' : Element} (attributes : e.attributes = e'.attributes) (leaf : e.isLeaf)
      (leaf' : e'.isLeaf) (text : e.text = e'.text) : Alike e e'
  | inner {e e' : Element} (attributes : e.attributes = e'.attributes) (inner : ¬e.isLeaf)
      (inner' : ¬e'.isLeaf) (names : e.childNames = e'.childNames)
      (children : ∀ n ∈ e.childNames, List.Forall₂ Alike (e.named n) (e'.named n)) : Alike e e'

theorem mem_childNames {e : Element} {n : String} :
    n ∈ e.childNames ↔ ∃ c ∈ e.elements, c.name = n := by
  rw [childNames, List.mem_eraseDups, List.mem_map]

section Two

variable {e e' : Element}

theorem PlainNames.child (plain : e.PlainNames) {n : String} (mem : n ∈ e.childNames) :
    IsPlainName n := by
  obtain ⟨c, child, rfl⟩ := mem_childNames.mp mem
  exact plain e (by rw [preorder_eq]; exact List.mem_cons_self) c child

theorem PlainNames.below (plain : e.PlainNames) {c : Element} (mem : c ∈ e.elements) :
    c.PlainNames := by
  intro f among
  refine plain f ?_
  rw [preorder_eq]
  exact List.mem_cons_of_mem e (List.mem_flatMap.mpr ⟨c, mem, among⟩)

end Two

theorem forall₂_congr {α β : Type} {R S : α → β → Prop} {as : List α} {bs : List β}
    (same : ∀ a ∈ as, ∀ b ∈ bs, R a b ↔ S a b) : List.Forall₂ R as bs ↔ List.Forall₂ S as bs := by
  induction as generalizing bs with
  | nil => cases bs <;> simp
  | cons a as ih =>
    cases bs with
    | nil => simp
    | cons b bs =>
      have later := ih fun x mem y among =>
        same x (List.mem_cons_of_mem a mem) y (List.mem_cons_of_mem b among)
      rw [List.forall₂_cons, List.forall₂_cons, same a List.mem_cons_self b List.mem_cons_self,
        later]

end Element

end DocPath
