import DocPath.Proofs.Element
import DocPath.Proofs.Html.Listing
import DocPath.Proofs.Value.Equality

/-!
Lenient markup that is nested as it should be builds the tree that it spells. The parts of some
children, read with any elements open around them, leave these open and put the children behind
what the innermost one holds.
-/

namespace DocPath

def textsMeet (before behind : List Child) : Bool :=
  endsWithText before && behind.head?.any Child.isText

theorem textsMeet_concat (before behind : List Child) (c : Child) :
    textsMeet (before ++ [c]) behind = textsMeet [c] behind := by
  rw [textsMeet, endsWithText_concat]
  rfl

namespace Html

mutual
/-- Whether an element can be spelled: it has no namespace, no text next to text, and nothing in it
if it is one that has no content; so do all elements below. -/
def isPlain : Element → Bool
  | .mk name space _ children =>
    space.isNone && (!isVoid name || children.isEmpty) && childrenPlain children
def childPlain : Child → Bool
  | .text _ => true
  | .element e => isPlain e
def childrenPlain : List Child → Bool
  | [] => true
  | c :: cs => childPlain c && !textsMeet [c] cs && childrenPlain cs
end

/-- The parts that spell children. A tag comes with attributes that amount to those of its element,
and an end tag with a name that matches; text stands as it is or in literal form. -/
inductive Spells : List Child → List Event → Prop where
  | nil : Spells [] []
  | text (s : String) {cs : List Child} {events : List Event} :
    Spells cs events → Spells (.text s :: cs) (.text s :: events)
  | cdata (s : String) {cs : List Child} {events : List Event} :
    Spells cs events → Spells (.text s :: cs) (.cdata s :: events)
  | whole (name : String) (attributes : List (String × String)) {closing : String}
      {inside cs : List Child} {within events : List Event} :
    sameName name closing → Spells inside within → Spells cs events →
      Spells (.element (.mk name none (entriesOf attributes) inside) :: cs)
        (.start name attributes :: (within ++ .close closing :: events))
  | empty (name : String) (attributes : List (String × String)) {cs : List Child}
      {events : List Event} :
    Spells cs events → Spells (.element (ofTag name attributes) :: cs)
      (.empty name attributes :: events)
  | void (name : String) (attributes : List (String × String)) {cs : List Child}
      {events : List Event} :
    isVoid name → Spells cs events → Spells (.element (ofTag name attributes) :: cs)
      (.start name attributes :: events)

mutual
theorem exists_spells_element : ∀ e : Element, isPlain e → e.isKeyed →
    ∀ {cs : List Child} {events : List Event}, Spells cs events →
      ∃ more, Spells (.element e :: cs) more
  | .mk name space attributes inside, plain, keyed, cs, events, rest => by
    simp only [isPlain, Bool.and_eq_true, Option.isNone_iff_eq_none] at plain
    simp only [Element.isKeyed, Bool.and_eq_true, decide_eq_true_eq] at keyed
    obtain ⟨within, spelled⟩ := exists_spells inside plain.2 keyed.2
    have whole := Spells.whole name attributes (beq_self_eq_true (lowerAscii name)) spelled rest
    rw [entriesOf_of_nodup keyed.1, ← plain.1.1] at whole
    exact ⟨_, whole⟩
theorem exists_spells_child : ∀ c : Child, childPlain c → c.isKeyed →
    ∀ {cs : List Child} {events : List Event}, Spells cs events → ∃ more, Spells (c :: cs) more
  | .text s, _, _, _, _, rest => ⟨_, .text s rest⟩
  | .element e, plain, keyed, _, _, rest => exists_spells_element e plain keyed rest
theorem exists_spells : ∀ cs : List Child, childrenPlain cs → childrenKeyed cs →
    ∃ events, Spells cs events
  | [], _, _ => ⟨_, .nil⟩
  | c :: cs, plain, keyed => by
    simp only [childrenPlain, Bool.and_eq_true] at plain
    rw [childrenKeyed, Bool.and_eq_true] at keyed
    obtain ⟨events, rest⟩ := exists_spells cs plain.2 keyed.2
    exact exists_spells_child c plain.1.1 keyed.1 rest
end

namespace Stack

/-- No open element is one that has no content. -/
def HasContent (stack : Stack) : Prop := ∀ e ∈ stack.opened, isVoid e.name = false

variable {top : Element} {below : Stack}

theorem HasContent.push (has : below.HasContent) (content : isVoid top.name = false) :
    HasContent (top :: below) := by
  cases below with
  | nil => exact fun _ mem => nomatch mem
  | cons d es => exact List.forall_mem_cons.mpr ⟨content, has⟩

theorem HasContent.rename (has : HasContent (top :: below)) {e : Element}
    (same : e.name = top.name) : HasContent (e :: below) := by
  cases below with
  | nil => exact fun _ mem => nomatch mem
  | cons d es =>
    obtain ⟨first, rest⟩ := List.forall_mem_cons.mp has
    exact List.forall_mem_cons.mpr ⟨same ▸ first, rest⟩

theorem closeNamed_cons {e : Element} {closing : String} (same : sameName e.name closing) :
    closeNamed closing (e :: top :: below) = top.withChild e :: below := by
  have first : (opened (e :: top :: below)).findIdx? (fun d => sameName d.name closing) =
      some 0 := by
    rw [opened, List.dropLast_cons_cons, List.findIdx?_cons, if_pos same]
  rw [closeNamed, first]
  rfl

theorem HasContent.closeNamed {stack : Stack} (has : stack.HasContent) {name closing : String}
    (void : isVoid name) (same : sameName name closing) : stack.closeNamed closing = stack := by
  refine closeNamed_none fun e mem => ?_
  rw [sameName, beq_eq_false_iff_ne]
  intro other
  have names : lowerAscii e.name = lowerAscii name := other.trans (beq_iff_eq.mp same).symm
  have content := has e mem
  rw [isVoid, names, ← isVoid, void] at content
  cases content

end Stack

/-- Parts that put children into the innermost element and leave open what is open. -/
def Puts (cs : List Child) (events : List Event) : Prop :=
  ∀ (top : Element) (below : Stack), Stack.HasContent (top :: below) →
    textsMeet top.children cs = false →
    events.foldl Event.apply (top :: below) = top.withChildren cs :: below

theorem Puts.behind {c : Child} {cs : List Child} {events : List Event} (puts : Puts cs events)
    (plain : childrenPlain (c :: cs)) {top : Element} {below : Stack}
    (has : Stack.HasContent (top :: below)) :
    events.foldl Event.apply (top.withChildren [c] :: below) =
      top.withChildren (c :: cs) :: below := by
  simp only [childrenPlain, Bool.and_eq_true, Bool.not_eq_true'] at plain
  have apart : textsMeet (top.withChildren [c]).children cs = false := by
    rw [Element.withChildren, Element.children, textsMeet_concat]
    exact plain.1.2
  have still : Stack.HasContent (top.withChildren [c] :: below) := has.rename rfl
  rw [puts _ _ still apart, Element.withChildren_withChildren, List.singleton_append]

/-- A tag, what is in its element and the end tag add one child. An element that has no content is
not opened, and its end tag matches none that is open. -/
theorem Puts.element {name closing : String} {attributes : List (String × String)}
    {inside : List Child} {within : List Event} (puts : Puts inside within)
    (same : sameName name closing) (content : isVoid name = true → inside = []) {top : Element}
    {below : Stack} (has : Stack.HasContent (top :: below)) :
    Event.apply (within.foldl Event.apply (Event.apply (top :: below) (.start name attributes)))
        (.close closing) =
      top.withChild (.mk name none (entriesOf attributes) inside) :: below := by
  have start : Event.apply (top :: below) (.start name attributes) =
      if isVoid name then top.withChild (ofTag name attributes) :: below
      else ofTag name attributes :: top :: below := rfl
  rw [start]
  split
  · next void =>
    obtain rfl : inside = [] := content void
    have added : Stack.HasContent (top.withChild (ofTag name attributes) :: below) :=
      has.rename rfl
    have inner := puts (top.withChild (ofTag name attributes)) below added (Bool.and_false _)
    rw [Element.withChildren_nil] at inner
    rw [inner]
    exact added.closeNamed void same
  · next other =>
    have pushed : Stack.HasContent (ofTag name attributes :: top :: below) :=
      has.push (Bool.eq_false_iff.mpr other)
    have filled : (ofTag name attributes).withChildren inside =
        .mk name none (entriesOf attributes) inside := rfl
    rw [puts _ _ pushed rfl, filled]
    exact Stack.closeNamed_cons same

theorem Spells.puts {cs : List Child} {events : List Event} (spelled : Spells cs events)
    (plain : childrenPlain cs) : Puts cs events := by
  induction spelled with
  | nil =>
    intro top below _ _
    rw [List.foldl_nil, Element.withChildren_nil]
  | text s _ ih | cdata s _ ih =>
    intro top below has apart
    have tail := (Bool.and_eq_true_iff.mp plain).2
    have ends : endsWithText top.children = false := by
      simpa [textsMeet, Child.isText] using apart
    rw [List.foldl_cons, ← (ih tail).behind plain has, ← Element.withText_eq ends]
    rfl
  | @whole name attributes closing inside cs within events same _ _ ih_within ih =>
    intro top below has _
    obtain ⟨first, tail⟩ := Bool.and_eq_true_iff.mp plain
    have child := (Bool.and_eq_true_iff.mp first).1
    simp only [childPlain, isPlain, Bool.and_eq_true, Bool.or_eq_true, Bool.not_eq_true'] at child
    obtain ⟨⟨-, content⟩, inner⟩ := child
    have void (void : isVoid name = true) : inside = [] := by simpa [void] using content
    -- The parts inside are run on the pushed element, the end tag closes it, and the rest goes on.
    rw [List.foldl_cons, List.foldl_append, List.foldl_cons,
      (ih_within inner).element same void has, Element.withChild_eq, (ih tail).behind plain has]
  | empty name attributes rest ih =>
    intro top below has _
    have tail := (Bool.and_eq_true_iff.mp plain).2
    rw [List.foldl_cons, ← (ih tail).behind plain has, ← Element.withChild_eq]
    rfl
  | void name attributes void rest ih =>
    intro top below has _
    have tail := (Bool.and_eq_true_iff.mp plain).2
    rw [List.foldl_cons, ← (ih tail).behind plain has, ← Element.withChild_eq, Event.apply,
      if_pos void]
    rfl

/-- Well-nested markup builds the tree that it spells, however deep it is and however often one name
stands inside itself; the tree is all that the document holds. Each tree whose attributes have
different names is spelled by some markup. -/
theorem nested_markup_builds_tree (t : Element) (plain : isPlain t) :
    (t.isKeyed → ∃ events, Spells [.element t] events) ∧
      ∀ events, Spells [.element t] events →
        documentOf events = (Element.empty "#document").withChild t ∧ rootOf events = t := by
  have children : childrenPlain [.element t] := by
    rw [childrenPlain, childPlain, plain]
    rfl
  refine ⟨fun keyed => exists_spells_element t plain keyed .nil, fun events spelled => ?_⟩
  have stack : stackOf events = [(Element.empty "#document").withChild t] :=
    spelled.puts children _ [] (fun _ mem => nomatch mem) rfl
  have document : documentOf events = (Element.empty "#document").withChild t := by
    rw [documentOf, stack]
    rfl
  refine ⟨document, ?_⟩
  rw [rootOf, document]
  rfl

/-- A name inside itself, an end tag in other letters, and elements without content in each of
their forms. -/
theorem nested_markup_builds_tree_lists :
    let item : Element := .mk "li" none [("id", "2")]
      [.text "a", .element (.mk "BR" none [] []), .text "b",
        .element (.mk "br" none [] []), .element (.mk "p" none [] [])]
    let list : Element := .mk "li" none [] [.element (.mk "ul" none [] [.element item])]
    let events : List Event :=
      [.start "li" [], .start "ul" [], .start "li" [("id", "1"), ("id", "2")], .text "a",
        .start "BR" [], .cdata "b", .start "br" [], .close "Br", .empty "p" [], .close "LI",
        .close "ul", .close "li"]
    isPlain list ∧ list.isKeyed ∧ Spells [.element list] events ∧
      documentOf events = (Element.empty "#document").withChild list ∧ rootOf events = list := by
  intro item list events
  have content : Spells item.children
      [.text "a", .start "BR" [], .cdata "b", .start "br" [], .close "Br", .empty "p" []] :=
    .text "a" (.void "BR" [] (by decide) (.cdata "b"
      (.whole "br" [] (by decide) .nil (.empty "p" [] .nil))))
  have inner : Spells [.element item] _ :=
    .whole "li" [("id", "1"), ("id", "2")] (by decide : sameName "li" "LI") content .nil
  have spelled : Spells [.element list] events :=
    .whole "li" [] (by decide : sameName "li" "li")
      (.whole "ul" [] (by decide : sameName "ul" "ul") inner .nil) .nil
  have plain : isPlain list := by decide
  exact ⟨plain, by decide, spelled, (nested_markup_builds_tree list plain).2 events spelled⟩

end Html

end DocPath
