import DocPath.Html.Event
import DocPath.Proofs.Element.Traversal

/-!
What lenient markup lists. The parts of a document put tags and characters one behind the other,
and the tree that they make lists the same tags and characters in its order, whether end tags
match or not. At every step the elements under construction list what was read so far: closing one
moves it to its place without moving what it lists.
-/

namespace DocPath

/-- A tag with its attributes, or a character of text. -/
inductive Mark where
  | tag (name : String) (attributes : List (String × String))
  | char (c : Char)
  deriving DecidableEq

def textMarks (s : String) : List Mark := s.toList.map .char

theorem textMarks_append (s t : String) : textMarks (s ++ t) = textMarks s ++ textMarks t := by
  simp only [textMarks, String.toList_append, List.map_append]

mutual
/-- What an element lists: its own tag, and then what stands in it. -/
def Element.marks : Element → List Mark
  | .mk name _ attributes cs => .tag name attributes :: marksOf cs
def Child.marks : Child → List Mark
  | .text s => textMarks s
  | .element e => e.marks
def marksOf : List Child → List Mark
  | [] => []
  | c :: cs => c.marks ++ marksOf cs
end

theorem marksOf_append (cs ds : List Child) : marksOf (cs ++ ds) = marksOf cs ++ marksOf ds := by
  induction cs with
  | nil => simp only [List.nil_append, marksOf]
  | cons c cs ih => simp only [List.cons_append, marksOf, ih, List.append_assoc]

theorem marksOf_appendText (s : String) (cs : List Child) :
    marksOf (appendText s cs) = marksOf cs ++ textMarks s := by
  fun_induction appendText s cs with
  | case1 => simp only [marksOf, Child.marks, List.append_nil, List.nil_append]
  | case2 t => simp only [marksOf, Child.marks, textMarks_append, List.append_nil]
  | case3 c cs _ ih => rw [marksOf, ih, marksOf, List.append_assoc]

namespace Element

/-- A change of an element that only puts marks behind those of its content. -/
structure Adds (f : Element → Element) (ms : List Mark) : Prop where
  name : ∀ e, (f e).name = e.name
  attributes : ∀ e, (f e).attributes = e.attributes
  content : ∀ e, marksOf (f e).children = marksOf e.children ++ ms

theorem adds_withText (s : String) : Adds (·.withText s) (textMarks s) :=
  ⟨fun _ => rfl, fun _ => rfl, fun e => marksOf_appendText s e.children⟩

theorem adds_withChild (c : Element) : Adds (·.withChild c) c.marks := by
  refine ⟨fun _ => rfl, fun _ => rfl, fun e => ?_⟩
  show marksOf (e.children ++ [.element c]) = _
  simp only [marksOf_append, marksOf, Child.marks, List.append_nil]

theorem marks_eq (e : Element) : e.marks = .tag e.name e.attributes :: marksOf e.children := by
  cases e
  rw [marks]
  rfl

theorem Adds.marks {f : Element → Element} {ms : List Mark} (adds : Adds f ms) (e : Element) :
    (f e).marks = e.marks ++ ms := by
  rw [marks_eq, marks_eq, adds.name, adds.attributes, adds.content, List.cons_append]

/-! The elements in depth first order are the tags that are listed. -/

def tag (e : Element) : Mark := .tag e.name e.attributes

end Element

def Mark.isTag : Mark → Bool
  | .tag .. => true
  | .char _ => false

theorem filter_marksOf (cs : List Child) :
    (marksOf cs).filter Mark.isTag =
      (childElements cs).flatMap fun e => e.marks.filter Mark.isTag := by
  induction cs with
  | nil => simp only [marksOf, childElements, List.filter_nil, List.flatMap_nil]
  | cons c cs ih =>
    cases c with
    | text s =>
      have none : (textMarks s).filter Mark.isTag = [] := by
        simp [textMarks, List.filter_eq_nil_iff, Mark.isTag]
      rw [marksOf, Child.marks, List.filter_append, none, ih, childElements, List.nil_append]
    | element e =>
      rw [marksOf, Child.marks, List.filter_append, ih, childElements, List.flatMap_cons]

namespace Element

theorem filter_marks (e : Element) : e.marks.filter Mark.isTag =
    e.tag :: e.elements.flatMap fun c => c.marks.filter Mark.isTag := by
  have own : (Mark.tag e.name e.attributes).isTag = true := rfl
  rw [marks_eq, List.filter_cons, if_pos own, filter_marksOf]
  rfl

theorem depthFirst_tags (e : Element) : e.depthFirst.map tag = e.marks.filter Mark.isTag := by
  rw [depthFirst_eq]
  induction e using elementsInduction with
  | step e below =>
    rw [preorder_eq, filter_marks, List.map_cons, List.map_flatMap, List.flatMap_congr below]

end Element

namespace Html

namespace Stack

def marks : Stack → List Mark
  | [] => []
  | [document] => marksOf document.children
  | e :: es => marks es ++ e.marks

variable {stack : Stack} {ms : List Mark}

theorem marks_cons (e : Element) (full : stack ≠ []) :
    marks (e :: stack) = stack.marks ++ e.marks := by
  cases stack with
  | nil => exact absurd rfl full
  | cons d es => rfl

theorem marks_modify {f : Element → Element} (adds : Element.Adds f ms) (full : stack ≠ []) :
    (stack.modify f).marks = stack.marks ++ ms := by
  cases stack with
  | nil => exact absurd rfl full
  | cons e es =>
    cases es with
    | nil => exact adds.content e
    | cons d es =>
      rw [modify, marks_cons _ (List.cons_ne_nil d es), marks_cons _ (List.cons_ne_nil d es),
        adds.marks, List.append_assoc]

theorem close_cons (e : Element) (full : stack ≠ []) : close (e :: stack) = stack.addChild e := by
  cases stack with
  | nil => exact absurd rfl full
  | cons parent es => rfl

theorem marks_close (stack : Stack) : stack.close.marks = stack.marks := by
  cases stack with
  | nil => rfl
  | cons e es =>
    by_cases full : es = []
    · rw [full]
      rfl
    · rw [close_cons e full, marks_cons e full]
      exact marks_modify (Element.adds_withChild e) full

theorem marks_closeMany (n : Nat) (stack : Stack) : (closeMany n stack).marks = stack.marks := by
  induction n generalizing stack with
  | zero => rfl
  | succ n ih => rw [closeMany, ih, marks_close]

theorem marks_closeNamed (name : String) (stack : Stack) :
    (stack.closeNamed name).marks = stack.marks := by
  unfold closeNamed
  split
  · exact marks_closeMany _ stack
  · rfl

def OnDocument (stack : Stack) : Prop :=
  ∃ opened document, stack = opened ++ [document] ∧ document.name = "#document" ∧
    document.attributes = []

theorem onDocument_start : start.OnDocument := ⟨[], _, rfl, rfl, rfl⟩

theorem OnDocument.ne_nil (on : stack.OnDocument) : stack ≠ [] := by
  obtain ⟨opened, document, rfl, -⟩ := on
  simp

theorem OnDocument.push (on : stack.OnDocument) (e : Element) : OnDocument (e :: stack) := by
  obtain ⟨opened, document, rfl, named⟩ := on
  exact ⟨e :: opened, document, rfl, named⟩

theorem OnDocument.modify {f : Element → Element} (on : stack.OnDocument)
    (adds : Element.Adds f ms) : (stack.modify f).OnDocument := by
  obtain ⟨opened, document, rfl, name, attributes⟩ := on
  cases opened with
  | nil =>
    exact ⟨[], f document, rfl, (adds.name document).trans name,
      (adds.attributes document).trans attributes⟩
  | cons e opened => exact ⟨f e :: opened, document, rfl, name, attributes⟩

theorem OnDocument.close (on : stack.OnDocument) : stack.close.OnDocument := by
  obtain ⟨opened, document, rfl, named⟩ := on
  cases opened with
  | nil => exact ⟨[], document, rfl, named⟩
  | cons e opened =>
    have below : OnDocument (opened ++ [document]) := ⟨opened, document, rfl, named⟩
    rw [List.cons_append, close_cons e below.ne_nil]
    exact below.modify (Element.adds_withChild e)

theorem OnDocument.closeMany (on : stack.OnDocument) (n : Nat) :
    (closeMany n stack).OnDocument := by
  induction n generalizing stack with
  | zero => exact on
  | succ n ih => exact ih on.close

theorem closeNamed_none {name : String}
    (apart : ∀ e ∈ stack.opened, sameName e.name name = false) : stack.closeNamed name = stack := by
  have none : (stack.opened.findIdx? fun e => sameName e.name name) = none :=
    List.findIdx?_eq_none_iff.mpr apart
  rw [closeNamed, none]

theorem OnDocument.closeNamed (on : stack.OnDocument) (name : String) :
    (stack.closeNamed name).OnDocument := by
  unfold Stack.closeNamed
  split
  · exact on.closeMany _
  · exact on

theorem length_closeMany {n : Nat} (enough : n < stack.length) :
    (closeMany n stack).length = stack.length - n := by
  induction n generalizing stack with
  | zero => rfl
  | succ n ih =>
    obtain ⟨e, parent, es, rfl⟩ : ∃ e parent es, stack = e :: parent :: es := by
      match stack, enough with
      | e :: parent :: es, _ => exact ⟨e, parent, es, rfl⟩
    rw [closeMany, close, ih (by simpa using enough), List.length_cons, List.length_cons,
      List.length_cons]
    omega

theorem OnDocument.closeAll (on : stack.OnDocument) :
    ∃ document, stack.closeAll = [document] ∧ document.name = "#document" ∧
      document.attributes = [] := by
  have some := List.length_pos_iff.mpr on.ne_nil
  have length : stack.closeAll.length = 1 := by
    rw [Stack.closeAll, opened, List.length_dropLast, length_closeMany (by omega)]
    omega
  obtain ⟨document, alone⟩ := List.length_eq_one_iff.mp length
  obtain ⟨opened, bottom, whole, named⟩ := on.closeMany stack.opened.length
  have same : [] ++ [document] = opened ++ [bottom] := alone.symm.trans whole
  obtain ⟨-, only⟩ := List.append_inj' same rfl
  obtain rfl := List.singleton_inj.mp only
  exact ⟨document, alone, named⟩

end Stack

def Event.marks : Event → List Mark
  | .start name attributes | .empty name attributes => [.tag name (entriesOf attributes)]
  | .text s | .cdata s => textMarks s
  | .close _ | .ignored => []

theorem marks_ofTag (name : String) (attributes : List (String × String)) :
    (ofTag name attributes).marks = [.tag name (entriesOf attributes)] := by
  simp only [ofTag, Element.marks, marksOf]

section Run

variable {stack : Stack}

theorem Event.marks_apply (full : stack ≠ []) (event : Event) :
    (event.apply stack).marks = stack.marks ++ event.marks := by
  cases event with
  | start name attributes =>
    rw [apply, Event.marks, ← marks_ofTag]
    split
    · exact Stack.marks_modify (Element.adds_withChild _) full
    · exact Stack.marks_cons _ full
  | empty name attributes =>
    rw [apply, Event.marks, ← marks_ofTag]
    exact Stack.marks_modify (Element.adds_withChild _) full
  | close name => rw [apply, Event.marks, List.append_nil, Stack.marks_closeNamed]
  | text s => exact Stack.marks_modify (Element.adds_withText s) full
  | cdata s => exact Stack.marks_modify (Element.adds_withText s) full
  | ignored => exact (List.append_nil _).symm

theorem Stack.OnDocument.apply (on : stack.OnDocument) (event : Event) :
    (event.apply stack).OnDocument := by
  cases event with
  | start name attributes =>
    rw [Event.apply]
    split
    · exact on.modify (Element.adds_withChild _)
    · exact on.push _
  | empty name attributes => exact on.modify (Element.adds_withChild _)
  | close name => exact on.closeNamed name
  | text s => exact on.modify (Element.adds_withText s)
  | cdata s => exact on.modify (Element.adds_withText s)
  | ignored => exact on

/-- What a whole run preserves and adds. -/
theorem run_marks (on : stack.OnDocument) (events : List Event) :
    (events.foldl Event.apply stack).OnDocument ∧
      (events.foldl Event.apply stack).marks = stack.marks ++ events.flatMap Event.marks := by
  induction events generalizing stack with
  | nil => exact ⟨on, (List.append_nil _).symm⟩
  | cons event events ih =>
    obtain ⟨bottom, listed⟩ := ih (on.apply event)
    refine ⟨bottom, ?_⟩
    rw [List.foldl_cons, listed, Event.marks_apply on.ne_nil, List.flatMap_cons, List.append_assoc]

end Run

theorem stackOf_marks (events : List Event) :
    (stackOf events).OnDocument ∧ (stackOf events).marks = events.flatMap Event.marks :=
  run_marks Stack.onDocument_start events

theorem documentOf_marks (events : List Event) :
    marksOf (documentOf events).children = events.flatMap Event.marks := by
  obtain ⟨on, listed⟩ := stackOf_marks events
  obtain ⟨document, whole, -⟩ := on.closeAll
  have closed : (stackOf events).closeAll.marks = (stackOf events).marks :=
    Stack.marks_closeMany _ _
  rw [documentOf, ← listed, ← closed, whole]
  rfl

/-- Lenient markup loses, repeats and moves nothing. However its tags are nested, the document lists
the start tags, the empty tags and the characters of text as the parts of the markup do; so its
elements in depth first order are the tags in their order. At every step the stack has the document
at its bottom and lists what was read so far, and an end tag of no open element leaves it alone. -/
theorem markup_loses_nothing (events : List Event) :
    marksOf (documentOf events).children = events.flatMap Event.marks ∧
      (documentOf events).depthFirst.map Element.tag =
        .tag "#document" [] :: (events.flatMap Event.marks).filter Mark.isTag ∧
      (stackOf events).OnDocument ∧
      (stackOf events).marks = events.flatMap Event.marks ∧
      ∀ name, (∀ e ∈ (stackOf events).opened, sameName e.name name = false) →
        stackOf (events ++ [.close name]) = stackOf events := by
  obtain ⟨on, listed⟩ := stackOf_marks events
  refine ⟨documentOf_marks events, ?_, on, listed, fun name apart => ?_⟩
  · obtain ⟨document, whole, named, bare⟩ := on.closeAll
    have same : documentOf events = document := by
      rw [documentOf, whole]
      rfl
    rw [Element.depthFirst_tags, Element.marks_eq, documentOf_marks, same, named, bare]
    rfl
  · have closed : stackOf (events ++ [.close name]) = (stackOf events).closeNamed name := by
      rw [stackOf, List.foldl_append]
      rfl
    rw [closed]
    exact Stack.closeNamed_none apart

/-- An end tag of another name inside an open element. -/
theorem markup_loses_nothing_unmatched :
    (∀ e ∈ (stackOf [.start "p" [], .text "a"]).opened, sameName e.name "b" = false) ∧
      stackOf ([.start "p" [], .text "a"] ++ [.close "b"]) =
        stackOf [.start "p" [], .text "a"] := by
  have apart : ∀ e ∈ (stackOf [.start "p" [], .text "a"]).opened, sameName e.name "b" = false := by
    intro e mem
    obtain rfl := List.mem_singleton.mp (show e ∈ [_] from mem)
    decide
  exact ⟨apart, (markup_loses_nothing _).2.2.2.2 "b" apart⟩

end Html

end DocPath
