import DocPath.Proofs.Document.RootPath
import DocPath.Proofs.Eval.SingleElement
import DocPath.Proofs.Path.RoundTrip
import DocPath.Proofs.Xml.Sound

/-!
Navigation from an element. A path that moves down gives the same below a path that leads to one
element, alone or in a list, as from the element itself; so the name of the root element may be left
out in front of it, and elements that were found can be asked themselves.
-/

namespace DocPath

namespace Xml

variable {name : String}

theorem isLocalName_plain (h : isLocalName name) : isPlain name := by
  obtain ⟨c, cs, text, -, chars⟩ := isLocalName_parts h
  rw [isPlain, text, List.all_eq_true]
  intro d mem
  have inside := chars d mem
  have single : d ≠ '\'' := fun same => absurd (same ▸ inside) (by decide)
  have slash : d ≠ '\\' := fun same => absurd (same ▸ inside) (by decide)
  simp [isPlainChar, single, slash]

end Xml

theorem Path.read_field {name : String} (plain : isPlain name) (key : name ≠ "$") :
    Path.read (Path.mk [.field name]).render = .ok ⟨[.field name]⟩ := by
  have formed : (Path.mk [.field name]).wellFormed := by
    simp [Path.wellFormed, wellFormedSegments, Segment.isSpread, Segment.wellFormed]
  have legible : (Path.mk [.field name]).legible := by
    simp [Path.legible, legibleSegments, Segment.legible, isLegibleKey, plain, key]
  have unbracketed : unbracketedSegments (Path.mk [.field name]).segments := by
    simp [unbracketedSegments, Segment.unbracketed]
  rw [Path.read, render, String.toList_ofList, chars_eq_written unbracketed]
  exact readChars_written formed legible

/-- A failure at a segment of one path, as a failure at the same segment of another path that has
`n` more segments in front. -/
def Failure.moved (text : String) (n : Nat) (f : Failure) : Failure := (f.atPath text).behind n

section
variable {first path : Path} {params : List (String × Value)} {start v : Value} {e : Element}

/-- Below a path that leads to one element, or to the list of it alone, a path that moves down gives
what it gives on the element. -/
theorem Path.answerBelow_single (led : first.eval start params = .ok v)
    (single : v = .node e ∨ v = .list [.node e]) (down : path.stepsDown) (text other : String) :
    first.answerBelow path text params start =
      (settle path other (path.eval (.node e) params)).mapError
        (Failure.moved text first.segments.length) := by
  have same : path.eval v params = path.eval (.node e) params := by
    rcases single with rfl | rfl
    · rfl
    · exact eval_single down e params
  rw [answerBelow, led]
  dsimp only
  rw [same, settle_atPath path text other]
  cases settle path other (path.eval (.node e) params) with
  | ok w => rfl
  | error f => rfl

theorem settle_ok {p : Path} {text : String} {r : Except QueryError Value}
    (settled : settle p text r = .ok v) (some : v ≠ .null) : r = .ok v := by
  unfold settle at settled
  split at settled
  · cases settled
    rfl
  · split at settled
    · split at settled
      · cases settled
        exact absurd rfl some
      · cases settled
    · cases settled

theorem Element.path_read {q : String} (e : Element) (read : Path.read q = .ok path) :
    e.path q = (settle path q (path.eval (.node e) [])).map (shape path) := by
  simp only [Element.path, compile, read, bind, Except.bind]
  cases settle path q (path.eval (.node e) []) with
  | ok v => rfl
  | error f => rfl

theorem Element.eval_root {root : Element} (name : Xml.isLocalName root.name) :
    (Path.mk [.field root.name]).eval (startOf ⟨[.field root.name]⟩ root) params =
      .ok (.list [.node root]) := by
  have above : startOf ⟨[.field root.name]⟩ root =
      .node ((Element.empty "#document").withChild root) := if_pos rfl
  have children : ((Element.empty "#document").withChild root).elements = [root] :=
    elements_withChild _ root
  have found : ((Element.empty "#document").withChild root).field root.name =
      .list [.node root] := by
    unfold Element.field
    split
    · next key text => exact absurd (congrArg List.head? text) (Xml.isLocalName_head name)
    · rw [if_neg (Xml.isLocalName_ne name rfl)]
      simp [Element.named, children]
  rw [above]
  simp only [Path.eval, Path.evalFrom, Segment.eval, Value.field, found]

theorem Element.ask_named {root : Element} (name : Xml.isLocalName root.name)
    (down : path.stepsDown) (other : path.leadingField? ≠ some root.name)
    (text text' : String) :
    root.ask text params ⟨.field root.name :: path.segments⟩ =
      (root.ask text' params path).mapError (Failure.moved text 1) := by
  have above := @Path.startOf_joined ⟨[.field root.name]⟩ path (by simp) root
  have inside : startOf path root = .node root := if_neg other
  have joined := @Path.settle_joined ⟨[.field root.name]⟩ path text
    (startOf ⟨[.field root.name]⟩ root) params
  rw [Path.answerBelow_single (eval_root name) (.inr rfl) down text text'] at joined
  rw [Element.ask, Element.ask, inside]
  exact above ▸ joined

end

theorem bind_ok {α β ε : Type} {r : Except ε α} {f : α → Except ε β} {b : β}
    (h : r.bind f = .ok b) : ∃ a, r = .ok a ∧ f a = .ok b := by
  cases r with
  | ok a => exact ⟨a, rfl, h⟩
  | error e => cases h

theorem map_mapError {α β ε : Type} (r : Except ε α) (f : ε → ε) (g : α → β) :
    (r.mapError f).map g = (r.map g).mapError f := by
  cases r with
  | ok a => rfl
  | error e => rfl

namespace View

variable {view : View XmlConfig} {d : MarkupDocument}

theorem ask_markup {root : Element} (tree : d.root.1 = .ok root) {q : String} {path : Path}
    (read : Path.read (view.fullPath q) = .ok path) :
    (view.ask (.find q .value) d).1 = (root.ask (view.fullPath q) view.params path).map
      fun v => .value (shape path v) := by
  rw [ask_value view read d]
  simp only [Reading.tree, tree, Reading.run, Reading.shape]
  rfl

theorem find_markup (p : Path) (text : String) :
    (view.find p text d).1 = d.root.1.bind (Element.ask · text view.params p) := by
  unfold find
  simp only [Reading.tree, Reading.run]
  split
  · next root d' same =>
    rw [same]
    rfl
  · next f d' same =>
    rw [same]
    rfl

/-- The name of the root element in front of a path: the answer is the same, and a failure is one
segment further behind. -/
theorem ask_named {root : Element} (name : Xml.isLocalName root.name) (tree : d.root.1 = .ok root)
    {q : String} {path : Path} (read : Path.read (view.fullPath q) = .ok path)
    (down : path.stepsDown) (other : path.leadingField? ≠ some root.name) {named : String}
    (read' : Path.read (view.fullPath named) = .ok ⟨.field root.name :: path.segments⟩) :
    (view.ask (.find named .value) d).1 =
      (view.ask (.find q .value) d).1.mapError (Failure.moved (view.fullPath named) 1) := by
  have shaped (v : Value) : shape ⟨.field root.name :: path.segments⟩ v = shape path v :=
    @Path.shape_joined ⟨[.field root.name]⟩ path (Path.ne_nil_of_stepsDown down) v
  rw [ask_markup tree read, ask_markup tree read',
    Element.ask_named name down other (view.fullPath named) (view.fullPath q), map_mapError]
  simp only [shaped]

theorem read_named {root : Element} (name : Xml.isLocalName root.name) (whole : view.rootPath = "")
    {q : String} {path : Path} (read : Path.read (view.fullPath q) = .ok path)
    (some : path.segments ≠ []) :
    Path.read (view.fullPath (joinRootPath (Path.mk [.field root.name]).render q)) =
      .ok ⟨.field root.name :: path.segments⟩ := by
  have key := Path.read_field (Xml.isLocalName_plain name) (Xml.isLocalName_ne name rfl)
  simp only [fullPath, whole, joinRootPath_empty] at read ⊢
  have ink : trim q ≠ "" := by
    intro none
    rw [none] at read
    cases read
    exact some rfl
  rw [trim_joinRootPath (Path.trim_of_read key (by simp)) ink, ← joinRootPath_trim]
  exact Path.read_joinRootPath key read (by simp) some

variable {p q : String} {first path : Path} {v : Value} {e : Element}

theorem ask_found (read : Path.read (view.fullPath p) = .ok first)
    (found : (view.find first (view.fullPath p) d).1 = .ok v) (form : Form) :
    (view.ask (.find p form) d).1 = form.give view.config first (view.fullPath p) v := by
  unfold ask compile
  simp only [read]
  split
  · next w d' same =>
    rw [same] at found
    cases found
    rfl
  · next f d' same =>
    rw [same] at found
    cases found

theorem coerceElement_single (single : v = .node e ∨ v = .list [.node e]) (text : String) :
    coerceElement text v = .ok e := by
  rcases single with rfl | rfl
  · rfl
  · rfl

theorem ask_relative (bare : view.params = []) (full : trim p ≠ "")
    (read : Path.read (view.fullPath p) = .ok first) (some : first.segments ≠ [])
    (found : (view.find first (view.fullPath p) d).1 = .ok v)
    (single : v = .node e ∨ v = .list [.node e]) (read' : Path.read q = .ok path)
    (down : path.stepsDown) :
    (view.ask (.find (joinRootPath p q) .value) d).1 =
      ((e.path q).map .value).mapError
        (Failure.moved (view.fullPath (joinRootPath p q)) first.segments.length) := by
  have some' := Path.ne_nil_of_stepsDown down
  have text : view.fullPath (joinRootPath p q) = joinRootPath (view.fullPath p) q :=
    joinRootPath_assoc view.rootPath full (Path.trim_of_read read' some')
  have whole : Path.read (view.fullPath (joinRootPath p q)) =
      .ok ⟨first.segments ++ path.segments⟩ := by
    rw [text]
    exact Path.read_joinRootPath read read' some some'
  rw [find_markup] at found
  obtain ⟨root, tree, run⟩ := bind_ok found
  have led : first.eval (startOf first root) view.params = .ok v := by
    refine settle_ok run ?_
    rcases single with rfl | rfl
    · exact nofun
    · exact nofun
  have shaped (w : Value) : shape ⟨first.segments ++ path.segments⟩ w = shape path w :=
    Path.shape_joined some' w
  rw [ask_markup tree whole, Element.ask, Path.startOf_joined some, Path.settle_joined,
    Path.answerBelow_single led single down _ q, map_mapError, e.path_read read', bare]
  simp only [shaped]
  cases settle path q (path.eval (.node e) []) with
  | ok w => rfl
  | error f => rfl

end View

/-- A path that moves down gives the same value, or the same failure at the same segment, on an
element and on the list of it alone. So the name of the root element of a document may stand in
front of it or not; and an element that was found at a path answers it as the document answers both
paths joined. The path to that element has at least one segment: `$` counts as the empty path, and
what it finds is the whole document, which starts above the root element. -/
theorem single_element_navigation_composes :
    (∀ (path : Path) (e : Element) (params : List (String × Value)), path.stepsDown →
      path.eval (.list [.node e]) params = path.eval (.node e) params) ∧
    (∀ (doctype : Bool) (markup : String) (root : Element) (d : MarkupDocument)
      (view : View XmlConfig) (q : String) (path : Path),
      Xml.read? doctype markup = some root → d.root.1 = .ok root → view.rootPath = "" →
      Path.read (view.fullPath q) = .ok path → path.stepsDown →
      path.leadingField? ≠ some root.name →
      Path.read (view.fullPath (joinRootPath (Path.mk [.field root.name]).render q)) =
        .ok ⟨.field root.name :: path.segments⟩ ∧
      ∀ named, Path.read (view.fullPath named) = .ok ⟨.field root.name :: path.segments⟩ →
        (view.ask (.find named .value) d).1 =
          (view.ask (.find q .value) d).1.mapError (Failure.moved (view.fullPath named) 1)) ∧
    ∀ (d : MarkupDocument) (view : View XmlConfig) (p q : String) (first path : Path) (v : Value)
      (e : Element), view.params = [] → trim p ≠ "" → Path.read (view.fullPath p) = .ok first →
      first.segments ≠ [] → (view.find first (view.fullPath p) d).1 = .ok v →
      v = .node e ∨ v = .list [.node e] → Path.read q = .ok path → path.stepsDown →
      (view.ask (.find p .node) d).1 = .ok (.typed (.node e)) ∧
      (view.ask (.find p (.relative q)) d).1 = (e.path q).map .value ∧
      (view.ask (.find (joinRootPath p q) .value) d).1 =
        ((e.path q).map .value).mapError
          (Failure.moved (view.fullPath (joinRootPath p q)) first.segments.length) := by
  refine ⟨fun path e params down => Path.eval_single down e params, ?_, ?_⟩
  · intro doctype markup root d view q path parsed tree whole read down other
    have name := Xml.read?_local doctype markup root parsed
    refine ⟨View.read_named name whole read (Path.ne_nil_of_stepsDown down), ?_⟩
    exact fun named read' => View.ask_named name tree read down other read'
  · intro d view p q first path v e bare full read some found single read' down
    have element := View.coerceElement_single single (view.fullPath p)
    refine ⟨?_, ?_, View.ask_relative bare full read some found single read' down⟩
    · rw [View.ask_found read found, Form.give, element]
      rfl
    · rw [View.ask_found read found, Form.give, element]
      rfl

theorem single_element_navigation_composes_nested :
    ∃ (root e : Element) (d : MarkupDocument),
      Xml.read? false "<a><b><c>1</c></b></a>" = some root ∧ d.root.1 = .ok root ∧
      (Path.mk [.field "c"]).eval (.list [.node e]) [] = (Path.mk [.field "c"]).eval (.node e) [] ∧
      (View.ask ⟨({} : XmlConfig), "", []⟩ (.find "a.b" .value) d).1 =
        (View.ask ⟨({} : XmlConfig), "", []⟩ (.find "b" .value) d).1.mapError
          (Failure.moved "a.b" 1) ∧
      (View.ask ⟨({} : XmlConfig), "", []⟩ (.find "b" .node) d).1 = .ok (.typed (.node e)) ∧
      (View.ask ⟨({} : XmlConfig), "", []⟩ (.find "b.c" .value) d).1 =
        ((e.path "c").map .value).mapError (Failure.moved "b.c" 1) := by
  let e : Element := .mk "b" none [] [.element (.mk "c" none [] [.text "1"])]
  let root : Element := .mk "a" none [] [.element e]
  let d : MarkupDocument := ⟨.text "<a><b><c>1</c></b></a>", "UTF-8", .xml, false, none⟩
  have parsed : Xml.read? false "<a><b><c>1</c></b></a>" = some root := by rfl
  have tree : d.root.1 = .ok root := by rfl
  have ⟨alone, named, relative⟩ := single_element_navigation_composes
  have below := named false _ root d ⟨({} : XmlConfig), "", []⟩ "b" ⟨[.field "b"]⟩ parsed tree rfl rfl
    rfl (by decide)
  have found : (View.find ⟨({} : XmlConfig), "", []⟩ ⟨[.field "b"]⟩ "b" d).1 =
      .ok (.list [.node e]) := by
    rw [View.find_markup, tree]
    rfl
  have answers := relative d ⟨({} : XmlConfig), "", []⟩ "b" "c" ⟨[.field "b"]⟩ ⟨[.field "c"]⟩
    (.list [.node e]) e rfl (by decide) rfl (by simp) found (.inr rfl) rfl rfl
  exact ⟨root, e, d, parsed, tree, alone ⟨[.field "c"]⟩ e [] rfl, below.2 "a.b" rfl, answers.1,
    answers.2.2⟩

end DocPath
