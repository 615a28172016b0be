import DocPath.Document.Markup
import DocPath.Proofs.Document.Agreement
import DocPath.Proofs.Path.Joined

/-!
Questions under a root path: what a handle answers to a path is what the path gives on the value
that the root path leads to.
-/

namespace DocPath

def QueryError.behind (n : Nat) (e : QueryError) : QueryError := { e with index := n + e.index }

def Failure.behind (n : Nat) : Failure → Failure
  | .invalidPath text index segment reason => .invalidPath text (n + index) segment reason
  | f => f

namespace Path

variable {gs hs : List Segment} {scope : Scope} {v : Value}

theorem evalFrom_behind (n index : Nat) : evalFrom scope (n + index) hs v =
    (evalFrom scope index hs v).mapError (QueryError.behind n) := by
  induction hs generalizing index v with
  | nil => rfl
  | cons h hs ih =>
    simp only [evalFrom]
    cases h.eval v scope with
    | ok w => exact ih (index + 1)
    | error e => rfl

theorem evalFrom_index {index : Nat} {e : QueryError}
    (failed : evalFrom scope index gs v = .error e) : e.index < index + gs.length := by
  induction gs generalizing index v with
  | nil => cases failed
  | cons g gs ih =>
    simp only [evalFrom] at failed
    rw [List.length_cons]
    split at failed
    · have := ih failed
      omega
    · cases failed
      exact Nat.lt_add_of_pos_right (Nat.succ_pos _)

/-- The answer to a path below a root path: what the path gives on the value that the root path
leads to, if it leads to one. -/
def answerBelow (root path : Path) (text : String) (params : List (String × Value))
    (start : Value) : Except Failure Value :=
  match root.eval start params with
  | .ok v =>
    (settle path text (path.eval v params)).mapError (Failure.behind root.segments.length)
  | .error e => settle root text (.error e)

variable {root path : Path} {text : String}

theorem settle_root {e : QueryError} (inside : e.index < root.segments.length) :
    settle ⟨root.segments ++ path.segments⟩ text (.error e) = settle root text (.error e) := by
  simp only [settle, List.getElem?_append_left inside]

theorem settle_behind (r : Except QueryError Value) :
    settle ⟨root.segments ++ path.segments⟩ text
        (r.mapError (QueryError.behind root.segments.length)) =
      (settle path text r).mapError (Failure.behind root.segments.length) := by
  cases r with
  | ok v => rfl
  | error e =>
    obtain ⟨index, segment, source⟩ := e
    have place : (root.segments ++ path.segments)[root.segments.length + index]? =
        path.segments[index]? := by
      rw [List.getElem?_append_right (Nat.le_add_right _ _), Nat.add_sub_cancel_left]
    cases source with
    | missingProperty name found =>
      simp only [Except.mapError, QueryError.behind, settle, place]
      split <;> rfl
    | _ => rfl

theorem settle_joined (start : Value) (params : List (String × Value)) :
    settle ⟨root.segments ++ path.segments⟩ text
        (eval ⟨root.segments ++ path.segments⟩ start params) =
      answerBelow root path text params start := by
  have whole : eval ⟨root.segments ++ path.segments⟩ start params =
      (root.eval start params).bind fun v =>
        (path.eval v params).mapError (QueryError.behind root.segments.length) := by
    unfold eval
    rw [evalFrom_append, Nat.zero_add]
    exact congrArg _ (funext fun v => evalFrom_behind _ 0)
  rw [whole, answerBelow]
  cases led : root.eval start params with
  | ok v => exact settle_behind (path.eval v params)
  | error e =>
    have inside := evalFrom_index led
    rw [Nat.zero_add] at inside
    exact settle_root inside

end Path

namespace View

variable {Config Document Tree : Type} [Reading Config Document Tree]

theorem ask_find (view : View Config) {path : String} {p : Path}
    (read : Path.read (view.fullPath path) = .ok p) (form : Form)
    (d : Document) : (view.ask (.find path form) d).1 =
      (Reading.tree view.config d).1.bind fun root =>
        (Reading.run Config p (view.fullPath path) view.params root).bind
          (form.give view.config p (view.fullPath path)) := by
  unfold ask compile
  simp only [read, find]
  cases tree : Reading.tree view.config d with
  | mk root d' =>
    cases root with
    | error e => rfl
    | ok root =>
      cases run : Reading.run Config p (view.fullPath path) view.params root with
      | ok v => simp only [run, Except.bind]
      | error e => simp only [run, Except.bind]

theorem ask_value (view : View Config) {path : String} {p : Path}
    (read : Path.read (view.fullPath path) = .ok p)
    (d : Document) : (view.ask (.find path .value) d).1 =
      (Reading.tree view.config d).1.bind fun root =>
        (Reading.run Config p (view.fullPath path) view.params root).map fun v =>
          .value (Reading.shape Config p v) := by
  rw [view.ask_find read]
  rfl

end View

namespace Session

variable {Config Document Tree : Type} [Reading Config Document Tree]

theorem run_rootPath {s : Session Config Document} {on : String} {h : Handle Config} {d : Document}
    (handle : s.handle? on = some h) (document : s.document? h = some d) (into root path : String)
    {p : Path} (read : Path.read (joinRootPath root path) = .ok p) :
    (s.run [.rootPath on into root, .ask into (.find path .value)]).1 =
      [some (.ok .done), some ((Reading.tree (s.view h).config d).1.bind fun tree =>
        (Reading.run Config p (joinRootPath root path) h.params tree).map fun v =>
          .value (Reading.shape Config p v))] := by
  have kept : (s.put into { h with rootPath := root }).document? { h with rootPath := root } =
      some d := document
  simp only [run, step_rootPath handle document]
  rw [reply_ask (s.handle?_put into _) kept]
  exact congrArg (fun r => [some (.ok .done), some r])
    (View.ask_value ⟨(s.view h).config, root, h.params⟩ read d)

end Session

namespace Path

variable {root path : Path}

theorem startOf_joined (full : root.segments ≠ []) (e : Element) :
    startOf ⟨root.segments ++ path.segments⟩ e = startOf root e := by
  have same : leadingField? ⟨root.segments ++ path.segments⟩ = root.leadingField? := by
    obtain ⟨segments⟩ := root
    cases segments with
    | nil => exact absurd rfl full
    | cons g gs => cases g <;> rfl
  rw [startOf, startOf, same]

theorem shape_joined (full : path.segments ≠ []) (v : Value) :
    shape ⟨root.segments ++ path.segments⟩ v = shape path v := by
  have last : (root.segments ++ path.segments).getLast? = path.segments.getLast? := by
    rw [List.getLast?_append, Option.or_of_isSome (by simpa using full)]
  rw [shape, shape, navigates, navigates, last]

end Path

/-- The text of a path joined to a root path is read as the segments of the root path and the
segments of the path behind them. So a handle with the root path, on a document of either kind,
answers what the path gives on the value that the root path leads to. -/
theorem root_path_composes {r p : String} {root path : Path} (first : Path.read r = .ok root)
    (second : Path.read p = .ok path) (full : root.segments ≠ []) (full' : path.segments ≠ []) :
    Path.read (joinRootPath r p) = .ok ⟨root.segments ++ path.segments⟩ ∧
    (∀ (s : Session JsonConfig JsonDocument) (on into : String) (h : Handle JsonConfig)
      (d : JsonDocument), s.handle? on = some h → s.document? h = some d →
      (s.run [.rootPath on into r, .ask into (.find p .value)]).1 =
        [some (.ok .done), some ((d.tree (s.view h).config).1.bind fun v =>
          (root.answerBelow path (joinRootPath r p) h.params v).map .value)]) ∧
    ∀ (s : Session XmlConfig MarkupDocument) (on into : String) (h : Handle XmlConfig)
      (d : MarkupDocument), s.handle? on = some h → s.document? h = some d →
      (s.run [.rootPath on into r, .ask into (.find p .value)]).1 =
        [some (.ok .done), some (d.root.1.bind fun e =>
          (root.answerBelow path (joinRootPath r p) h.params (startOf root e)).map fun v =>
            .value (shape path v))] := by
  have whole : Path.read (joinRootPath r p) = .ok ⟨root.segments ++ path.segments⟩ :=
    Path.read_joinRootPath first second full full'
  refine ⟨whole, fun s on into h d handle document => ?_, fun s on into h d handle document => ?_⟩
  · rw [s.run_rootPath handle document into r p whole]
    simp only [Reading.tree, Reading.run, Path.evalBorrowed_eq, Path.settle_joined]
    rfl
  · rw [s.run_rootPath handle document into r p whole]
    simp only [Reading.tree, Reading.run, Element.ask, Path.startOf_joined full,
      Path.settle_joined, Reading.shape, Path.shape_joined full']

theorem Path.read_some (text : String)
    (accepted : (Path.read text).toOption.any fun p => !p.segments.isEmpty) :
    ∃ p, Path.read text = .ok p ∧ p.segments ≠ [] := by
  cases read : Path.read text with
  | ok p =>
    rw [read] at accepted
    exact ⟨p, rfl, by simpa [Except.toOption] using accepted⟩
  | error e =>
    rw [read] at accepted
    cases accepted

/-- A root path that ends with a closure, between blanks, and a path that starts with a
subscript. -/
theorem root_path_composes_closure :
    ∃ root path, Path.read " a*.findAll { it } " = .ok root ∧ root.segments ≠ [] ∧
      Path.read "[0].b" = .ok path ∧ path.segments ≠ [] ∧
      Path.read (joinRootPath " a*.findAll { it } " "[0].b") =
        .ok ⟨root.segments ++ path.segments⟩ ∧
      (Session.run (⟨none, [⟨.text "[]", "UTF-8", none, []⟩], [("d", ⟨0, none, "", []⟩)]⟩ :
          Session JsonConfig JsonDocument)
        [.rootPath "d" "e" " a*.findAll { it } ", .ask "e" (.find "[0].b" .value)]).1 =
        [some (.ok .done), some (((JsonDocument.mk (.text "[]") "UTF-8" none []).tree {}).1.bind
          fun v => (root.answerBelow path (joinRootPath " a*.findAll { it } " "[0].b") [] v).map
            .value)] := by
  obtain ⟨root, first, full⟩ := Path.read_some " a*.findAll { it } " (by decide +kernel)
  obtain ⟨path, second, full'⟩ := Path.read_some "[0].b" (by decide +kernel)
  have composed := root_path_composes first second full full'
  exact ⟨root, path, first, full, second, full', composed.1,
    composed.2.1 ⟨none, [⟨.text "[]", "UTF-8", none, []⟩], [("d", ⟨0, none, "", []⟩)]⟩ "d" "e"
      ⟨0, none, "", []⟩ ⟨.text "[]", "UTF-8", none, []⟩ rfl rfl⟩

end DocPath
