import DocPath.Document.Json
import DocPath.Document.Markup
import DocPath.Proofs.Eval.Direct
import DocPath.Proofs.Eval.FreeNames

/-!
Answers depend only on the parameters whose names are free in the path. The main statement takes
this from expressions, segments and closures to questions put to documents of both kinds.
-/

namespace DocPath

namespace View

variable {Config Document Tree : Type} [Reading Config Document Tree]

theorem ask_congr {config : Config} {rootPath path : String}
    {params others : List (String × Value)}
    (same : ∀ p, compile (joinRootPath rootPath path) = .ok p → ∀ text (root : Tree),
      Reading.run Config p text params root = Reading.run Config p text others root)
    (form : Form) (d : Document) :
    ask ⟨config, rootPath, params⟩ (.find path form) d =
      ask ⟨config, rootPath, others⟩ (.find path form) d := by
  unfold ask
  simp only [fullPath]
  cases compiled : compile (joinRootPath rootPath path) with
  | error e => simp only
  | ok p =>
    simp only [find]
    cases read : Reading.tree config d with
    | mk r d =>
      cases r with
      | error e => simp only
      | ok root => simp only [same p compiled]

end View

/-- Two scopes that show the same under every free name give the same value or the same failure.
So parameters whose names are not free in a path may be added, removed or changed without changing
an answer to that path. -/
theorem eval_depends_on_free_names :
    (∀ (e : Expr) (s t : Scope), Scope.Agree e.free s t → e.eval s = e.eval t) ∧
    (∀ (g : Segment) (v : Value) (s t : Scope), Scope.Agree g.free s t →
      g.eval v s = g.eval v t) ∧
    (∀ (c : Closure) (vs : List Value) (s t : Scope), Scope.Agree c.free s t →
      c.call vs s = c.call vs t) ∧
    (∀ (p : Path) (root : Value) (params others : List (String × Value)),
      (∀ x ∈ p.free, params.lookup x = others.lookup x) →
      p.eval root params = p.eval root others ∧
        p.evalBorrowed root params = p.evalBorrowed root others) ∧
    (∀ (rootPath path : String) (params others : List (String × Value)) (form : Form),
      (∀ p, compile (joinRootPath rootPath path) = .ok p →
        ∀ x ∈ p.free, params.lookup x = others.lookup x) →
      (∀ (config : JsonConfig) (d : JsonDocument),
        View.ask ⟨config, rootPath, params⟩ (.find path form) d =
          View.ask ⟨config, rootPath, others⟩ (.find path form) d) ∧
      ∀ (config : XmlConfig) (d : MarkupDocument),
        View.ask ⟨config, rootPath, params⟩ (.find path form) d =
          View.ask ⟨config, rootPath, others⟩ (.find path form) d) := by
  refine ⟨fun e s t h => e.eval_agree h, fun g v s t h => g.eval_agree v h,
    fun c vs s t h => c.call_agree vs h, ?_, ?_⟩
  · intro p root params others h
    rw [Path.evalBorrowed_eq, Path.evalBorrowed_eq]
    exact ⟨Path.eval_agree h root, Path.eval_agree h root⟩
  · intro rootPath path params others form h
    constructor
    · intro config d
      refine View.ask_congr (fun p compiled text root => ?_) form d
      show settle p text (p.evalBorrowed root params) = settle p text (p.evalBorrowed root others)
      rw [Path.evalBorrowed_eq, Path.evalBorrowed_eq, Path.eval_agree (h p compiled)]
    · intro config d
      refine View.ask_congr (fun p compiled text root => ?_) form d
      show root.ask text params p = root.ask text others p
      rw [Element.ask, Element.ask, Path.eval_agree (h p compiled)]

theorem eval_depends_on_free_names_unused :
    (Scope.Agree (Closure.mk ["x"] [] (.binary .add (.ident "x") (.ident "y"))).free
        (.ofParams [("y", .string "b")])
        ((Scope.ofParams [("y", .string "b"), ("z", .null)]).bind "x" .null) ∧
      (Closure.mk ["x"] [] (.binary .add (.ident "x") (.ident "y"))).call [.string "a"]
          (.ofParams [("y", .string "b")]) =
        (Closure.mk ["x"] [] (.binary .add (.ident "x") (.ident "y"))).call [.string "a"]
          ((Scope.ofParams [("y", .string "b"), ("z", .null)]).bind "x" .null)) ∧
    compile (joinRootPath "" "[0]") = .ok ⟨[.index (.single 0)]⟩ ∧
      View.ask ⟨({} : JsonConfig), "", []⟩ (.find "[0]" .value)
          (JsonDocument.mk (.text "[1]") "UTF-8" none []) =
        View.ask ⟨({} : JsonConfig), "", [("it", .null)]⟩ (.find "[0]" .value)
          (JsonDocument.mk (.text "[1]") "UTF-8" none []) := by
  have compiled : compile (joinRootPath "" "[0]") = .ok ⟨[.index (.single 0)]⟩ := rfl
  refine ⟨⟨?_, eval_depends_on_free_names.2.2.1 _ _ _ _ ?_⟩, compiled,
    (eval_depends_on_free_names.2.2.2.2 _ _ _ _ _ ?_).1 _ _⟩
  · intro x mem
    have same : x = "y" := by simpa [Closure.free, Expr.free, freeOfLocals, boundNames] using mem
    subst same
    rfl
  · intro x mem
    have same : x = "y" := by simpa [Closure.free, Expr.free, freeOfLocals, boundNames] using mem
    subst same
    rfl
  · intro p read x mem
    rw [compiled] at read
    cases read
    simp [Path.free, freeOfSegments, Segment.free] at mem

end DocPath
