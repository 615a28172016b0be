import DocPath.Proofs.Eval.ImplicitParameter

/-!
The searching methods against the one that finds everything. All of them put one test to the items
of a value, or the entries of a map, in order. So where every test has an answer, what is found
first, whether there is anything and whether it is all can be read off from all that is found; and
where a test fails, a search has ended before it or fails with it.
-/

namespace DocPath

def passes {α : Type} (test : α → Eval Bool) (a : α) : Bool :=
  match test a with
  | .ok b => b
  | .error _ => false

def Answered {α : Type} (test : α → Eval Bool) (as : List α) : Prop :=
  ∀ a ∈ as, ∃ b, test a = .ok b

section
variable {α β : Type} {test : α → Eval Bool} {as before after : List α}

theorem test_eq_passes {a : α} (answer : ∃ b, test a = .ok b) : test a = .ok (passes test a) := by
  obtain ⟨b, answer⟩ := answer
  rw [passes, answer]

theorem Answered.tail {a : α} (answered : Answered test (a :: as)) : Answered test as :=
  fun b mem => answered b (List.mem_cons_of_mem a mem)

theorem Answered.head {a : α} (answered : Answered test (a :: as)) :
    test a = .ok (passes test a) :=
  test_eq_passes (answered a List.mem_cons_self)

theorem findEval_append (answered : Answered test before) (after : List α) :
    findEval test (before ++ after) =
      match before.find? (passes test) with
      | some a => .ok (some a)
      | none => findEval test after := by
  induction before with
  | nil => rfl
  | cons a before ih =>
    rw [List.cons_append, findEval, answered.head, List.find?_cons]
    cases passes test a with
    | true => rfl
    | false => exact ih answered.tail

theorem filterEval_append (answered : Answered test before) (after : List α) :
    filterEval test (before ++ after) =
      (filterEval test after).map (before.filter (passes test) ++ ·) := by
  induction before with
  | nil =>
    cases found : filterEval test after with
    | error e => simp only [List.nil_append, found, Except.map]
    | ok kept => simp only [List.nil_append, found, Except.map, List.filter_nil]
  | cons a before ih =>
    rw [List.cons_append, filterEval, answered.head, ih answered.tail, List.filter_cons]
    cases filterEval test after with
    | error e => rfl
    | ok kept => cases passes test a <;> rfl

theorem findEval_answered (answered : Answered test as) :
    findEval test as = .ok (as.find? (passes test)) := by
  have run := findEval_append answered []
  rw [List.append_nil] at run
  rw [run]
  cases as.find? (passes test) <;> rfl

theorem filterEval_answered (answered : Answered test as) :
    filterEval test as = .ok (as.filter (passes test)) := by
  have run := filterEval_append answered []
  rw [List.append_nil] at run
  rw [run, filterEval, Except.map, List.append_nil]

theorem fails_eq_ok {a : α} {b : Bool} : Method.fails test a = .ok b ↔ test a = .ok (!b) := by
  unfold Method.fails
  cases test a with
  | error e => exact iff_of_false nofun nofun
  | ok r => cases r <;> cases b <;> simp [bind, Except.bind]

theorem Answered.fails (answered : Answered test as) : Answered (Method.fails test) as := by
  intro a mem
  obtain ⟨b, answer⟩ := answered a mem
  exact ⟨!b, fails_eq_ok.mpr (by rw [answer, Bool.not_not])⟩

end

section
variable {α : Type} {test : α → Eval Bool} {before after : List α} {a : α} {e : EvalError}

end

/-- What the searching methods go through: an item of a list, or an entry of a map. -/
inductive Piece where
  | item (v : Value)
  | entry (key : String) (v : Value)

namespace Piece

def value : Piece → Value
  | .item v => v
  | .entry key v => DocPath.entry key v

def test (c : Option Callback) : Piece → Eval Bool
  | .item v => keeps c v
  | .entry key v => keepsEntry c (key, v)

def ofEntry (p : String × Value) : Piece := .entry p.1 p.2

end Piece

def Value.pieces : Value → List Piece
  | .map m => m.map Piece.ofEntry
  | v => v.items.map .item

section
variable {c : Option Callback} {v : Value}

namespace Method

theorem findAllIn_other (other : v.kind ≠ .map) :
    findAllIn v c = (filterEval (keeps c) v.items).map .list := by
  cases v with
  | map m => exact absurd rfl other
  | _ => rfl

end Method
end

def Method.callWith (m : Method) (c : Option Closure) (v : Value) (s : Scope) : Eval Value :=
  (Segment.call m.label (c.toList.map .closure)).eval v s

theorem evalArguments_closure (c : Option Closure) (s : Scope) :
    evalArguments (c.toList.map .closure) s =
      .ok ((c.map fun c => c.toCallback s).toList.map .closure) := by
  cases c <;> rfl

theorem Method.callWith_eq (m : Method) (c : Option Closure) {v : Value} (present : v ≠ .null)
    (s : Scope) :
    m.callWith c v s = m.apply v ((c.map fun c => c.toCallback s).toList.map .closure) := by
  have full : v.isNull = false := by
    cases v with
    | null => exact absurd rfl present
    | _ => rfl
  simp only [callWith, Segment.eval, named?_label, evalArguments_closure, invoke, full]
  rfl

theorem Method.callWith_closure {m : Method} {f : Value → Option Callback → Eval Value}
    (reads : ∀ v args, m.apply v args = f v (closureArgument? args)) (c : Option Closure)
    {v : Value} (present : v ≠ .null) (s : Scope) :
    m.callWith c v s = f v (c.map fun c => c.toCallback s) := by
  rw [m.callWith_eq c present, reads]
  cases c <;> rfl

theorem Method.callWith_count (c : Closure) {v : Value} (present : v ≠ .null)
    (other : v.kind ≠ .map) (s : Scope) :
    Method.count.callWith (some c) v s =
      (findAllIn v (some (c.toCallback s))).bind fun r => Method.size.invoke r [] := by
  rw [callWith_eq _ _ present, findAllIn_other other]
  show (filterEval (keeps (some (c.toCallback s))) v.items).map _ = _
  cases filterEval (keeps (some (c.toCallback s))) v.items <;> rfl

end DocPath
