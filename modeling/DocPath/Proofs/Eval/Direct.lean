import DocPath.Eval.Basic

/-!
Evaluation that looks leading keys and indices up directly is evaluation. A direct step that leads
somewhere gives what its segment gives, so it can be taken back at every segment of a path.
-/

namespace DocPath

theorem resolve_of_position? {index : Int64} {length at_ : Nat}
    (h : position? index length = some at_) : resolve index length = .ok at_ := by
  simp only [resolve, h]

namespace Path

theorem eval_of_direct? {g : Segment} {v w : Value} (h : direct? g v = some w) (scope : Scope) :
    g.eval v scope = .ok w := by
  unfold direct? at h
  split at h
  · next name m =>
    simp only [Segment.eval, Value.field, h, Option.getD_some]
  · next i items =>
    obtain ⟨k, found, item⟩ := Option.bind_eq_some_iff.1 h
    simp only [Segment.eval, Selector.apply, Selector.ofItems, resolve_of_position? found, bind,
      Except.bind, List.getD_eq_getElem?_getD, item, Option.getD_some]
  · cases h

theorem evalFrom_append {gs hs : List Segment} {scope : Scope} {v : Value} (index : Nat) :
    evalFrom scope index (gs ++ hs) v =
      (evalFrom scope index gs v).bind fun w => evalFrom scope (index + gs.length) hs w := by
  induction gs generalizing index v with
  | nil => rfl
  | cons g gs ih =>
    simp only [List.cons_append, evalFrom, List.length_cons]
    cases g.eval v scope with
    | ok w =>
      have rest := ih (v := w) (index + 1)
      rw [Nat.add_assoc, Nat.add_comm 1] at rest
      exact rest
    | error e => rfl

theorem evalDirect_eq_evalFrom (scope : Scope) (gs : List Segment) (index : Nat) (v : Value) :
    evalDirect scope index gs v = evalFrom scope index gs v := by
  induction gs generalizing index v with
  | nil => rfl
  | cons g gs ih =>
    rw [evalDirect]
    split
    · next w step =>
      rw [ih, evalFrom, eval_of_direct? step scope]
    · rfl

theorem evalBorrowed_eq (p : Path) (root : Value) (params : List (String × Value)) :
    p.evalBorrowed root params = p.eval root params :=
  evalDirect_eq_evalFrom ..

end Path
end DocPath
