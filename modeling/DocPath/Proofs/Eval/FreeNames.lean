import DocPath.Eval.Basic

/-!
The free names of the syntax. A closure binds its parameters, or `it` where it declares none, and
each of its locals from the next one on. Two scopes that show the same under every free name give
the same value or the same failure.
-/

namespace DocPath

def boundNames (params : List String) : List String := if params.isEmpty then ["it"] else params

mutual
def Expr.free : Expr → List String
  | .literal _ => []
  | .list items => freeOfItems items
  | .ident name => [name]
  | .path base segments => base.free ++ freeOfSegments segments
  | .unary _ operand => operand.free
  | .binary _ left right => left.free ++ right.free
  | .ternary condition yes no => condition.free ++ yes.free ++ no.free
  | .elvis value fallback => value.free ++ fallback.free
  | .closure c => c.free
def Closure.free : Closure → List String
  | .mk params locals body =>
    (freeOfLocals locals body.free).filter (· ∉ boundNames params)
def Segment.free : Segment → List String
  | .call _ args => freeOfItems args
  | .spread inner => inner.free
  | _ => []
def freeOfItems : List Expr → List String
  | [] => []
  | e :: es => e.free ++ freeOfItems es
def freeOfSegments : List Segment → List String
  | [] => []
  | s :: ss => s.free ++ freeOfSegments ss
/-- The free names of locals and of what follows them, which has some of its own. -/
def freeOfLocals : List (String × Expr) → List String → List String
  | [], inner => inner
  | (name, e) :: ls, inner => e.free ++ (freeOfLocals ls inner).filter (· ≠ name)
end

def Path.free (p : Path) : List String := freeOfSegments p.segments

namespace Scope

/-- Two scopes show the same under each of some names. -/
def Agree (names : List String) (s t : Scope) : Prop := ∀ x ∈ names, s.lookup x = t.lookup x

variable {s t : Scope} {names more : List String}

theorem lookup_bind (s : Scope) (name other : String) (v : Value) :
    (s.bind name v).lookup other = if other = name then .ok v else s.lookup other := by
  simp only [lookup, get?_bind]
  by_cases same : other = name <;> simp only [same, if_true, if_false]

theorem bindAll_cons (s : Scope) (p : String) (ps : List String) (vs : List Value) :
    s.bindAll (p :: ps) vs = (s.bind p (vs.headD .null)).bindAll ps vs.tail := by
  cases vs <;> rfl

theorem lookup_bindAll (params : List String) (vs : List Value) (x : String) :
    (∃ v, ∀ s : Scope, (s.bindAll params vs).lookup x = .ok v) ∨
      x ∉ params ∧ ∀ s : Scope, (s.bindAll params vs).lookup x = s.lookup x := by
  induction params generalizing vs with
  | nil => exact .inr ⟨List.not_mem_nil, fun _ => rfl⟩
  | cons p ps ih =>
    rcases ih vs.tail with ⟨v, bound⟩ | ⟨fresh, kept⟩
    · exact .inl ⟨v, fun s => by rw [bindAll_cons, bound]⟩
    · by_cases same : x = p
      · exact .inl ⟨vs.headD .null, fun s => by
          rw [bindAll_cons, kept, lookup_bind, if_pos same]⟩
      · exact .inr ⟨by simp [same, fresh], fun s => by
          rw [bindAll_cons, kept, lookup_bind, if_neg same]⟩

@[simp] theorem agree_append :
    Agree (names ++ more) s t ↔ Agree names s t ∧ Agree more s t := by
  simp only [Agree, List.mem_append, or_imp, forall_and]

theorem Agree.bind {name : String} (h : Agree (names.filter (· ≠ name)) s t) (v : Value) :
    Agree names (s.bind name v) (t.bind name v) := by
  intro x hx
  rw [lookup_bind, lookup_bind]
  split
  · rfl
  · next hn => exact h x (List.mem_filter.2 ⟨hx, by simpa using hn⟩)

theorem Agree.bindAll {params : List String} {vs : List Value}
    (h : Agree (names.filter (· ∉ params)) s t) :
    Agree names (s.bindAll params vs) (t.bindAll params vs) := by
  intro x hx
  rcases lookup_bindAll params vs x with ⟨v, bound⟩ | ⟨fresh, kept⟩
  · rw [bound, bound]
  · rw [kept, kept]
    exact h x (List.mem_filter.2 ⟨hx, by simpa using fresh⟩)

theorem Agree.bindArguments {params : List String} (vs : List Value)
    (h : Agree (names.filter (· ∉ boundNames params)) s t) :
    (∃ e, bindArguments params vs s = .error e ∧ bindArguments params vs t = .error e) ∨
      ∃ s' t', bindArguments params vs s = .ok s' ∧ bindArguments params vs t = .ok t' ∧
        Agree names s' t' := by
  unfold DocPath.bindArguments
  split
  · next empty =>
    refine .inr ⟨_, _, rfl, rfl, Agree.bind ?_ _⟩
    simpa [boundNames, empty] using h
  · next declared =>
    have h : Agree (names.filter (· ∉ params)) s t := by
      simpa [boundNames, declared] using h
    split
    · exact .inl ⟨_, rfl, rfl⟩
    · exact .inr ⟨_, _, rfl, rfl, h.bindAll⟩

end Scope

mutual
theorem Expr.eval_agree : (e : Expr) → {s t : Scope} → Scope.Agree e.free s t → e.eval s = e.eval t
  | .literal _, _, _, _ => by simp only [Expr.eval]
  | .list items, _, _, h => by
    rw [Expr.free] at h
    simp only [Expr.eval, evalItems_agree items h]
  | .ident name, _, _, h => by
    simp only [Expr.eval]
    exact h name (by simp [Expr.free])
  | .path base segments, _, t, h => by
    simp only [Expr.free, Scope.agree_append] at h
    simp only [Expr.eval, base.eval_agree h.1]
    cases base.eval t with
    | error e => rfl
    | ok v => simp only [bind, Except.bind, evalSegments_agree segments v h.2]
  | .unary _ operand, _, _, h => by
    rw [Expr.free] at h
    simp only [Expr.eval, operand.eval_agree h]
  | .binary _ left right, _, _, h => by
    simp only [Expr.free, Scope.agree_append] at h
    simp only [Expr.eval, left.eval_agree h.1, right.eval_agree h.2]
  | .ternary condition yes no, _, _, h => by
    simp only [Expr.free, Scope.agree_append] at h
    simp only [Expr.eval, condition.eval_agree h.1.1, yes.eval_agree h.1.2, no.eval_agree h.2]
  | .elvis value fallback, _, _, h => by
    simp only [Expr.free, Scope.agree_append] at h
    simp only [Expr.eval, value.eval_agree h.1, fallback.eval_agree h.2]
  | .closure _, _, _, _ => by simp only [Expr.eval]
theorem Closure.call_agree : (c : Closure) → (vs : List Value) → {s t : Scope} →
    Scope.Agree c.free s t → c.call vs s = c.call vs t
  | .mk params locals body, vs, s, t, h => by
    rw [Closure.free] at h
    simp only [Closure.call]
    obtain ⟨e, hs, ht⟩ | ⟨s', t', hs, ht, h'⟩ := h.bindArguments vs
    · rw [hs, ht]
    · rw [hs, ht]
      simp only [bind, Except.bind]
      obtain ⟨e, hs, ht⟩ | ⟨s'', t'', hs, ht, h''⟩ := bindLocals_agree locals h'
      · rw [hs, ht]
      · rw [hs, ht]
        exact body.eval_agree h''
theorem Segment.eval_agree : (g : Segment) → (v : Value) → {s t : Scope} →
    Scope.Agree g.free s t → g.eval v s = g.eval v t
  | .field _, _, _, _, _ => by simp only [Segment.eval]
  | .index _, _, _, _, _ => by simp only [Segment.eval]
  | .wildcard, _, _, _, _ => by simp only [Segment.eval]
  | .descent, _, _, _, _ => by simp only [Segment.eval]
  | .call _ args, _, _, _, h => by
    rw [Segment.free] at h
    simp only [Segment.eval, evalArguments_agree args h]
  | .spread inner, v, s, t, h => by
    rw [Segment.free] at h
    have same : (fun i => inner.eval i s) = fun i => inner.eval i t :=
      funext fun i => inner.eval_agree i h
    simp only [Segment.eval, same]
theorem evalItems_agree : (es : List Expr) → {s t : Scope} → Scope.Agree (freeOfItems es) s t →
    evalItems es s = evalItems es t
  | [], _, _, _ => by simp only [evalItems]
  | e :: es, _, _, h => by
    simp only [freeOfItems, Scope.agree_append] at h
    simp only [evalItems, e.eval_agree h.1, evalItems_agree es h.2]
theorem evalSegments_agree : (gs : List Segment) → (v : Value) → {s t : Scope} →
    Scope.Agree (freeOfSegments gs) s t → evalSegments gs v s = evalSegments gs v t
  | [], _, _, _, _ => by simp only [evalSegments]
  | g :: gs, v, _, t, h => by
    simp only [freeOfSegments, Scope.agree_append] at h
    simp only [evalSegments, g.eval_agree v h.1]
    cases g.eval v t with
    | error e => rfl
    | ok w => exact evalSegments_agree gs w h.2
theorem evalArguments_agree : (es : List Expr) → {s t : Scope} → Scope.Agree (freeOfItems es) s t →
    evalArguments es s = evalArguments es t
  | [], _, _, _ => by simp only [evalArguments]
  | e :: es, _, t, h => by
    simp only [freeOfItems, Scope.agree_append] at h
    have value := e.eval_agree h.1
    have rest := evalArguments_agree es h.2
    cases e with
    | closure c =>
      have same : (fun vs => c.call vs _) = fun vs => c.call vs t :=
        funext fun vs => c.call_agree vs (by simpa only [Expr.free] using h.1)
      simp only [evalArguments, same, rest]
    | _ => simp only [evalArguments, value, rest]
theorem bindLocals_agree : (ls : List (String × Expr)) → {inner : List String} →
    {s t : Scope} → Scope.Agree (freeOfLocals ls inner) s t →
    (∃ e, bindLocals ls s = .error e ∧ bindLocals ls t = .error e) ∨
      ∃ s' t', bindLocals ls s = .ok s' ∧ bindLocals ls t = .ok t' ∧ Scope.Agree inner s' t'
  | [], _, s, t, h => by
    simp only [bindLocals]
    exact .inr ⟨s, t, rfl, rfl, by simpa only [freeOfLocals] using h⟩
  | (name, e) :: ls, _, s, t, h => by
    simp only [freeOfLocals, Scope.agree_append] at h
    simp only [bindLocals, e.eval_agree h.1]
    cases e.eval t with
    | error failure => exact .inl ⟨failure, rfl, rfl⟩
    | ok v => exact bindLocals_agree ls (h.2.bind v)
end

namespace Path

variable {params others : List (String × Value)} {names : List String}

theorem agree_ofParams (h : ∀ x ∈ names, params.lookup x = others.lookup x) :
    Scope.Agree names (.ofParams params) (.ofParams others) := by
  intro x hx
  simp only [Scope.lookup, Scope.get?, Scope.ofParams, h x hx]

theorem evalFrom_agree {s t : Scope} (gs : List Segment) (index : Nat) (v : Value)
    (h : Scope.Agree (freeOfSegments gs) s t) :
    evalFrom s index gs v = evalFrom t index gs v := by
  induction gs generalizing index v with
  | nil => rfl
  | cons g gs ih =>
    simp only [freeOfSegments, Scope.agree_append] at h
    simp only [evalFrom, g.eval_agree v h.1]
    split
    · exact ih (index + 1) _ h.2
    · rfl

theorem eval_agree {p : Path} (h : ∀ x ∈ p.free, params.lookup x = others.lookup x)
    (root : Value) : p.eval root params = p.eval root others :=
  evalFrom_agree p.segments 0 root (agree_ofParams h)

end Path
end DocPath
