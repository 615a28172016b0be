import DocPath.Proofs.Eval.FreeNames
import DocPath.Proofs.Eval.MethodFailure

/-!
The calls and the closures of a tree, at any depth, and what they and its free names tell about its
failures: an evaluation fails in an ordinary way, at an unknown method that is called, at a closure
that is no argument, at a free name that is not bound, or at a missing property. The last does not
leave an expression.
-/

namespace DocPath

/-- A method call, or a closure with whether it is an argument of one. -/
inductive Part where
  | call (name : String) (args : List Expr)
  | closure (argument : Bool) (c : Closure)

mutual
def Expr.parts : (argument : Bool) → Expr → List Part
  | _, .literal _ => []
  | _, .list items => partsOfItems false items
  | _, .ident _ => []
  | _, .path base segments => base.parts false ++ partsOfSegments segments
  | _, .unary _ operand => operand.parts false
  | _, .binary _ left right => left.parts false ++ right.parts false
  | _, .ternary condition yes no => condition.parts false ++ yes.parts false ++ no.parts false
  | _, .elvis value fallback => value.parts false ++ fallback.parts false
  | argument, .closure c => .closure argument c :: c.parts
def Closure.parts : Closure → List Part
  | .mk _ locals body => partsOfLocals locals ++ body.parts false
def Segment.parts : Segment → List Part
  | .call name args => .call name args :: partsOfItems true args
  | .spread inner => inner.parts
  | _ => []
def partsOfItems : (argument : Bool) → List Expr → List Part
  | _, [] => []
  | argument, e :: es => e.parts argument ++ partsOfItems argument es
def partsOfLocals : List (String × Expr) → List Part
  | [] => []
  | (_, e) :: ls => e.parts false ++ partsOfLocals ls
def partsOfSegments : List Segment → List Part
  | [] => []
  | s :: ss => s.parts ++ partsOfSegments ss
end

def Path.parts (p : Path) : List Part := partsOfSegments p.segments

def strayClosureError : EvalError :=
  .arguments "closure" "a closure can only be passed to a method"

def Part.Permits (P : EvalError → Prop) : Part → Prop
  | .call name _ => Method.named? name = none → P (.unknownMethod name)
  | .closure argument _ => argument = false → P strayClosureError

def Permits (P : EvalError → Prop) (parts : List Part) : Prop := ∀ x ∈ parts, x.Permits P

/-- Segments that can miss a property: keys, and calls that look one up, of a value or of every
item. -/
def Segment.looksUp : Segment → Bool
  | .field _ | .index (.key _) => true
  | .call name _ => name == "get" || name == "getAt"
  | .spread inner => inner.looksUp
  | _ => false

section
variable {P : EvalError → Prop} {xs ys : List Part} {names more : List String} {s : Scope}

@[simp] theorem permits_append : Permits P (xs ++ ys) ↔ Permits P xs ∧ Permits P ys := by
  simp only [Permits, List.mem_append, or_imp, forall_and]

@[simp] theorem permits_cons {x : Part} :
    Permits P (x :: xs) ↔ x.Permits P ∧ Permits P xs := by
  simp only [Permits, List.mem_cons, or_imp, forall_and, forall_eq]

/-- The failures at any parts have a property that those at unknown methods and at closures in a
wrong place have. -/
theorem permits_of (unknown : ∀ name, P (.unknownMethod name)) (stray : P strayClosureError)
    (xs : List Part) : Permits P xs := by
  rintro (⟨name, args⟩ | ⟨argument, c⟩) _
  · exact fun _ => unknown name
  · exact fun _ => stray

namespace Scope

def Permits (P : EvalError → Prop) (names : List String) (s : Scope) : Prop :=
  ∀ x ∈ names, FailsOnly P (s.lookup x)

@[simp] theorem permits_append :
    Permits P (names ++ more) s ↔ Permits P names s ∧ Permits P more s := by
  simp only [Permits, List.mem_append, or_imp, forall_and]

theorem permits_of (undefined : ∀ x ∈ names, s.get? x = none → P (.undefinedParameter x)) :
    Permits P names s := by
  intro x mem
  unfold lookup
  split
  · exact failsOnly_ok _
  · next unbound => exact (failsOnly_error _).mpr (undefined x mem unbound)

theorem Permits.bind {name : String} (h : Permits P (names.filter (· ≠ name)) s) (v : Value) :
    Permits P names (s.bind name v) := by
  intro x hx
  rw [lookup_bind]
  split
  · exact failsOnly_ok v
  · next hn => exact h x (List.mem_filter.2 ⟨hx, by simpa using hn⟩)

theorem Permits.bindAll {params : List String} {vs : List Value}
    (h : Permits P (names.filter (· ∉ params)) s) : Permits P names (s.bindAll params vs) := by
  intro x hx
  rcases lookup_bindAll params vs x with ⟨v, bound⟩ | ⟨fresh, kept⟩
  · rw [bound]
    exact failsOnly_ok v
  · rw [kept]
    exact h x (List.mem_filter.2 ⟨hx, by simpa using fresh⟩)

theorem Permits.bindArguments (ordinary : ∀ e, e.Ordinary → P e) {params : List String}
    (vs : List Value) (h : Permits P (names.filter (· ∉ boundNames params)) s) :
    Meets P (Permits P names) (bindArguments params vs s) := by
  unfold DocPath.bindArguments
  split
  · next empty =>
    refine meets_ok (Permits.bind ?_ _)
    simpa [boundNames, empty] using h
  · next declared =>
    split
    · refine ⟨(failsOnly_error _).mpr (ordinary _ (.closureArity _ _)), fun t bound => ?_⟩
      cases bound
    · refine meets_ok (Permits.bindAll ?_)
      simpa [boundNames, declared] using h

end Scope

/-- A failure that a segment may have: one with a property, or a missing property where a key is
looked up. -/
def Segment.Blames (P : EvalError → Prop) (g : Segment) (e : EvalError) : Prop :=
  P e ∨ g.looksUp ∧ ∃ name k, e = .missingProperty name k

def orMissing (P : EvalError → Prop) (e : EvalError) : Prop :=
  P e ∨ ∃ name k, e = .missingProperty name k

end

section
variable {P : EvalError → Prop}

mutual
theorem Expr.eval_failsOnly (ordinary : ∀ e, e.Ordinary → P e) : (e : Expr) → {s : Scope} →
    Permits P (e.parts false) → s.Permits P e.free → FailsOnly P (e.eval s)
  | .literal v, _, _, _ => by simp only [Expr.eval, failsOnly_ok]
  | .list items, _, parts, names => by
    simp only [Expr.parts, Expr.free] at parts names
    simp only [Expr.eval, failsOnly_map]
    exact evalItems_failsOnly ordinary items parts names
  | .ident name, s, _, names => by
    simp only [Expr.eval]
    exact names name (by simp [Expr.free])
  | .path base segments, s, parts, names => by
    simp only [Expr.parts, Expr.free, permits_append, Scope.permits_append] at parts names
    simp only [Expr.eval]
    refine (base.eval_failsOnly ordinary parts.1 names.1).bind fun v _ => ?_
    have rest := evalSegments_failsOnly ordinary segments v parts.2 names.2
    split
    · exact failsOnly_ok _
    · next other =>
      intro e failed
      rcases rest e failed with h | ⟨name, k, rfl⟩
      · exact h
      · exact (other name k failed).elim
  | .unary op operand, _, parts, names => by
    simp only [Expr.parts, Expr.free] at parts names
    simp only [Expr.eval]
    refine (operand.eval_failsOnly ordinary parts names).bind fun v _ => ?_
    exact op.apply_failsOnly ordinary v
  | .binary op left right, _, parts, names => by
    simp only [Expr.parts, Expr.free, permits_append, Scope.permits_append] at parts names
    simp only [Expr.eval]
    refine (left.eval_failsOnly ordinary parts.1 names.1).bind fun a _ => ?_
    split
    · exact failsOnly_ok _
    · refine (right.eval_failsOnly ordinary parts.2 names.2).bind fun b _ => ?_
      exact op.apply_failsOnly ordinary a b
  | .ternary condition yes no, _, parts, names => by
    simp only [Expr.parts, Expr.free, permits_append, Scope.permits_append] at parts names
    simp only [Expr.eval]
    refine (condition.eval_failsOnly ordinary parts.1.1 names.1.1).bind fun v _ => ?_
    split
    · exact yes.eval_failsOnly ordinary parts.1.2 names.1.2
    · exact no.eval_failsOnly ordinary parts.2 names.2
  | .elvis value fallback, _, parts, names => by
    simp only [Expr.parts, Expr.free, permits_append, Scope.permits_append] at parts names
    simp only [Expr.eval]
    refine (value.eval_failsOnly ordinary parts.1 names.1).bind fun v _ => ?_
    split
    · exact failsOnly_ok v
    · exact fallback.eval_failsOnly ordinary parts.2 names.2
  | .closure c, _, parts, _ => by
    simp only [Expr.parts, permits_cons] at parts
    simp only [Expr.eval, failsOnly_error]
    exact parts.1 rfl
theorem Closure.call_failsOnly (ordinary : ∀ e, e.Ordinary → P e) : (c : Closure) →
    (vs : List Value) → {s : Scope} → Permits P c.parts → s.Permits P c.free →
    FailsOnly P (c.call vs s)
  | .mk params locals body, vs, s, parts, names => by
    simp only [Closure.parts, Closure.free, permits_append] at parts names
    simp only [Closure.call]
    refine Meets.fails (R := fun _ => True) ?_
    refine (names.bindArguments ordinary vs).bind fun t arguments => ?_
    refine (bindLocals_meets ordinary locals parts.1 arguments).bind fun u known => ?_
    exact (body.eval_failsOnly ordinary parts.2 known).meets
theorem Segment.eval_failsOnly (ordinary : ∀ e, e.Ordinary → P e) : (g : Segment) → (v : Value) →
    {s : Scope} → Permits P g.parts → s.Permits P g.free → FailsOnly (g.Blames P) (g.eval v s)
  | .field name, v, _, _, _ => by
    simp only [Segment.eval]
    exact v.field_failsOnly (fun name k => .inr ⟨rfl, name, k, rfl⟩) name
  | .index selector, v, _, _, _ => by
    simp only [Segment.eval]
    refine Selector.apply_failsOnly (fun e h => .inl (ordinary e h)) selector v fun key same => ?_
    subst same
    exact v.field_failsOnly (fun name k => .inr ⟨rfl, name, k, rfl⟩) key
  | .wildcard, v, _, _, _ => by
    simp only [Segment.eval, failsOnly_map]
    exact v.childValues_failsOnly fun e h => .inl (ordinary e h)
  | .descent, _, _, _, _ => by simp only [Segment.eval, failsOnly_ok]
  | .call name args, v, s, parts, names => by
    simp only [Segment.parts, Segment.free, permits_cons] at parts names
    have ⟨first, calls⟩ := evalArguments_meets ordinary args parts.2 names
    simp only [Segment.eval]
    split
    · next unknown => exact (failsOnly_error _).mpr (.inl (parts.1 unknown))
    · next m known =>
      refine (first.mono fun e h => .inl h).bind fun as evaluated => ?_
      have label := Method.label_of_named? known
      refine m.invoke_failsOnly (fun e h => .inl (ordinary e h)) v as (fun lookup n k => ?_)
        fun c mem vs => (calls as evaluated c mem vs).mono fun e h => .inl h
      refine .inr ⟨?_, n, k, rfl⟩
      rcases lookup with rfl | rfl
      · subst label
        rfl
      · subst label
        rfl
  | .spread inner, v, s, parts, names => by
    simp only [Segment.parts, Segment.free] at parts names
    simp only [Segment.eval, failsOnly_map]
    exact .mapM fun i _ => inner.eval_failsOnly ordinary i parts names
theorem evalItems_failsOnly (ordinary : ∀ e, e.Ordinary → P e) : (es : List Expr) → {s : Scope} →
    Permits P (partsOfItems false es) → s.Permits P (freeOfItems es) → FailsOnly P (evalItems es s)
  | [], _, _, _ => by simp only [evalItems, failsOnly_ok]
  | e :: es, _, parts, names => by
    simp only [partsOfItems, freeOfItems, permits_append, Scope.permits_append] at parts names
    simp only [evalItems]
    refine (e.eval_failsOnly ordinary parts.1 names.1).bind fun v _ => ?_
    exact (evalItems_failsOnly ordinary es parts.2 names.2).bind fun vs _ => failsOnly_ok _
theorem evalSegments_failsOnly (ordinary : ∀ e, e.Ordinary → P e) : (gs : List Segment) →
    (v : Value) → {s : Scope} → Permits P (partsOfSegments gs) →
    s.Permits P (freeOfSegments gs) → FailsOnly (orMissing P) (evalSegments gs v s)
  | [], _, _, _, _ => by simp only [evalSegments, failsOnly_ok]
  | g :: gs, v, s, parts, names => by
    simp only [partsOfSegments, freeOfSegments, permits_append, Scope.permits_append] at parts names
    simp only [evalSegments]
    refine ((g.eval_failsOnly ordinary v parts.1 names.1).mono ?_).bind fun w _ =>
      evalSegments_failsOnly ordinary gs w parts.2 names.2
    rintro e (h | ⟨-, missing⟩)
    · exact .inl h
    · exact .inr missing
theorem evalArguments_meets (ordinary : ∀ e, e.Ordinary → P e) : (es : List Expr) →
    {s : Scope} → Permits P (partsOfItems true es) → s.Permits P (freeOfItems es) →
    Meets P (fun as => ∀ c, .closure c ∈ as → c.FailsOnly P) (evalArguments es s)
  | [], _, _, _ => by
    simp only [evalArguments]
    exact meets_ok fun c mem => nomatch mem
  | e :: es, s, parts, names => by
    simp only [partsOfItems, freeOfItems, permits_append, Scope.permits_append] at parts names
    have rest := evalArguments_meets ordinary es parts.2 names.2
    cases e with
    | closure c =>
      simp only [Expr.parts, Expr.free, permits_cons] at parts names
      simp only [evalArguments]
      refine rest.bind fun as calls => meets_ok fun d mem => ?_
      rcases List.mem_cons.mp mem with same | mem
      · cases same
        exact fun vs => c.call_failsOnly ordinary vs parts.1.2 names.1
      · exact calls d mem
    | _ =>
      have own := Expr.eval_failsOnly ordinary _ (by simpa only [Expr.parts] using parts.1) names.1
      refine own.meets.bind fun v _ => ?_
      refine rest.bind fun as calls => meets_ok fun d mem => ?_
      rcases List.mem_cons.mp mem with same | mem
      · cases same
      · exact calls d mem
theorem bindLocals_meets (ordinary : ∀ e, e.Ordinary → P e) : (ls : List (String × Expr)) →
    {inner : List String} → {s : Scope} → Permits P (partsOfLocals ls) →
    s.Permits P (freeOfLocals ls inner) → Meets P (Scope.Permits P inner) (bindLocals ls s)
  | [], _, s, _, names => by
    simp only [bindLocals]
    exact meets_ok (by simpa only [freeOfLocals] using names)
  | (name, e) :: ls, inner, s, parts, names => by
    simp only [partsOfLocals, freeOfLocals, permits_append, Scope.permits_append] at parts names
    simp only [bindLocals]
    refine (e.eval_failsOnly ordinary parts.1 names.1).meets.bind fun v _ => ?_
    exact bindLocals_meets ordinary ls parts.2 (names.2.bind v)
end

theorem Path.evalFrom_blames (ordinary : ∀ e, e.Ordinary → P e) {s : Scope} (gs : List Segment)
    (index : Nat) (v : Value) (parts : Permits P (partsOfSegments gs))
    (names : s.Permits P (freeOfSegments gs)) {e : QueryError}
    (failed : evalFrom s index gs v = .error e) :
    ∃ i g, gs[i]? = some g ∧ e.index = index + i ∧ e.segment = g.text ∧ g.Blames P e.source := by
  induction gs generalizing index v with
  | nil => cases failed
  | cons g gs ih =>
    simp only [partsOfSegments, freeOfSegments, permits_append, Scope.permits_append] at parts names
    unfold evalFrom at failed
    split at failed
    · next w _ =>
      obtain ⟨i, h, found, place, text, blames⟩ := ih (index + 1) w parts.2 names.2 failed
      exact ⟨i + 1, h, found, by omega, text, blames⟩
    · next f refused =>
      cases failed
      exact ⟨0, g, rfl, rfl, rfl, g.eval_failsOnly ordinary v parts.1 names.1 f refused⟩
end

end DocPath
