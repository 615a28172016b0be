import DocPath.Proofs.Eval.FreeNames

/-!
Another name for `it`. A closure that declares no parameter and one that declares a new name, and
uses it in the place of the free `it`, give the same value or the same failure on one argument.
-/

namespace DocPath

mutual
def Expr.names : Expr → List String
  | .literal _ => []
  | .list items => namesOfItems items
  | .ident name => [name]
  | .path base segments => base.names ++ namesOfSegments segments
  | .unary _ operand => operand.names
  | .binary _ left right => left.names ++ right.names
  | .ternary condition yes no => condition.names ++ yes.names ++ no.names
  | .elvis value fallback => value.names ++ fallback.names
  | .closure c => c.names
def Closure.names : Closure → List String
  | .mk params locals body => params ++ namesOfLocals locals ++ body.names
def Segment.names : Segment → List String
  | .call _ args => namesOfItems args
  | .spread inner => inner.names
  | _ => []
def namesOfItems : List Expr → List String
  | [] => []
  | e :: es => e.names ++ namesOfItems es
def namesOfSegments : List Segment → List String
  | [] => []
  | s :: ss => s.names ++ namesOfSegments ss
def namesOfLocals : List (String × Expr) → List String
  | [] => []
  | (name, e) :: ls => name :: (e.names ++ namesOfLocals ls)
end

mutual
/-- An expression with another name in the place of the free `it`. -/
def Expr.nameIt (x : String) : Expr → Expr
  | .literal v => .literal v
  | .list items => .list (nameItInItems x items)
  | .ident name => .ident (if name = "it" then x else name)
  | .path base segments => .path (base.nameIt x) (nameItInSegments x segments)
  | .unary op operand => .unary op (operand.nameIt x)
  | .binary op left right => .binary op (left.nameIt x) (right.nameIt x)
  | .ternary condition yes no =>
    .ternary (condition.nameIt x) (yes.nameIt x) (no.nameIt x)
  | .elvis value fallback => .elvis (value.nameIt x) (fallback.nameIt x)
  | .closure c => .closure (c.nameIt x)
/-- Nothing is renamed below a closure that binds `it`, or behind a local that does. -/
def Closure.nameIt (x : String) : Closure → Closure
  | .mk params locals body =>
    if "it" ∈ boundNames params then .mk params locals body
    else .mk params (nameItInLocals x locals)
      (if "it" ∈ locals.map Prod.fst then body else body.nameIt x)
def Segment.nameIt (x : String) : Segment → Segment
  | .call name args => .call name (nameItInItems x args)
  | .spread inner => .spread (inner.nameIt x)
  | g => g
def nameItInItems (x : String) : List Expr → List Expr
  | [] => []
  | e :: es => e.nameIt x :: nameItInItems x es
def nameItInSegments (x : String) : List Segment → List Segment
  | [] => []
  | s :: ss => s.nameIt x :: nameItInSegments x ss
def nameItInLocals (x : String) : List (String × Expr) → List (String × Expr)
  | [] => []
  | (name, e) :: ls => (name, e.nameIt x) :: (if name = "it" then ls else nameItInLocals x ls)
end

theorem Closure.params_nameIt (x : String) (c : Closure) : (c.nameIt x).params = c.params := by
  obtain ⟨params, locals, body⟩ := c
  simp only [Closure.nameIt]
  split <;> rfl

/-- The closure that declares a name for its only argument and uses it in the place of `it`. -/
def Closure.declaring (x : String) (c : Closure) : Closure :=
  (Closure.mk [x] c.locals c.body).nameIt x

example : (Closure.mk [] [("y", .ident "it")] (.path (.ident "y")
    [.call "find" [.closure (.mk [] [] (.ident "it"))],
      .call "find" [.closure (.mk ["z"] [("it", .ident "it")] (.ident "it"))]])).declaring "x" =
    .mk ["x"] [("y", .ident "x")] (.path (.ident "y")
      [.call "find" [.closure (.mk [] [] (.ident "it"))],
        .call "find" [.closure (.mk ["z"] [("it", .ident "x")] (.ident "it"))]]) := rfl

section
variable {x : String}

mutual
theorem Expr.not_free : (e : Expr) → x ∉ e.names → x ∉ e.free
  | .literal _, _ => by simp [Expr.free]
  | .list items, fresh => by
    simp only [Expr.names] at fresh
    simp only [Expr.free]
    exact items_not_free items fresh
  | .ident name, fresh => by simpa only [Expr.names, Expr.free] using fresh
  | .path base segments, fresh => by
    simp only [Expr.names, List.mem_append, not_or] at fresh
    simp only [Expr.free, List.mem_append, not_or]
    exact ⟨base.not_free fresh.1, segments_not_free segments fresh.2⟩
  | .unary _ operand, fresh => by
    simp only [Expr.names] at fresh
    simp only [Expr.free]
    exact operand.not_free fresh
  | .binary _ left right, fresh => by
    simp only [Expr.names, List.mem_append, not_or] at fresh
    simp only [Expr.free, List.mem_append, not_or]
    exact ⟨left.not_free fresh.1, right.not_free fresh.2⟩
  | .ternary condition yes no, fresh => by
    simp only [Expr.names, List.mem_append, not_or] at fresh
    simp only [Expr.free, List.mem_append, not_or]
    exact ⟨⟨condition.not_free fresh.1.1, yes.not_free fresh.1.2⟩, no.not_free fresh.2⟩
  | .elvis value fallback, fresh => by
    simp only [Expr.names, List.mem_append, not_or] at fresh
    simp only [Expr.free, List.mem_append, not_or]
    exact ⟨value.not_free fresh.1, fallback.not_free fresh.2⟩
  | .closure c, fresh => by
    simp only [Expr.names] at fresh
    simp only [Expr.free]
    exact c.not_free fresh
theorem Closure.not_free : (c : Closure) → x ∉ c.names → x ∉ c.free
  | .mk _ locals body, fresh => by
    simp only [Closure.names, List.mem_append, not_or] at fresh
    simp only [Closure.free, List.mem_filter, not_and]
    exact fun free => absurd free (locals_not_free locals fresh.1.2 (body.not_free fresh.2))
theorem Segment.not_free : (g : Segment) → x ∉ g.names → x ∉ g.free
  | .call _ args, fresh => by
    simp only [Segment.names] at fresh
    simp only [Segment.free]
    exact items_not_free args fresh
  | .spread inner, fresh => by
    simp only [Segment.names] at fresh
    simp only [Segment.free]
    exact inner.not_free fresh
  | .field _, _ | .index _, _ | .wildcard, _ | .descent, _ => by simp [Segment.free]
theorem items_not_free : (es : List Expr) → x ∉ namesOfItems es → x ∉ freeOfItems es
  | [], _ => by simp [freeOfItems]
  | e :: es, fresh => by
    simp only [namesOfItems, List.mem_append, not_or] at fresh
    simp only [freeOfItems, List.mem_append, not_or]
    exact ⟨e.not_free fresh.1, items_not_free es fresh.2⟩
theorem segments_not_free : (gs : List Segment) → x ∉ namesOfSegments gs → x ∉ freeOfSegments gs
  | [], _ => by simp [freeOfSegments]
  | g :: gs, fresh => by
    simp only [namesOfSegments, List.mem_append, not_or] at fresh
    simp only [freeOfSegments, List.mem_append, not_or]
    exact ⟨g.not_free fresh.1, segments_not_free gs fresh.2⟩
theorem locals_not_free : (ls : List (String × Expr)) → {inner : List String} →
    x ∉ namesOfLocals ls → x ∉ inner → x ∉ freeOfLocals ls inner
  | [], _, _, outside => by simpa only [freeOfLocals] using outside
  | (_, e) :: ls, _, fresh, outside => by
    simp only [namesOfLocals, List.mem_cons, List.mem_append, not_or] at fresh
    simp only [freeOfLocals, List.mem_append, List.mem_filter, not_or, not_and]
    exact ⟨e.not_free fresh.2.1, fun free =>
      absurd free (locals_not_free ls fresh.2.2 outside)⟩
end

namespace Scope

variable {s t : Scope}

/-- One scope shows under a name what the other one shows under `it`; names other than these two
show the same in both. -/
def ItNamed (x : String) (s t : Scope) : Prop :=
  ∀ y, y ≠ x → s.lookup y = t.lookup (if y = "it" then x else y)

theorem itNamed_bind (s : Scope) (x : String) (v : Value) :
    ItNamed x (s.bind "it" v) (s.bind x v) := by
  intro y other
  rw [lookup_bind, lookup_bind]
  by_cases it : y = "it"
  · simp [it]
  · simp [it, other]

theorem ItNamed.bind {name : String} (h : ItNamed x s t) (it : name ≠ "it") (fresh : name ≠ x)
    (v : Value) : ItNamed x (s.bind name v) (t.bind name v) := by
  intro y other
  rw [lookup_bind, lookup_bind, h y other]
  by_cases same : y = "it"
  · simp [same, it.symm, fresh.symm]
  · simp [same]

theorem ItNamed.bindAll {params : List String} {vs : List Value} (h : ItNamed x s t)
    (it : "it" ∉ params) (fresh : x ∉ params) :
    ItNamed x (s.bindAll params vs) (t.bindAll params vs) := by
  induction params generalizing s t vs with
  | nil => exact h
  | cons p ps ih =>
    simp only [List.mem_cons, not_or] at it fresh
    rw [bindAll_cons, bindAll_cons]
    exact ih (h.bind (Ne.symm it.1) (Ne.symm fresh.1) _) it.2 fresh.2

theorem ItNamed.agree {names : List String} (h : ItNamed x s t) (it : "it" ∉ names)
    (fresh : x ∉ names) : Agree names s t := by
  intro y mem
  have other : y ≠ "it" := fun e => it (e ▸ mem)
  have same := h y fun e => fresh (e ▸ mem)
  rwa [if_neg other] at same

theorem ItNamed.agree_bind {names : List String} (h : ItNamed x s t) (fresh : x ∉ names)
    (v : Value) : Agree names (s.bind "it" v) (t.bind "it" v) := by
  refine Agree.bind (h.agree (by simp) ?_) v
  simp only [List.mem_filter, not_and]
  exact fun mem => absurd mem fresh

theorem ItNamed.bindArguments {params : List String} (vs : List Value) (h : ItNamed x s t)
    (it : "it" ∉ boundNames params) (fresh : x ∉ params) :
    (∃ e, bindArguments params vs s = .error e ∧ bindArguments params vs t = .error e) ∨
      ∃ s' t', bindArguments params vs s = .ok s' ∧ bindArguments params vs t = .ok t' ∧
        ItNamed x s' t' := by
  have declared : params.isEmpty = false := by
    cases params with
    | nil => simp [boundNames] at it
    | cons p ps => rfl
  simp only [boundNames, declared, Bool.false_eq_true, if_false] at it
  simp only [DocPath.bindArguments, declared, Bool.false_eq_true, if_false]
  split
  · exact .inl ⟨_, rfl, rfl⟩
  · exact .inr ⟨_, _, rfl, rfl, h.bindAll it fresh⟩

end Scope

theorem bind_eq_of_related {α β : Type} {R : α → α → Prop} {r r' : Eval α} {f g : α → Eval β}
    (h : (∃ e, r = .error e ∧ r' = .error e) ∨ ∃ a b, r = .ok a ∧ r' = .ok b ∧ R a b)
    (next : ∀ a b, R a b → f a = g b) : (r >>= f) = (r' >>= g) := by
  obtain ⟨e, rfl, rfl⟩ | ⟨a, b, rfl, rfl, related⟩ := h
  · rfl
  · exact next a b related

mutual
theorem Expr.eval_nameIt : (e : Expr) → {s t : Scope} → x ∉ e.names → s.ItNamed x t →
    e.eval s = (e.nameIt x).eval t
  | .literal _, _, _, _, _ => by simp only [Expr.nameIt, Expr.eval]
  | .list items, _, _, fresh, h => by
    simp only [Expr.names] at fresh
    simp only [Expr.nameIt, Expr.eval, evalItems_nameIt items fresh h]
  | .ident name, _, _, fresh, h => by
    simp only [Expr.names, List.mem_singleton] at fresh
    simp only [Expr.nameIt, Expr.eval]
    exact h name (Ne.symm fresh)
  | .path base segments, s, t, fresh, h => by
    simp only [Expr.names, List.mem_append, not_or] at fresh
    simp only [Expr.nameIt, Expr.eval, base.eval_nameIt fresh.1 h]
    cases (base.nameIt x).eval t with
    | error e => rfl
    | ok v => simp only [bind, Except.bind, evalSegments_nameIt segments v fresh.2 h]
  | .unary _ operand, _, _, fresh, h => by
    simp only [Expr.names] at fresh
    simp only [Expr.nameIt, Expr.eval, operand.eval_nameIt fresh h]
  | .binary _ left right, _, _, fresh, h => by
    simp only [Expr.names, List.mem_append, not_or] at fresh
    simp only [Expr.nameIt, Expr.eval, left.eval_nameIt fresh.1 h, right.eval_nameIt fresh.2 h]
  | .ternary condition yes no, _, _, fresh, h => by
    simp only [Expr.names, List.mem_append, not_or] at fresh
    simp only [Expr.nameIt, Expr.eval, condition.eval_nameIt fresh.1.1 h,
      yes.eval_nameIt fresh.1.2 h, no.eval_nameIt fresh.2 h]
  | .elvis value fallback, _, _, fresh, h => by
    simp only [Expr.names, List.mem_append, not_or] at fresh
    simp only [Expr.nameIt, Expr.eval, value.eval_nameIt fresh.1 h,
      fallback.eval_nameIt fresh.2 h]
  | .closure _, _, _, _, _ => by simp only [Expr.nameIt, Expr.eval]
theorem Closure.call_nameIt : (c : Closure) → (vs : List Value) → {s t : Scope} → x ∉ c.names →
    s.ItNamed x t → c.call vs s = (c.nameIt x).call vs t
  | .mk params locals body, vs, s, t, fresh, h => by
    have outside := (Closure.mk params locals body).not_free fresh
    simp only [Closure.names, List.mem_append, not_or] at fresh
    simp only [Closure.nameIt]
    split
    · next it =>
      refine Closure.call_agree _ vs (h.agree ?_ outside)
      simp only [Closure.free, List.mem_filter, decide_eq_true_eq, not_and, Decidable.not_not]
      exact fun _ => it
    · next it =>
      simp only [Closure.call]
      refine bind_eq_of_related (h.bindArguments vs it fresh.1.1) fun s' t' named => ?_
      refine bind_eq_of_related (bindLocals_nameIt locals fresh.1.2 (body.not_free fresh.2) named)
        fun s'' t'' same => ?_
      by_cases bound : "it" ∈ locals.map Prod.fst
      · rw [if_pos bound] at same ⊢
        exact body.eval_agree same
      · rw [if_neg bound] at same ⊢
        exact body.eval_nameIt fresh.2 same
theorem Segment.eval_nameIt : (g : Segment) → (v : Value) → {s t : Scope} → x ∉ g.names →
    s.ItNamed x t → g.eval v s = (g.nameIt x).eval v t
  | .field _, _, _, _, _, _ => by simp only [Segment.nameIt, Segment.eval]
  | .index _, _, _, _, _, _ => by simp only [Segment.nameIt, Segment.eval]
  | .wildcard, _, _, _, _, _ => by simp only [Segment.nameIt, Segment.eval]
  | .descent, _, _, _, _, _ => by simp only [Segment.nameIt, Segment.eval]
  | .call _ args, _, _, _, fresh, h => by
    simp only [Segment.names] at fresh
    simp only [Segment.nameIt, Segment.eval, evalArguments_nameIt args fresh h]
  | .spread inner, v, s, t, fresh, h => by
    simp only [Segment.names] at fresh
    have same : (fun i => inner.eval i s) = fun i => (inner.nameIt x).eval i t :=
      funext fun i => inner.eval_nameIt i fresh h
    simp only [Segment.nameIt, Segment.eval, same]
theorem evalItems_nameIt : (es : List Expr) → {s t : Scope} → x ∉ namesOfItems es →
    s.ItNamed x t → evalItems es s = evalItems (nameItInItems x es) t
  | [], _, _, _, _ => by simp only [nameItInItems, evalItems]
  | e :: es, _, _, fresh, h => by
    simp only [namesOfItems, List.mem_append, not_or] at fresh
    simp only [nameItInItems, evalItems, e.eval_nameIt fresh.1 h, evalItems_nameIt es fresh.2 h]
theorem evalSegments_nameIt : (gs : List Segment) → (v : Value) → {s t : Scope} →
    x ∉ namesOfSegments gs → s.ItNamed x t →
    evalSegments gs v s = evalSegments (nameItInSegments x gs) v t
  | [], _, _, _, _, _ => by simp only [nameItInSegments, evalSegments]
  | g :: gs, v, _, t, fresh, h => by
    simp only [namesOfSegments, List.mem_append, not_or] at fresh
    simp only [nameItInSegments, evalSegments, g.eval_nameIt v fresh.1 h]
    cases (g.nameIt x).eval v t with
    | error e => rfl
    | ok w => exact evalSegments_nameIt gs w fresh.2 h
theorem evalArguments_nameIt : (es : List Expr) → {s t : Scope} → x ∉ namesOfItems es →
    s.ItNamed x t → evalArguments es s = evalArguments (nameItInItems x es) t
  | [], _, _, _, _ => by simp only [nameItInItems, evalArguments]
  | e :: es, s, t, fresh, h => by
    simp only [namesOfItems, List.mem_append, not_or] at fresh
    have value := e.eval_nameIt fresh.1 h
    have rest := evalArguments_nameIt es fresh.2 h
    cases e with
    | closure c =>
      have same : (fun vs => c.call vs s) = fun vs => (c.nameIt x).call vs t :=
        funext fun vs => c.call_nameIt vs (by simpa only [Expr.names] using fresh.1) h
      simp only [nameItInItems, Expr.nameIt, evalArguments, same, rest, c.params_nameIt]
    | _ =>
      simp only [Expr.nameIt] at value
      simp only [nameItInItems, Expr.nameIt, evalArguments, value, rest]
theorem bindLocals_nameIt : (ls : List (String × Expr)) → {inner : List String} →
    {s t : Scope} → x ∉ namesOfLocals ls → x ∉ inner → s.ItNamed x t →
    (∃ e, bindLocals ls s = .error e ∧ bindLocals (nameItInLocals x ls) t = .error e) ∨
      ∃ s' t', bindLocals ls s = .ok s' ∧ bindLocals (nameItInLocals x ls) t = .ok t' ∧
        if "it" ∈ ls.map Prod.fst then Scope.Agree inner s' t' else s'.ItNamed x t'
  | [], _, s, t, _, _, h => by
    simp only [nameItInLocals, bindLocals]
    exact .inr ⟨s, t, rfl, rfl, by simpa using h⟩
  | (name, e) :: ls, inner, s, t, fresh, outside, h => by
    simp only [namesOfLocals, List.mem_cons, List.mem_append, not_or] at fresh
    simp only [nameItInLocals, bindLocals, e.eval_nameIt fresh.2.1 h]
    cases (e.nameIt x).eval t with
    | error failure => exact .inl ⟨failure, rfl, rfl⟩
    | ok v =>
      simp only [bind, Except.bind, List.map_cons, List.mem_cons]
      by_cases it : name = "it"
      · subst it
        simp only [if_true, true_or]
        exact bindLocals_agree ls (h.agree_bind (locals_not_free ls fresh.2.2 outside) v)
      · have kept := bindLocals_nameIt ls fresh.2.2 outside (h.bind it (Ne.symm fresh.1) v)
        simpa only [it, if_false, Ne.symm it, false_or] using kept
end

/-- On one argument, a closure without parameters gives what it gives with a new name declared. -/
theorem Closure.call_declaring {c : Closure} (implicit : c.params = []) (fresh : x ∉ c.names)
    (v : Value) (s : Scope) : c.call [v] s = (c.declaring x).call [v] s := by
  obtain ⟨params, locals, body⟩ := c
  cases implicit
  simp only [Closure.names, List.nil_append, List.mem_append, not_or] at fresh
  by_cases it : x = "it"
  · subst it
    simp only [Closure.declaring, Closure.nameIt, boundNames, Closure.locals, Closure.body]
    rfl
  · have declared : "it" ∉ boundNames [x] := by simp [boundNames, Ne.symm it]
    have renamed : (Closure.mk [] locals body).declaring x = .mk [x] (nameItInLocals x locals)
        (if "it" ∈ locals.map Prod.fst then body else body.nameIt x) := by
      show (Closure.mk [x] locals body).nameIt x = _
      rw [Closure.nameIt, if_neg declared]
    rw [renamed]
    simp only [Closure.call]
    show (bindLocals locals (s.bind "it" v) >>= body.eval) =
      (bindLocals (nameItInLocals x locals) (s.bind x v) >>= _)
    refine bind_eq_of_related (bindLocals_nameIt locals fresh.1 (body.not_free fresh.2)
      (s.itNamed_bind x v)) fun s' t' same => ?_
    by_cases bound : "it" ∈ locals.map Prod.fst
    · rw [if_pos bound] at same ⊢
      exact body.eval_agree same
    · rw [if_neg bound] at same ⊢
      exact body.eval_nameIt fresh.2 same

end

end DocPath
