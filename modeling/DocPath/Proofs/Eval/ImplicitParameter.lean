import DocPath.Proofs.Eval.Renaming

/-!
The implicit parameter is an ordinary one. Methods see of a closure only whether it declares two
parameters and what it gives on one argument, or on two if it declares two; a closure without
parameters and the one that declares a name for its argument agree in that, so every method gives
the same with either.
-/

namespace DocPath

namespace Callback

/-- Callbacks that no method tells apart. -/
structure Alike (c d : Callback) : Prop where
  left : c.arity ≠ 2
  right : d.arity ≠ 2
  call : ∀ v, c.call [v] = d.call [v]

variable {c d : Callback}

theorem Alike.callEntry (h : Alike c d) (key : String) (v : Value) :
    c.callEntry key v = d.callEntry key v := by
  simp only [Callback.callEntry, if_neg h.left, if_neg h.right, h.call]

theorem Alike.keeps (h : Alike c d) : keeps (some c) = keeps (some d) := by
  funext v
  simp only [DocPath.keeps, Callback.test, h.call]

theorem Alike.keepsEntry (h : Alike c d) : keepsEntry (some c) = keepsEntry (some d) := by
  funext p
  simp only [DocPath.keepsEntry, Callback.testEntry, h.callEntry]

theorem Alike.grepKeeps (h : Alike c d) (value : Option Value) :
    grepKeeps value (some c) = grepKeeps value (some d) := by
  funext v
  simp only [DocPath.grepKeeps, Callback.test, h.call]

theorem Alike.countKeeps (h : Alike c d) (value : Option Value) :
    countKeeps value (some c) = countKeeps value (some d) := by
  funext v
  simp only [DocPath.countKeeps, Callback.test, h.call]

theorem Alike.sortOrder (h : Alike c d) : sortOrder (some c) = sortOrder (some d) := by
  funext a b
  simp only [DocPath.sortOrder, if_neg h.left, if_neg h.right, h.call]

theorem Alike.extremeKey (h : Alike c d) (v : Value) :
    extremeKey (some c) v = extremeKey (some d) v := by
  simp only [DocPath.extremeKey, if_neg h.left, if_neg h.right, h.call]

theorem Alike.extremeOrder (h : Alike c d) : extremeOrder (some c) = extremeOrder (some d) := by
  funext v key best bestKey
  simp only [DocPath.extremeOrder, if_neg h.left, if_neg h.right]

theorem Alike.extreme (h : Alike c d) (wanted : Ordering) (best : Option (Value × Value))
    (vs : List Value) : extreme wanted (some c) best vs = extreme wanted (some d) best vs := by
  induction vs generalizing best with
  | nil => rfl
  | cons v vs ih => simp only [DocPath.extreme, h.extremeKey, h.extremeOrder, ih]

end Callback

namespace Method

variable {c d : Callback}

theorem findAllIn_alike (h : c.Alike d) (v : Value) :
    findAllIn v (some c) = findAllIn v (some d) := by
  simp only [findAllIn, h.keeps, h.keepsEntry]

theorem findIn_alike (h : c.Alike d) (v : Value) : findIn v (some c) = findIn v (some d) := by
  simp only [findIn, h.keeps, h.keepsEntry]

theorem collectIn_alike (h : c.Alike d) (v : Value) :
    collectIn v (some c) = collectIn v (some d) := by
  simp only [collectIn, h.call, h.callEntry]

theorem anyIn_alike (h : c.Alike d) (v : Value) : anyIn v (some c) = anyIn v (some d) := by
  simp only [anyIn, h.keeps, h.keepsEntry]

theorem everyIn_alike (h : c.Alike d) (v : Value) : everyIn v (some c) = everyIn v (some d) := by
  simp only [everyIn, h.keeps, h.keepsEntry]

theorem apply_alike {args others : List Argument} (h : c.Alike d)
    (value : valueArgument? args = valueArgument? others)
    (left : closureArgument? args = some c) (right : closureArgument? others = some d)
    (m : Method) (v : Value) : m.apply v args = m.apply v others := by
  unfold apply
  simp only [value, left, right]
  cases m with
  | findAll => exact findAllIn_alike h v
  | find => exact findIn_alike h v
  | collect => exact collectIn_alike h v
  | any => exact anyIn_alike h v
  | every => exact everyIn_alike h v
  | grep => simp only [h.grepKeeps]
  | count => simp only [h.countKeeps]
  | sort => simp only [h.sortOrder]
  | sum => simp only [h.call]
  | min => exact h.extreme .lt none v.items
  | max => exact h.extreme .gt none v.items
  | _ => rfl

end Method

theorem valueArgument?_skip (c : Callback) (before after : List Argument) :
    valueArgument? (before ++ .closure c :: after) = valueArgument? (before ++ after) := by
  induction before with
  | nil => rfl
  | cons a before ih =>
    cases a with
    | value v => rfl
    | closure b => exact ih

theorem closureArgument?_last (c : Callback) (before : List Argument) :
    closureArgument? (before ++ [.closure c]) = some c := by
  simp only [closureArgument?, List.getLast?_concat]

theorem closureArgument?_skip (c : Callback) (a : Argument) (before after : List Argument) :
    closureArgument? (before ++ .closure c :: a :: after) = closureArgument? (a :: after) := by
  simp only [closureArgument?, List.getLast?_append, List.getLast?_cons, Option.getD_some,
    Option.some_or]

theorem Method.invoke_alike {c d : Callback} (h : c.Alike d) (m : Method) (v : Value)
    (before after : List Argument) :
    m.invoke v (before ++ .closure c :: after) = m.invoke v (before ++ .closure d :: after) := by
  have value : valueArgument? (before ++ .closure c :: after) =
      valueArgument? (before ++ .closure d :: after) := by
    rw [valueArgument?_skip, valueArgument?_skip]
  have same : m.apply v (before ++ .closure c :: after) =
      m.apply v (before ++ .closure d :: after) := by
    cases after with
    | nil =>
      exact apply_alike h value (closureArgument?_last c before) (closureArgument?_last d before) m v
    | cons a after =>
      unfold apply
      rw [value, closureArgument?_skip, closureArgument?_skip]
  simp only [invoke, same]

theorem evalArguments_with (c : Closure) (before after : List Expr) (s : Scope) :
    evalArguments (before ++ .closure c :: after) s = (do
      let xs ← evalArguments before s
      let ys ← evalArguments after s
      .ok (xs ++ .closure (c.toCallback s) :: ys)) := by
  induction before with
  | nil => rfl
  | cons e before ih =>
    cases e with
    | closure d =>
      simp only [List.cons_append, evalArguments, ih]
      cases evalArguments before s with
      | error e => rfl
      | ok xs => cases evalArguments after s <;> rfl
    | _ =>
      simp only [List.cons_append, evalArguments, ih]
      cases Expr.eval _ s with
      | error e => rfl
      | ok v =>
        cases evalArguments before s with
        | error e => rfl
        | ok xs => cases evalArguments after s <;> rfl

variable {x : String} {c : Closure}

theorem Closure.alike_declaring (implicit : c.params = []) (fresh : x ∉ c.names) (s : Scope) :
    (c.toCallback s).Alike ((c.declaring x).toCallback s) where
  left := by
    have none : (c.toCallback s).arity = 0 := by rw [toCallback, implicit, List.length_nil]
    omega
  right := by
    have one : ((c.declaring x).toCallback s).arity = 1 := by
      rw [toCallback, declaring, params_nameIt]
      rfl
    omega
  call v := c.call_declaring implicit fresh v s

/-- A method gives the same with a closure that has no parameters and with the one that declares a
new name and uses it in the place of `it`: of any receiver, with any other arguments, in any
scope. -/
theorem implicit_parameter_is_ordinary (implicit : c.params = []) (fresh : x ∉ c.names) :
    (∀ (m : Method) (v : Value) (before after : List Argument) (s : Scope),
      m.invoke v (before ++ .closure (c.toCallback s) :: after) =
        m.invoke v (before ++ .closure ((c.declaring x).toCallback s) :: after)) ∧
    ∀ (name : String) (v : Value) (before after : List Expr) (s : Scope),
      (Segment.call name (before ++ .closure c :: after)).eval v s =
        (Segment.call name (before ++ .closure (c.declaring x) :: after)).eval v s := by
  have invoked (m : Method) (v : Value) (before after : List Argument) (s : Scope) :=
    m.invoke_alike (c.alike_declaring implicit fresh s) v before after
  refine ⟨invoked, fun name v before after s => ?_⟩
  simp only [Segment.eval, evalArguments_with]
  cases Method.named? name with
  | none => rfl
  | some m =>
    cases evalArguments before s with
    | error e => rfl
    | ok xs =>
      cases evalArguments after s with
      | error e => rfl
      | ok ys => exact invoked m v xs ys s

theorem implicit_parameter_is_ordinary_sum :
    (Segment.call "sum" [.literal (.number (.int 1)), .closure (.mk [] [("y", .ident "it")]
        (.binary .mul (.ident "y") (.ident "it")))]).eval (.list [.number (.int 3)]) (.ofParams []) =
      (Segment.call "sum" [.literal (.number (.int 1)), .closure (.mk ["n"] [("y", .ident "n")]
        (.binary .mul (.ident "y") (.ident "n")))]).eval (.list [.number (.int 3)]) (.ofParams []) ∧
    (Segment.call "sum" [.literal (.number (.int 1)), .closure (.mk [] [("y", .ident "it")]
        (.binary .mul (.ident "y") (.ident "it")))]).eval (.list [.number (.int 3)]) (.ofParams []) =
      .ok (.number (.int 10)) := by
  have fresh : "n" ∉ (Closure.mk [] [("y", .ident "it")]
      (.binary .mul (.ident "y") (.ident "it"))).names := by decide
  exact ⟨(implicit_parameter_is_ordinary rfl fresh).2 "sum" _ [.literal (.number (.int 1))] [] _,
    rfl⟩

end DocPath
