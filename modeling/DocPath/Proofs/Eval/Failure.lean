import DocPath.Eval.Basic

/-!
What an evaluation can fail with. `FailsOnly P r` says that every failure of `r` has the property
`P`; it is passed along by what evaluations are built of, and a method adds only ordinary failures
to those of the closures that it calls.
-/

namespace DocPath

/-- Failures that are about the values at hand: not about a name, a closure in the wrong place or
a missing property. -/
inductive EvalError.Ordinary : EvalError → Prop
  | incompatibleShape (segment : String) (found : Kind) :
    Ordinary (.incompatibleShape segment found)
  | indexOutOfBounds (index : Int64) (length : Nat) : Ordinary (.indexOutOfBounds index length)
  | ofMethod (m : Method) (message : String) : Ordinary (.arguments m.label message)
  | closureArity (expected given : Nat) : Ordinary (closureArityError expected given)
  | notNumeric (found : Kind) : Ordinary (.notNumeric found)
  | incomparable (left right : Kind) : Ordinary (.incomparable left right)
  | divisionByZero : Ordinary .divisionByZero
  | regex (pattern : String) : Ordinary (.regex pattern)
  | coercion (e : CoercionError) : Ordinary (.coercion e)

def FailsOnly {α : Type} (P : EvalError → Prop) (r : Eval α) : Prop := ∀ e, r = .error e → P e

section
variable {α β : Type} {P Q : EvalError → Prop} {r : Eval α}

@[simp] theorem failsOnly_ok (a : α) : FailsOnly P (.ok a : Eval α) := by
  intro e failed
  cases failed

@[simp] theorem failsOnly_error (e : EvalError) : FailsOnly P (.error e : Eval α) ↔ P e := by
  constructor
  · intro h
    exact h e rfl
  · intro h f failed
    cases failed
    exact h

@[simp] theorem failsOnly_map (f : α → β) : FailsOnly P (r.map f) ↔ FailsOnly P r := by
  cases r with
  | ok a => exact iff_of_true (failsOnly_ok (f a)) (failsOnly_ok a)
  | error e => exact (failsOnly_error e).trans (failsOnly_error e).symm

theorem FailsOnly.mono (h : FailsOnly P r) (more : ∀ e, P e → Q e) : FailsOnly Q r :=
  fun e failed => more e (h e failed)

theorem FailsOnly.bind {f : α → Eval β} (h : FailsOnly P r)
    (next : ∀ a, r = .ok a → FailsOnly P (f a)) : FailsOnly P (r >>= f) := by
  cases r with
  | ok a => exact next a rfl
  | error e => exact (failsOnly_error e).mpr (h e rfl)

/-- Every failure has a property, and so has every result. -/
structure Meets (P : EvalError → Prop) (R : α → Prop) (r : Eval α) : Prop where
  fails : FailsOnly P r
  gives : ∀ a, r = .ok a → R a

theorem meets_ok {R : α → Prop} {a : α} (h : R a) : Meets P R (.ok a) := by
  refine ⟨failsOnly_ok a, fun b given => ?_⟩
  cases given
  exact h

theorem FailsOnly.meets (h : FailsOnly P r) : Meets P (fun _ => True) r := ⟨h, fun _ _ => trivial⟩

theorem Meets.bind {R : α → Prop} {S : β → Prop} {f : α → Eval β} (h : Meets P R r)
    (next : ∀ a, R a → Meets P S (f a)) : Meets P S (r >>= f) := by
  cases r with
  | ok a => exact next a (h.gives a rfl)
  | error e => exact ⟨(failsOnly_error e).mpr (h.fails e rfl), fun b given => nomatch given⟩

theorem FailsOnly.mapM {f : α → Eval β} {as : List α} (h : ∀ a ∈ as, FailsOnly P (f a)) :
    FailsOnly P (as.mapM f) := by
  induction as with
  | nil => exact failsOnly_ok []
  | cons a as ih =>
    rw [List.mapM_cons]
    refine (h a List.mem_cons_self).bind fun b _ => ?_
    refine (ih fun c mem => h c (List.mem_cons_of_mem a mem)).bind fun bs _ => ?_
    exact failsOnly_ok (b :: bs)

theorem FailsOnly.filterEval {test : α → Eval Bool} (as : List α)
    (h : ∀ a, FailsOnly P (test a)) : FailsOnly P (filterEval test as) := by
  induction as with
  | nil => exact failsOnly_ok []
  | cons a as ih => exact (h a).bind fun keep _ => ih.bind fun rest _ => failsOnly_ok _

theorem FailsOnly.findEval {test : α → Eval Bool} (as : List α)
    (h : ∀ a, FailsOnly P (test a)) : FailsOnly P (findEval test as) := by
  induction as with
  | nil => exact failsOnly_ok none
  | cons a as ih =>
    refine (h a).bind fun found _ => ?_
    split
    · exact failsOnly_ok (some a)
    · exact ih

end

def Callback.FailsOnly (P : EvalError → Prop) (c : Callback) : Prop :=
  ∀ vs, DocPath.FailsOnly P (c.call vs)

section
variable {P : EvalError → Prop} (ordinary : ∀ e, e.Ordinary → P e)
include ordinary

theorem numeric_failsOnly (v : Value) : FailsOnly P (numeric v) := by
  have refused : P (.notNumeric v.kind) := ordinary _ (.notNumeric v.kind)
  unfold numeric
  dsimp only
  repeat' split
  all_goals simp only [failsOnly_ok, failsOnly_error, refused]

theorem toNumber_failsOnly (v : Value) : FailsOnly P (toNumber v) := by
  unfold toNumber
  split
  · exact failsOnly_ok _
  · exact (failsOnly_error _).mpr (ordinary _ (.notNumeric v.kind))

theorem compareValues_failsOnly (a b : Value) : FailsOnly P (compareValues a b) := by
  unfold compareValues
  cases a.compare b with
  | ok o => exact failsOnly_ok o
  | error f =>
    refine (failsOnly_error _).mpr ?_
    cases f with
    | notNumeric k => exact ordinary _ (.notNumeric k)
    | incomparable l r => exact ordinary _ (.incomparable l r)

theorem arithmetic_failsOnly (op : Number.Operation) (a b : Number) :
    FailsOnly P (arithmetic op a b) := by
  unfold arithmetic
  split
  · exact failsOnly_ok _
  · exact (failsOnly_error _).mpr (ordinary _ .divisionByZero)

theorem numericOperation_failsOnly (op : Number.Operation) (a b : Value) :
    FailsOnly P (numericOperation op a b) := by
  refine (numeric_failsOnly ordinary a).bind fun x _ => ?_
  refine (numeric_failsOnly ordinary b).bind fun y _ => ?_
  exact (arithmetic_failsOnly ordinary op x y).bind fun n _ => failsOnly_ok _

theorem addValues_failsOnly (a b : Value) : FailsOnly P (addValues a b) := by
  unfold addValues
  split
  · exact failsOnly_ok _
  · exact failsOnly_ok _
  · exact failsOnly_ok _
  · exact failsOnly_ok _
  · exact numericOperation_failsOnly ordinary .add a b

theorem orderTest_failsOnly (holds : Ordering → Bool) (a b : Value) :
    FailsOnly P (orderTest holds a b) :=
  (compareValues_failsOnly ordinary a b).bind fun _ _ => failsOnly_ok _

theorem matchesPattern_failsOnly (whole : Bool) (text pattern : Value) :
    FailsOnly P (matchesPattern whole text pattern) := by
  unfold matchesPattern
  dsimp only
  split
  · exact failsOnly_ok _
  · exact (failsOnly_error _).mpr (ordinary _ (.regex _))

theorem BinaryOp.apply_failsOnly (op : BinaryOp) (a b : Value) : FailsOnly P (op.apply a b) := by
  cases op with
  | or | and | eq | ne | isIn => exact failsOnly_ok _
  | lt | le | gt | ge => exact orderTest_failsOnly ordinary _ a b
  | find | «matches» => exact (failsOnly_map _).mpr (matchesPattern_failsOnly ordinary _ a b)
  | add => exact addValues_failsOnly ordinary a b
  | sub | mul | div | rem => exact numericOperation_failsOnly ordinary _ a b

theorem UnaryOp.apply_failsOnly (op : UnaryOp) (v : Value) : FailsOnly P (op.apply v) := by
  cases op with
  | not => exact failsOnly_ok _
  | neg => exact (failsOnly_map _).mpr (numeric_failsOnly ordinary v)

theorem sortOrder_failsOnly {c : Option Callback} (calls : ∀ d, c = some d → d.FailsOnly P)
    (a b : Value) : FailsOnly P (sortOrder c a b) := by
  unfold sortOrder
  split
  · exact compareValues_failsOnly ordinary a b
  · next d =>
    have call := calls d rfl
    split
    · refine (call _).bind fun r _ => ?_
      exact (toNumber_failsOnly ordinary r).bind fun n _ => failsOnly_ok _
    · refine (call _).bind fun x _ => (call _).bind fun y _ => ?_
      exact compareValues_failsOnly ordinary x y

omit ordinary in
theorem insertFromEnd_failure {order : Value → Value → Eval Ordering}
    (h : ∀ a b, FailsOnly P (order a b)) (v : Value) (ws : List Value) {kept : Option EvalError}
    (old : ∀ e, kept = some e → P e) :
    ∀ e, (insertFromEnd order v ws kept).2 = some e → P e := by
  induction ws with
  | nil => exact old
  | cons w ws ih =>
    unfold insertFromEnd
    split
    · exact ih
    · exact old
    · next f failed =>
      intro e this
      cases kept with
      | some g => exact old e this
      | none =>
        cases this
        exact h v w f failed

omit ordinary in
theorem sortValues_failsOnly {order : Value → Value → Eval Ordering}
    (h : ∀ a b, FailsOnly P (order a b)) (vs : List Value) : FailsOnly P (sortValues order vs) := by
  have kept : ∀ (s : Sorting), (∀ e, s.2 = some e → P e) → ∀ e,
      (vs.foldl (fun (s : Sorting) v => insertFromEnd order v s.1 s.2) s).2 = some e → P e := by
    induction vs with
    | nil => exact fun s old => old
    | cons v vs ih => exact fun s old => ih _ (insertFromEnd_failure h v s.1 old)
  unfold sortValues
  dsimp only
  split
  · next e failed => exact (failsOnly_error e).mpr (kept ([], none) (by simp) e failed)
  · exact failsOnly_ok _

theorem extreme_failsOnly (wanted : Ordering) {c : Option Callback}
    (calls : ∀ d, c = some d → d.FailsOnly P) (best : Option (Value × Value)) (vs : List Value) :
    FailsOnly P (extreme wanted c best vs) := by
  have key (v : Value) : FailsOnly P (extremeKey c v) := by
    unfold extremeKey
    split
    · next d =>
      split
      · exact failsOnly_ok _
      · exact calls d rfl _
    · exact failsOnly_ok _
  have order (v k b bk : Value) : FailsOnly P (extremeOrder c v k b bk) := by
    unfold extremeOrder
    split
    · next d =>
      split
      · refine (calls d rfl _).bind fun r _ => ?_
        exact (numeric_failsOnly ordinary r).bind fun n _ => failsOnly_ok _
      · exact compareValues_failsOnly ordinary k bk
    · exact compareValues_failsOnly ordinary k bk
  induction vs generalizing best with
  | nil => exact failsOnly_ok _
  | cons v vs ih =>
    unfold extreme
    split
    · exact ih best
    · refine (key v).bind fun k _ => ?_
      dsimp only
      split
      · exact (failsOnly_ok true).bind fun replaces _ => ih _
      · refine (order v k _ _).bind fun o _ => ?_
        exact (failsOnly_ok (o == wanted)).bind fun replaces _ => ih _

theorem addAll_failsOnly (total : Number) (vs : List Value) : FailsOnly P (addAll total vs) := by
  induction vs generalizing total with
  | nil => exact failsOnly_ok total
  | cons v vs ih =>
    refine (numeric_failsOnly ordinary v).bind fun n _ => ?_
    exact (arithmetic_failsOnly ordinary .add total n).bind fun total _ => ih total

theorem sumValues_failsOnly (initial : Option Value) (vs : List Value) :
    FailsOnly P (sumValues initial vs) := by
  unfold sumValues
  dsimp only
  split
  · exact failsOnly_ok _
  · refine (numeric_failsOnly ordinary _).bind fun n _ => ?_
    exact (addAll_failsOnly ordinary n _).bind fun total _ => failsOnly_ok _

theorem resolve_failsOnly (index : Int64) (length : Nat) : FailsOnly P (resolve index length) := by
  unfold resolve
  split
  · exact failsOnly_ok _
  · exact (failsOnly_error _).mpr (ordinary _ (.indexOutOfBounds index length))

theorem selectRange_failsOnly (items : List Value) (first last : Int64) (inclusive : Bool) :
    FailsOnly P (selectRange items first last inclusive) := by
  unfold selectRange
  refine (resolve_failsOnly ordinary first _).bind fun start _ => ?_
  split
  · exact (resolve_failsOnly ordinary last _).bind fun stop _ => failsOnly_ok _
  · generalize (if last < 0 then last.toInt + items.length else last.toInt) = stop
    dsimp only
    split
    · exact (failsOnly_error _).mpr (ordinary _ (.indexOutOfBounds last _))
    · repeat' split
      all_goals exact failsOnly_ok _

theorem Selector.ofItems_failsOnly (s : Selector) (items : List Value) :
    FailsOnly P (s.ofItems items) := by
  cases s with
  | single i => exact (resolve_failsOnly ordinary i _).bind fun at_ _ => failsOnly_ok _
  | range first last inclusive => exact selectRange_failsOnly ordinary items first last inclusive
  | key k => exact failsOnly_ok _

theorem Selector.apply_failsOnly (s : Selector) (v : Value)
    (missing : ∀ k, s = .key k → FailsOnly P (v.field k)) : FailsOnly P (s.apply v) := by
  unfold Selector.apply
  split
  · next k => exact missing k rfl
  · split
    · exact failsOnly_ok _
    · exact s.ofItems_failsOnly ordinary _
    · exact s.ofItems_failsOnly ordinary _
    · exact s.ofItems_failsOnly ordinary _
    · exact (failsOnly_error _).mpr (ordinary _ (.incompatibleShape s.text _))

end

section
variable {P : EvalError → Prop}

mutual
theorem Value.field_failsOnly (missing : ∀ name k, P (.missingProperty name k)) (name : String) :
    (v : Value) → FailsOnly P (v.field name)
  | .null => by simp only [Value.field, failsOnly_ok]
  | .map _ => by simp only [Value.field, failsOnly_ok]
  | .node _ => by simp only [Value.field, failsOnly_ok]
  | .list items => by
    simp only [Value.field, failsOnly_map]
    exact itemFields_failsOnly missing name items
  | .bool _ => by simp only [Value.field, failsOnly_error, missing]
  | .number _ => by simp only [Value.field, failsOnly_error, missing]
  | .string _ => by simp only [Value.field, failsOnly_error, missing]
theorem Value.itemFields_failsOnly (missing : ∀ name k, P (.missingProperty name k))
    (name : String) : (vs : List Value) → FailsOnly P (itemFields name vs)
  | [] => by simp only [Value.itemFields, failsOnly_ok]
  | v :: vs => by
    have first := v.field_failsOnly missing name
    have rest := itemFields_failsOnly missing name vs
    cases v with
    | null => simpa only [Value.itemFields] using rest
    | node e =>
      simp only [Value.itemFields]
      exact rest.bind fun more _ => failsOnly_ok _
    | _ =>
      simp only [Value.itemFields]
      exact first.bind fun found _ => rest.bind fun more _ => failsOnly_ok _
end

mutual
theorem Value.childValues_failsOnly (ordinary : ∀ e, e.Ordinary → P e) :
    (v : Value) → FailsOnly P v.childValues
  | .null => by simp only [Value.childValues, failsOnly_ok]
  | .map _ => by simp only [Value.childValues, failsOnly_ok]
  | .node _ => by simp only [Value.childValues, failsOnly_ok]
  | .list items => by
    simp only [Value.childValues]
    exact itemChildren_failsOnly ordinary items
  | .bool _ | .number _ | .string _ => by
    simp only [Value.childValues, failsOnly_error]
    exact ordinary _ (.incompatibleShape "*" _)
theorem Value.itemChildren_failsOnly (ordinary : ∀ e, e.Ordinary → P e) :
    (vs : List Value) → FailsOnly P (itemChildren vs)
  | [] => by simp only [Value.itemChildren, failsOnly_ok]
  | v :: vs => by
    simp only [Value.itemChildren]
    refine (v.childValues_failsOnly ordinary).bind fun found _ => ?_
    exact (itemChildren_failsOnly ordinary vs).bind fun more _ => failsOnly_ok _
end

end

end DocPath
