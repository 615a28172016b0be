import DocPath.Proofs.Eval.Failure

/-!
Methods add only ordinary failures to those of the closures that they call; only the methods that
look a key up can miss a property.
-/

namespace DocPath

section
variable {P : EvalError → Prop} (ordinary : ∀ e, e.Ordinary → P e)

theorem keeps_failsOnly {c : Option Callback} (calls : ∀ d, c = some d → d.FailsOnly P)
    (v : Value) : FailsOnly P (keeps c v) := by
  unfold keeps
  split
  · next d => exact (calls d rfl [v]).bind fun r _ => failsOnly_ok _
  · exact failsOnly_ok _

theorem Callback.FailsOnly.callEntry {c : Callback} (h : c.FailsOnly P) (key : String)
    (v : Value) : DocPath.FailsOnly P (c.callEntry key v) := by
  unfold Callback.callEntry
  split
  · exact h _
  · exact h _

theorem keepsEntry_failsOnly {c : Option Callback} (calls : ∀ d, c = some d → d.FailsOnly P)
    (p : String × Value) : FailsOnly P (keepsEntry c p) := by
  unfold keepsEntry
  split
  · next d => exact ((calls d rfl).callEntry p.1 p.2).bind fun r _ => failsOnly_ok _
  · exact failsOnly_ok _

theorem grepKeeps_failsOnly (value : Option Value) {c : Option Callback}
    (calls : ∀ d, c = some d → d.FailsOnly P) (v : Value) : FailsOnly P (grepKeeps value c v) := by
  unfold grepKeeps
  split
  · next d => exact (calls d rfl [v]).bind fun r _ => failsOnly_ok _
  all_goals exact failsOnly_ok _

theorem countKeeps_failsOnly (value : Option Value) {c : Option Callback}
    (calls : ∀ d, c = some d → d.FailsOnly P) (v : Value) :
    FailsOnly P (countKeeps value c v) := by
  unfold countKeeps
  split
  · next d => exact (calls d rfl [v]).bind fun r _ => failsOnly_ok _
  all_goals exact failsOnly_ok _

theorem Method.fails_failsOnly {α : Type} {test : α → Eval Bool} (h : ∀ a, FailsOnly P (test a))
    (a : α) : FailsOnly P (fails test a) :=
  (h a).bind fun _ _ => failsOnly_ok _

namespace Method
variable {c : Option Callback} (calls : ∀ d, c = some d → d.FailsOnly P)
include calls

theorem findAllIn_failsOnly (v : Value) : FailsOnly P (findAllIn v c) := by
  unfold findAllIn
  split
  · exact (failsOnly_map _).mpr (.filterEval _ (keepsEntry_failsOnly calls))
  · exact (failsOnly_map _).mpr (.filterEval _ (keeps_failsOnly calls))

theorem findIn_failsOnly (v : Value) : FailsOnly P (findIn v c) := by
  unfold findIn
  split
  · exact (FailsOnly.findEval _ (keepsEntry_failsOnly calls)).bind fun p _ => failsOnly_ok _
  · exact (FailsOnly.findEval _ (keeps_failsOnly calls)).bind fun r _ => failsOnly_ok _

theorem collectIn_failsOnly (v : Value) : FailsOnly P (collectIn v c) := by
  unfold collectIn
  split
  · exact failsOnly_ok _
  · next d =>
    split
    · exact (failsOnly_map _).mpr (.mapM fun p _ => (calls d rfl).callEntry p.1 p.2)
    · exact (failsOnly_map _).mpr (.mapM fun i _ => calls d rfl [i])

theorem anyIn_failsOnly (v : Value) : FailsOnly P (anyIn v c) := by
  unfold anyIn
  split
  · exact (FailsOnly.findEval _ (keepsEntry_failsOnly calls)).bind fun p _ => failsOnly_ok _
  · exact (FailsOnly.findEval _ (keeps_failsOnly calls)).bind fun r _ => failsOnly_ok _

theorem everyIn_failsOnly (v : Value) : FailsOnly P (everyIn v c) := by
  unfold everyIn
  split
  · refine (FailsOnly.findEval _ (fails_failsOnly (keepsEntry_failsOnly calls))).bind fun p _ => ?_
    exact failsOnly_ok _
  · refine (FailsOnly.findEval _ (fails_failsOnly (keeps_failsOnly calls))).bind fun r _ => ?_
    exact failsOnly_ok _

end Method

include ordinary

theorem unsupported_failsOnly {α : Type} (m : Method) (v : Value) :
    FailsOnly P (unsupported m v : Eval α) :=
  (failsOnly_error _).mpr (ordinary _ (.ofMethod m _))

theorem elementsOf_failsOnly (m : Method) (v : Value) : FailsOnly P (elementsOf m v) := by
  unfold elementsOf
  split
  · exact failsOnly_ok _
  · refine .mapM fun v _ => ?_
    split
    · exact failsOnly_ok _
    · exact unsupported_failsOnly ordinary m _
  · exact unsupported_failsOnly ordinary m _

theorem scalar_failsOnly (m : Method) (v : Value) : FailsOnly P (scalar m v) := by
  unfold scalar
  split
  · exact failsOnly_ok _
  · exact failsOnly_ok _
  · exact failsOnly_ok _
  · split
    · exact failsOnly_ok _
    · exact unsupported_failsOnly ordinary m v

theorem scalarText_failsOnly (m : Method) (v : Value) : FailsOnly P (scalarText m v) := by
  refine (scalar_failsOnly ordinary m v).bind fun s _ => ?_
  split
  · exact failsOnly_ok _
  · exact (failsOnly_error _).mpr (ordinary _ (.coercion _))

theorem scalarAs_failsOnly {α : Type} (m : Method) (v : Value)
    (f : Value → Except CoercionError α) : FailsOnly P (scalarAs m v f) := by
  refine (scalar_failsOnly ordinary m v).bind fun s _ => ?_
  cases f s with
  | ok a => exact failsOnly_ok a
  | error e => exact (failsOnly_error _).mpr (ordinary _ (.coercion e))

theorem sizeOf_failsOnly (v : Value) : FailsOnly P (Method.sizeOf v) := by
  unfold Method.sizeOf
  split
  all_goals first
    | exact failsOnly_ok _
    | exact unsupported_failsOnly ordinary .size _

theorem itemAt_failsOnly (missing : ∀ name k, P (.missingProperty name k)) (v : Value)
    (at_ : Option Value) : FailsOnly P (itemAt v at_) := by
  have refused (message : String) : FailsOnly P (.error (.arguments "get" message) : Eval Value) :=
    (failsOnly_error _).mpr (ordinary _ (.ofMethod .get message))
  unfold itemAt
  split
  · split
    · exact Selector.apply_failsOnly ordinary _ v fun k key => nomatch key
    · exact refused _
  · exact v.field_failsOnly missing _
  · exact refused _
  · exact refused _

namespace Method

theorem apply_failsOnly (m : Method) (v : Value) (args : List Argument)
    (missing : m = .get ∨ m = .getAt → ∀ name k, P (.missingProperty name k))
    (calls : ∀ c, .closure c ∈ args → c.FailsOnly P) : FailsOnly P (m.apply v args) := by
  have closure : ∀ d, closureArgument? args = some d → d.FailsOnly P := by
    intro d found
    unfold closureArgument? at found
    split at found
    · next this =>
      cases found
      exact calls d (List.mem_of_getLast? this)
    · cases found
  have text (f : String → Value) : FailsOnly P ((scalarText m v).map f) :=
    (failsOnly_map f).mpr (scalarText_failsOnly ordinary m v)
  have elements (f : List Element → Value) : FailsOnly P ((elementsOf m v).map f) :=
    (failsOnly_map f).mpr (elementsOf_failsOnly ordinary m v)
  cases m with
  | size => exact sizeOf_failsOnly ordinary v
  | findAll => exact findAllIn_failsOnly closure v
  | find => exact findIn_failsOnly closure v
  | collect => exact collectIn_failsOnly closure v
  | grep => exact (failsOnly_map _).mpr (.filterEval _ (grepKeeps_failsOnly _ closure))
  | any => exact anyIn_failsOnly closure v
  | every => exact everyIn_failsOnly closure v
  | count => exact (failsOnly_map _).mpr (.filterEval _ (countKeeps_failsOnly _ closure))
  | get => exact itemAt_failsOnly ordinary (missing (.inl rfl)) v _
  | getAt => exact itemAt_failsOnly ordinary (missing (.inr rfl)) v _
  | sort =>
    exact (failsOnly_map _).mpr (sortValues_failsOnly (sortOrder_failsOnly ordinary closure) _)
  | sum =>
    unfold apply
    dsimp only
    split
    · next d found =>
      refine (FailsOnly.mapM fun i _ => closure d found [i]).bind fun items _ => ?_
      exact sumValues_failsOnly ordinary _ items
    · exact (failsOnly_ok v.items).bind fun items _ => sumValues_failsOnly ordinary _ items
  | min | max => exact extreme_failsOnly ordinary _ closure none v.items
  | abs => exact (failsOnly_map _).mpr (numeric_failsOnly ordinary v)
  | toInteger | toLong | toFloat | toDouble | toBigDecimal =>
    exact (failsOnly_map _).mpr (scalarAs_failsOnly ordinary _ v _)
  | toUpperCase | toLowerCase | trim | length | startsWith | endsWith => exact text _
  | children | name | depthFirst | breadthFirst => exact elements _
  | attributes =>
    refine (elementsOf_failsOnly ordinary _ v).bind fun es _ => ?_
    split
    · exact failsOnly_ok _
    · exact failsOnly_ok _
  | isEmpty | keySet | values | containsKey =>
    unfold apply
    dsimp only
    split
    all_goals first
      | exact failsOnly_ok _
      | exact unsupported_failsOnly ordinary _ _
  | first | last =>
    unfold apply
    dsimp only
    split
    · exact failsOnly_ok _
    · exact (failsOnly_error _).mpr (ordinary _ (.indexOutOfBounds _ _))
  | reverse =>
    unfold apply
    dsimp only
    split
    · exact failsOnly_ok _
    · exact failsOnly_ok _
  | unique | flatten | join | list | contains | toText | text => exact failsOnly_ok _

theorem invoke_failsOnly (m : Method) (v : Value) (args : List Argument)
    (missing : m = .get ∨ m = .getAt → ∀ name k, P (.missingProperty name k))
    (calls : ∀ c, .closure c ∈ args → c.FailsOnly P) : FailsOnly P (m.invoke v args) := by
  unfold invoke
  split
  · exact failsOnly_ok _
  · exact apply_failsOnly ordinary m v args missing calls

end Method
end

end DocPath
