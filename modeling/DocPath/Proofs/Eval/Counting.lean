import DocPath.Proofs.Eval.Searching

/-!
Counting with a closure against finding everything. A list has as many items counted as found. A map
is searched entry by entry but counted as one item, so a count of it is one or zero, whatever its
entries are.
-/

namespace DocPath

namespace Method

def countFound (c : Closure) (v : Value) (s : Scope) : Eval Value :=
  (findAll.callWith (some c) v s).bind fun found => size.callWith none found s

theorem callWith_null (m : Method) (c : Option Closure) (s : Scope) :
    m.callWith c .null s = .ok .null := by
  simp only [callWith, Segment.eval, named?_label, evalArguments_closure, invoke_null]
  rfl

theorem callWith_size (v : Value) (s : Scope) : size.callWith none v s = size.invoke v [] := by
  simp only [callWith, Segment.eval, named?_label]
  rfl

variable (c : Closure) (s : Scope)

theorem count_other {v : Value} (other : v.kind ≠ .map) :
    count.callWith (some c) v s = countFound c v s := by
  by_cases absent : v = .null
  · rw [absent, countFound, callWith_null, callWith_null]
    exact (callWith_null size none s).symm
  · rw [callWith_count c absent other s, countFound,
      callWith_closure (f := findAllIn) (fun _ _ => rfl) (some c) absent s]
    simp only [callWith_size]
    rfl

theorem count_map (m : List (String × Value)) :
    count.callWith (some c) (.map m) s =
      (c.call [.map m] s).map fun r => countValue (if r.truthy then 1 else 0) := by
  rw [callWith_eq count (some c) (v := .map m) nofun]
  show (filterEval (keeps (some (c.toCallback s))) [.map m]).map _ = _
  simp only [filterEval, keeps, Callback.test, Closure.toCallback]
  cases c.call [.map m] s with
  | error e => rfl
  | ok r => cases truth : r.truthy <;> simp [bind, Except.bind, Except.map, truth]

theorem findAll_map {m : List (String × Value)}
    (answered : Answered (keepsEntry (some (c.toCallback s))) m) :
    findAll.callWith (some c) (.map m) s =
      .ok (.map (m.filter (passes (keepsEntry (some (c.toCallback s)))))) := by
  rw [callWith_closure (f := findAllIn) (fun _ _ => rfl) (some c) (v := .map m) nofun s]
  show (filterEval (keepsEntry (some (c.toCallback s))) m).map Value.map = _
  rw [filterEval_answered answered]
  rfl

theorem countFound_map {m kept : List (String × Value)}
    (found : findAll.callWith (some c) (.map m) s = .ok (.map kept)) :
    countFound c (.map m) s = .ok (countValue kept.length) := by
  rw [countFound, found]
  exact callWith_size (.map kept) s

end Method

theorem answered_entries {c : Callback} {m : List (String × Value)}
    (answers : ∀ p ∈ m, ∃ r, c.callEntry p.1 p.2 = .ok r) :
    Answered (keepsEntry (some c)) m := by
  intro p mem
  obtain ⟨r, answer⟩ := answers p mem
  exact ⟨r.truthy, by simp only [keepsEntry, Callback.testEntry, answer, bind, Except.bind]⟩

/-- A closure counts the items of a value that it finds, except in a map. A map is searched entry by
entry but counted as one item, which is the map itself; so where the closure fails on no entry, it
counts the entries that it finds exactly if it is true of the map and finds one, or false of the map
and finds none. -/
theorem count_takes_map_as_item (c : Closure) (s : Scope) :
    (∀ v : Value, v.kind ≠ .map →
      Method.count.callWith (some c) v s = Method.countFound c v s) ∧
    ∀ m : List (String × Value),
      Method.count.callWith (some c) (.map m) s =
        (c.call [.map m] s).map (fun r => countValue (if r.truthy then 1 else 0)) ∧
      ((∀ p ∈ m, ∃ r, (c.toCallback s).callEntry p.1 p.2 = .ok r) →
        ∃ kept, Method.findAll.callWith (some c) (.map m) s = .ok (.map kept) ∧
          Method.countFound c (.map m) s = .ok (countValue kept.length) ∧
          (Method.count.callWith (some c) (.map m) s = Method.countFound c (.map m) s ↔
            ∃ r, c.call [.map m] s = .ok r ∧
              countValue (if r.truthy then 1 else 0) = countValue kept.length)) := by
  refine ⟨fun v => Method.count_other c s, fun m => ⟨Method.count_map c s m, fun answers => ?_⟩⟩
  have found := Method.findAll_map c s (answered_entries answers)
  have number := Method.countFound_map c s found
  refine ⟨_, found, number, ?_⟩
  rw [number, Method.count_map]
  constructor
  · intro same
    cases answer : c.call [.map m] s with
    | error e =>
      rw [answer] at same
      cases same
    | ok r =>
      rw [answer] at same
      exact ⟨r, rfl, Except.ok.inj same⟩
  · rintro ⟨r, answer, same⟩
    rw [answer]
    exact congrArg Except.ok same

/-- Two entries, one of which the closure keeps, and none is counted. -/
theorem count_takes_map_as_item_entries :
    let m : List (String × Value) := [("a", .number (.int 1)), ("b", .number (.int 2))]
    let large : Closure := .mk [] []
      (.binary .gt (.path (.ident "it") [.field "value"]) (.literal (.number (.int 1))))
    let s : Scope := .ofParams []
    (Value.bool true).kind ≠ .map ∧
      Method.count.callWith (some large) (.bool true) s = Method.countFound large (.bool true) s ∧
      (∀ p ∈ m, ∃ r, (large.toCallback s).callEntry p.1 p.2 = .ok r) ∧
      Method.countFound large (.map m) s = .ok (countValue 1) ∧
      Method.count.callWith (some large) (.map m) s = .ok (countValue 0) ∧
      ¬ ∃ r, large.call [.map m] s = .ok r ∧
        countValue (if r.truthy then 1 else 0) = countValue 1 := by
  intro m large s
  have ⟨other, maps⟩ := count_takes_map_as_item large s
  have answers : ∀ p ∈ m, ∃ r, (large.toCallback s).callEntry p.1 p.2 = .ok r := by
    intro p mem
    rcases List.mem_cons.mp mem with rfl | mem
    · exact ⟨.bool false, rfl⟩
    · cases List.mem_singleton.mp mem
      exact ⟨.bool true, rfl⟩
  obtain ⟨-, entries⟩ := maps m
  obtain ⟨kept, found, number, agrees⟩ := entries answers
  have one : Method.findAll.callWith (some large) (.map m) s =
      .ok (.map [("b", .number (.int 2))]) := rfl
  obtain rfl : [("b", Value.number (.int 2))] = kept := by
    rw [one] at found
    exact Value.map.inj (Except.ok.inj found)
  have zero : Method.count.callWith (some large) (.map m) s = .ok (countValue 0) := rfl
  refine ⟨nofun, other _ nofun, answers, number, zero, fun same => ?_⟩
  have equal := agrees.mpr same
  rw [zero, number] at equal
  exact absurd (Except.ok.inj equal) (by simp [countValue])

end DocPath
