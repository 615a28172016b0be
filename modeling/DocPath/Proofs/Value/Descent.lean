import Mathlib.Data.List.Nodup
import Mathlib.Tactic.Choose
import DocPath.Proofs.Element.Traversal
import DocPath.Proofs.Eval.Searching
import DocPath.Proofs.Value.Equality

/-!
What descent lists. An address leads from a value to one below it, under keys of maps, at positions
of lists and to child elements. Descent goes through the addresses in document order and lists the
values that stand there, except for lists. So a search among what it lists finds the first value in
this order.
-/

namespace DocPath

/-- What leads to a value right below another one: a key of a map, a position of a list, or a
position among the child elements of an element. -/
inductive Branch where
  | key (name : String)
  | item (i : Nat)
  | child (i : Nat)
  deriving DecidableEq

namespace Value

def branch? : Value → Branch → Option Value
  | .map m, .key name => m.lookup name
  | .list vs, .item i => vs[i]?
  | .node e, .child i => (e.elements[i]?).map .node
  | _, _ => none

def branches : Value → List Branch
  | .map m => m.map fun p => .key p.1
  | .list vs => (List.range vs.length).map .item
  | .node e => (List.range e.elements.length).map .child
  | _ => []

def at? (v : Value) : List Branch → Option Value
  | [] => some v
  | b :: a => (v.branch? b).bind fun w => w.at? a

/-- A value other than a list stands at an address. -/
def HoldsAt (v : Value) (a : List Branch) (w : Value) : Prop := v.at? a = some w ∧ w.kind ≠ .list

/-- Document order of the addresses in a value: one comes before its extensions, and of two that
part, the one comes first that takes the earlier branch. -/
inductive Precedes : Value → List Branch → List Branch → Prop
  | extension {v : Value} {b : Branch} {a : List Branch} : Precedes v [] (b :: a)
  | within {v w : Value} {b : Branch} {a a' : List Branch} (there : v.branch? b = some w)
      (rest : Precedes w a a') : Precedes v (b :: a) (b :: a')
  | sibling {v : Value} {b b' : Branch} {a a' : List Branch}
      (earlier : v.branches.idxOf b < v.branches.idxOf b') : Precedes v (b :: a) (b' :: a')

theorem Precedes.asymm {v : Value} {a a' : List Branch} (first : v.Precedes a a') :
    ¬v.Precedes a' a := by
  induction first with
  | extension => nofun
  | within there rest ih =>
    intro second
    cases second with
    | within there' rest' =>
      rw [there] at there'
      cases there'
      exact ih rest'
    | sibling earlier => exact Nat.lt_irrefl _ earlier
  | sibling earlier =>
    intro second
    cases second with
    | within => exact Nat.lt_irrefl _ earlier
    | sibling later => exact Nat.lt_asymm earlier later

/-- A list of addresses and the values at them: every value below a given one, but for the lists,
once and in document order. -/
structure ListsOnce (v : Value) (as : List (List Branch)) (ws : List Value) : Prop where
  values : as.map v.at? = ws.map some
  complete : ∀ a, a ∈ as ↔ ∃ w, v.HoldsAt a w
  ordered : as.Pairwise v.Precedes

def parts : Value → List (Branch × Value)
  | .map m => m.map fun p => (.key p.1, p.2)
  | .list vs => vs.zipIdx.map fun p => (.item p.2, p.1)
  | .node e => e.elements.zipIdx.map fun p => (.child p.2, .node p.1)
  | _ => []

theorem map_fst_parts (v : Value) : v.parts.map Prod.fst = v.branches := by
  have positions {α : Type} (vs : List α) (f : Nat → Branch) :
      vs.zipIdx.map (fun p => f p.2) = (List.range vs.length).map f := by
    rw [List.range_eq_range', ← List.zipIdx_map_snd, List.map_map]
    rfl
  cases v with
  | map m => exact List.map_map
  | list vs => exact List.map_map.trans (positions vs .item)
  | node e => exact List.map_map.trans (positions e.elements .child)
  | _ => rfl

theorem mem_parts {v : Value} (keyed : v.isKeyed) {b : Branch} {w : Value} :
    (b, w) ∈ v.parts ↔ v.branch? b = some w := by
  cases v with
  | map m =>
    rw [isKeyed, Bool.and_eq_true, decide_eq_true_eq] at keyed
    cases b with
    | key name =>
      simp only [parts, branch?, List.mem_map, Prod.mk.injEq, Branch.key.injEq]
      constructor
      · rintro ⟨⟨_, _⟩, mem, rfl, rfl⟩
        exact lookup_of_mem keyed.1 mem
      · exact fun found => ⟨_, mem_of_lookup found, rfl, rfl⟩
    | _ => simp [parts, branch?]
  | list vs => cases b <;> simp [parts, branch?, List.mem_zipIdx_iff_getElem?]
  | node e => cases b <;> simp [parts, branch?, List.mem_zipIdx_iff_getElem?]
  | _ => cases b <;> simp [parts, branch?]

theorem nodup_branches {v : Value} (keyed : v.isKeyed) : v.branches.Nodup := by
  cases v with
  | map m =>
    rw [isKeyed, Bool.and_eq_true, decide_eq_true_eq] at keyed
    have keys := keyed.1.map fun _ _ => Branch.key.inj
    rwa [List.map_map] at keys
  | list vs => exact List.nodup_range.map fun _ _ => Branch.item.inj
  | node e => exact List.nodup_range.map fun _ _ => Branch.child.inj
  | _ => exact List.nodup_nil

theorem branches_ascend {v : Value} (keyed : v.isKeyed) :
    v.parts.Pairwise fun p q => v.branches.idxOf p.1 < v.branches.idxOf q.1 := by
  rw [← List.pairwise_map (R := fun b b' => v.branches.idxOf b < v.branches.idxOf b'),
    map_fst_parts, List.pairwise_iff_getElem]
  intro i j hi hj later
  have place := (nodup_branches keyed).idxOf_getElem
  rwa [place, place]

theorem isKeyed_of_mem_parts {v : Value} (keyed : v.isKeyed) {p : Branch × Value}
    (mem : p ∈ v.parts) : p.2.isKeyed := by
  cases v with
  | map m =>
    rw [isKeyed, Bool.and_eq_true, entriesKeyed_eq, List.all_eq_true] at keyed
    obtain ⟨q, among, rfl⟩ := List.mem_map.mp mem
    exact keyed.2 q among
  | list vs =>
    rw [isKeyed, itemsKeyed_eq, List.all_eq_true] at keyed
    obtain ⟨q, among, rfl⟩ := List.mem_map.mp mem
    exact keyed q.1 (List.fst_mem_of_mem_zipIdx among)
  | node e =>
    rw [isKeyed, Element.isKeyed_eq, Bool.and_eq_true, List.all_eq_true] at keyed
    obtain ⟨q, among, rfl⟩ := List.mem_map.mp mem
    exact keyed.2 q.1 (List.fst_mem_of_mem_zipIdx among)
  | _ => exact absurd mem List.not_mem_nil

theorem sizeOf_lt_of_mem_parts {v : Value} {p : Branch × Value} (mem : p ∈ v.parts) :
    sizeOf p.2 < sizeOf v := by
  cases v with
  | map m =>
    obtain ⟨q, among, rfl⟩ := List.mem_map.mp mem
    have entry := List.sizeOf_lt_of_mem among
    have value : sizeOf q.2 < sizeOf q := by cases q; simp
    simp only [map.sizeOf_spec]
    omega
  | list vs =>
    obtain ⟨q, among, rfl⟩ := List.mem_map.mp mem
    have item := List.sizeOf_lt_of_mem (List.fst_mem_of_mem_zipIdx among)
    simp only [list.sizeOf_spec]
    omega
  | node e =>
    obtain ⟨q, among, rfl⟩ := List.mem_map.mp mem
    have child := Element.sizeOf_lt_of_mem (List.fst_mem_of_mem_zipIdx among)
    simp only [node.sizeOf_spec]
    omega
  | _ => exact absurd mem List.not_mem_nil

@[elab_as_elim]
theorem partsInduction {P : Value → Prop} (step : ∀ v, (∀ p ∈ v.parts, P p.2) → P v) (v : Value) :
    P v :=
  (measure sizeOf).wf.induction v fun v below =>
    step v fun p mem => below p.2 (sizeOf_lt_of_mem_parts mem)

theorem itemDescent_eq (vs : List Value) : itemDescent vs = vs.flatMap descent := by
  induction vs with
  | nil => rfl
  | cons v vs ih => rw [itemDescent, ih, List.flatMap_cons]

theorem entryDescent_eq (m : List (String × Value)) :
    entryDescent m = m.flatMap fun p => p.2.descent := by
  induction m with
  | nil => rfl
  | cons p m ih => rw [entryDescent, ih, List.flatMap_cons]

theorem descent_node (e : Element) : (node e).descent = e.preorder.map .node := by
  rw [descent, Element.depthFirst_eq]

/-- A value stands before what is below it, but a list is left out. -/
theorem descent_eq (v : Value) :
    v.descent = (if v.kind = .list then [] else [v]) ++ v.parts.flatMap fun p => p.2.descent := by
  cases v with
  | map m => rw [descent, entryDescent_eq, parts, List.flatMap_map]; rfl
  | list vs =>
    rw [descent, itemDescent_eq, parts, List.flatMap_map]
    -- The parts hold the items with their positions.
    conv_lhs => rw [← List.zipIdx_map_fst 0 vs, List.flatMap_map]
    rfl
  | node e =>
    simp only [parts, List.flatMap_map, descent_node]
    rw [Element.preorder_eq, List.map_cons, List.map_flatMap]
    conv_lhs => rw [← List.zipIdx_map_fst 0 e.elements, List.flatMap_map]
    rfl
  | _ => rfl

def gather (v : Value) (addresses : Branch × Value → List (List Branch)) : List (List Branch) :=
  (if v.kind = .list then [] else [[]]) ++
    v.parts.flatMap fun p => (addresses p).map (p.1 :: ·)

theorem mem_gather {v : Value} {addresses : Branch × Value → List (List Branch)}
    {a : List Branch} : a ∈ v.gather addresses ↔
      a = [] ∧ v.kind ≠ .list ∨ ∃ p ∈ v.parts, ∃ rest ∈ addresses p, a = p.1 :: rest := by
  have own : a ∈ (if v.kind = .list then [] else [[]]) ↔ a = [] ∧ v.kind ≠ .list := by
    split <;> simp [*]
  simp only [gather, List.mem_append, own, List.mem_flatMap, List.mem_map, eq_comm (a := a)]

section
variable {v : Value} {addresses : Branch × Value → List (List Branch)}

theorem gather_values (keyed : v.isKeyed)
    (values : ∀ p ∈ v.parts, (addresses p).map p.2.at? = p.2.descent.map some) :
    (v.gather addresses).map v.at? = v.descent.map some := by
  have own : (if v.kind = .list then [] else [[]]).map v.at? =
      (if v.kind = .list then [] else [v]).map some := by
    split <;> rfl
  rw [gather, descent_eq, List.map_append, List.map_append, own, List.map_flatMap,
    List.map_flatMap]
  refine congrArg _ (List.flatMap_congr fun p mem => ?_)
  rw [List.map_map, ← values p mem]
  refine List.map_congr_left fun a _ => ?_
  rw [Function.comp_apply, at?, (mem_parts keyed).mp mem, Option.bind_some]

theorem gather_complete (keyed : v.isKeyed)
    (complete : ∀ p ∈ v.parts, ∀ a, a ∈ addresses p ↔ ∃ w, p.2.HoldsAt a w) (a : List Branch) :
    a ∈ v.gather addresses ↔ ∃ w, v.HoldsAt a w := by
  rw [mem_gather]
  cases a with
  | nil => simp [HoldsAt, at?]
  | cons b a =>
    simp only [HoldsAt, at?, Option.bind_eq_some_iff]
    constructor
    · rintro (⟨none, -⟩ | ⟨p, mem, rest, listed, same⟩)
      · cases none
      · cases same
        obtain ⟨w, holds⟩ := (complete p mem a).mp listed
        exact ⟨w, ⟨p.2, (mem_parts keyed).mp mem, holds.1⟩, holds.2⟩
    · rintro ⟨w, ⟨u, leads, there⟩, other⟩
      have mem := (mem_parts keyed).mpr leads
      exact .inr ⟨_, mem, a, (complete _ mem a).mpr ⟨w, there, other⟩, rfl⟩

theorem gather_ordered (keyed : v.isKeyed)
    (ordered : ∀ p ∈ v.parts, (addresses p).Pairwise p.2.Precedes) :
    (v.gather addresses).Pairwise v.Precedes := by
  rw [gather, List.pairwise_append, List.pairwise_flatMap]
  refine ⟨by split <;> simp, ⟨fun p mem => ?_, ?_⟩, fun a mem a' mem' => ?_⟩
  · rw [List.pairwise_map]
    exact (ordered p mem).imp (.within ((mem_parts keyed).mp mem))
  · refine (branches_ascend keyed).imp fun earlier a mem a' mem' => ?_
    obtain ⟨a, -, rfl⟩ := List.mem_map.mp mem
    obtain ⟨a', -, rfl⟩ := List.mem_map.mp mem'
    exact .sibling earlier
  · obtain ⟨p, -, below⟩ := List.mem_flatMap.mp mem'
    obtain ⟨a', -, rfl⟩ := List.mem_map.mp below
    split at mem
    · exact absurd mem List.not_mem_nil
    · rw [List.mem_singleton.mp mem]
      exact .extension

end

theorem exists_addresses (v : Value) (keyed : v.isKeyed) : ∃ as, v.ListsOnce as v.descent := by
  induction v using partsInduction with
  | step v below =>
    have each : ∀ p ∈ v.parts, ∃ as, p.2.ListsOnce as p.2.descent := fun p mem =>
      below p mem (isKeyed_of_mem_parts keyed mem)
    choose! addresses listed using each
    exact ⟨v.gather addresses, gather_values keyed fun p mem => (listed p mem).values,
      gather_complete keyed fun p mem => (listed p mem).complete,
      gather_ordered keyed fun p mem => (listed p mem).ordered⟩

namespace ListsOnce

variable {v : Value} {as : List (List Branch)} {ws : List Value}

theorem precedes_iff (lists : v.ListsOnce as ws) {i j : Nat} (hi : i < as.length)
    (hj : j < as.length) : v.Precedes as[i] as[j] ↔ i < j := by
  have ascends := List.pairwise_iff_getElem.mp lists.ordered
  refine ⟨fun first => ?_, ascends i j hi hj⟩
  rcases Nat.lt_trichotomy i j with earlier | rfl | later
  · exact earlier
  · exact absurd first first.asymm
  · exact absurd first (ascends j i hj hi later).asymm

theorem nodup (lists : v.ListsOnce as ws) : as.Nodup :=
  lists.ordered.imp fun first same => by
    rw [same] at first
    exact first.asymm first

theorem length_eq (lists : v.ListsOnce as ws) : as.length = ws.length := by
  have same := congrArg List.length lists.values
  rwa [List.length_map, List.length_map] at same

theorem at?_getElem (lists : v.ListsOnce as ws) {i : Nat} (hi : i < as.length)
    (hi' : i < ws.length) : v.at? as[i] = some ws[i] := by
  have same := congrArg (·[i]?) lists.values
  simpa [hi, hi'] using same

theorem exists_index (lists : v.ListsOnce as ws) {a : List Branch} {w : Value}
    (holds : v.HoldsAt a w) :
    ∃ i, ∃ (hi : i < as.length) (hi' : i < ws.length), as[i] = a ∧ ws[i] = w := by
  obtain ⟨i, hi, rfl⟩ := List.getElem_of_mem ((lists.complete a).mpr ⟨w, holds⟩)
  have hi' : i < ws.length := lists.length_eq ▸ hi
  have there := holds.1
  rw [lists.at?_getElem hi hi'] at there
  exact ⟨i, hi, hi', rfl, Option.some.inj there⟩

theorem holdsAt_getElem (lists : v.ListsOnce as ws) {i : Nat} (hi : i < as.length)
    (hi' : i < ws.length) : v.HoldsAt as[i] ws[i] := by
  obtain ⟨w, holds⟩ := (lists.complete as[i]).mp (List.getElem_mem hi)
  have there := holds.1
  rw [lists.at?_getElem hi hi'] at there
  rwa [Option.some.inj there]

theorem exists_address (lists : v.ListsOnce as ws) {w : Value} (mem : w ∈ ws) :
    ∃ a, v.HoldsAt a w := by
  obtain ⟨i, hi', rfl⟩ := List.getElem_of_mem mem
  have hi : i < as.length := lists.length_eq ▸ hi'
  exact ⟨as[i], lists.holdsAt_getElem hi hi'⟩

end ListsOnce

/-- What a search below a value comes to: the first value in document order that passes a test,
lists left out, or null where none passes. -/
inductive FindsFirst (v : Value) (test : Value → Eval Bool) : Value → Prop
  | found {a : List Branch} {w : Value} (here : v.HoldsAt a w) (passes : test w = .ok true)
      (others : ∀ a' u, v.HoldsAt a' u → v.Precedes a' a → test u = .ok false) :
      FindsFirst v test w
  | nowhere (others : ∀ a u, v.HoldsAt a u → test u = .ok false) : FindsFirst v test .null

theorem ListsOnce.findsFirst {v : Value} {as : List (List Branch)} {ws : List Value}
    (lists : v.ListsOnce as ws) {test : Value → Eval Bool} (answered : Answered test ws) :
    v.FindsFirst test ((ws.find? (DocPath.passes test)).getD .null) := by
  have answer {i : Nat} (hi' : i < ws.length) : test ws[i] = .ok (DocPath.passes test ws[i]) :=
    test_eq_passes (answered ws[i] (List.getElem_mem hi'))
  cases first : ws.find? (DocPath.passes test) with
  | none =>
    refine .nowhere fun a u holds => ?_
    obtain ⟨i, -, hi', -, rfl⟩ := lists.exists_index holds
    have fails := List.find?_eq_none.mp first ws[i] (List.getElem_mem hi')
    rw [answer hi', Bool.eq_false_iff.mpr fails]
  | some w =>
    obtain ⟨holds, i, hi', rfl, earlier⟩ := List.find?_eq_some_iff_getElem.mp first
    have hi : i < as.length := lists.length_eq ▸ hi'
    refine .found (lists.holdsAt_getElem hi hi') ?_ fun a u holds before => ?_
    · rw [Option.getD_some, answer hi', holds]
    · obtain ⟨j, hj, hj', rfl, rfl⟩ := lists.exists_index holds
      have fails := earlier j ((lists.precedes_iff hj hi).mp before)
      rw [answer hj', Bool.not_eq_eq_eq_not.mp fails]
      rfl

end Value

theorem find_answered {c : Closure} {s : Scope} {ws : List Value}
    (answered : Answered (c.toCallback s).test ws) :
    (Segment.call Method.find.label [.closure c]).eval (.list ws) s =
      .ok ((ws.find? (passes (c.toCallback s).test)).getD .null) := by
  have call : Method.find.callWith (some c) (.list ws) s =
      Method.findIn (.list ws) (some (c.toCallback s)) :=
    Method.callWith_closure (fun _ _ => rfl) (some c) Value.noConfusion s
  refine call.trans ?_
  show (findEval (c.toCallback s).test ws).bind _ = _
  rw [findEval_answered answered]
  rfl

/-- Descent lists the values at all addresses of a value, lists left out: each address once, with
what stands there, and in document order. So a search with a closure that has an answer for each of
them finds the first one that passes, or null. -/
theorem descent_lists_once (v : Value) (keyed : v.isKeyed) (s : Scope) :
    ∃ (as : List (List Branch)) (ws : List Value), Segment.descent.eval v s = .ok (.list ws) ∧
      (as.map v.at? = ws.map some ∧ as.Nodup ∧ (∀ a, a ∈ as ↔ ∃ w, v.HoldsAt a w) ∧
        ∀ i j (hi : i < as.length) (hj : j < as.length), v.Precedes as[i] as[j] ↔ i < j) ∧
      (∀ w ∈ ws, w.kind ≠ .list) ∧
      ∀ c : Closure, (∀ a w, v.HoldsAt a w → ∃ b, (c.toCallback s).test w = .ok b) →
        ∃ r, Path.evalFrom s 0 [.descent, .call Method.find.label [.closure c]] v = .ok r ∧
          v.FindsFirst (c.toCallback s).test r := by
  obtain ⟨as, lists⟩ := v.exists_addresses keyed
  refine ⟨as, v.descent, rfl, ⟨lists.values, lists.nodup, lists.complete,
    fun i j hi hj => lists.precedes_iff hi hj⟩, fun w mem => ?_, fun c answers => ?_⟩
  · obtain ⟨a, holds⟩ := lists.exists_address mem
    exact holds.2
  · have answered : Answered (c.toCallback s).test v.descent := fun w mem => by
      obtain ⟨a, holds⟩ := lists.exists_address mem
      exact answers a w holds
    refine ⟨_, ?_, lists.findsFirst answered⟩
    show Path.evalFrom s 1 [.call Method.find.label [.closure c]] (.list v.descent) = _
    rw [Path.evalFrom, find_answered answered]
    rfl

/-- A text in a map within nested lists, behind an element and before the same text. -/
theorem descent_lists_once_nested :
    let leaf := Element.empty "leaf"
    let v : Value := .map [("list", .list [.node ((Element.empty "root").withChild leaf),
      .list [.map [("deep", .string "x")]]]), ("text", .string "x")]
    let named : Closure := .mk [] [] (.binary .eq (.ident "it") (.literal (.string "x")))
    v.isKeyed ∧
      (∃ (as : List (List Branch)) (ws : List Value),
        Segment.descent.eval v (.ofParams []) = .ok (.list ws) ∧
          as.map v.at? = ws.map some ∧ as.length = 6) ∧
      v.HoldsAt [.key "list", .item 0, .child 0] (.node leaf) ∧
      Path.evalFrom (.ofParams []) 0 [.descent, .call Method.find.label [.closure named]] v =
        .ok (.string "x") := by
  intro leaf v named
  have keyed : v.isKeyed := rfl
  obtain ⟨as, ws, listed, ⟨values, -⟩, -, search⟩ :=
    descent_lists_once v keyed (.ofParams [])
  obtain ⟨r, found, -⟩ := search named fun a w _ => ⟨_, rfl⟩
  refine ⟨keyed, ⟨as, ws, listed, values, ?_⟩, ⟨rfl, nofun⟩, ?_⟩
  · have length := congrArg List.length values
    rw [List.length_map, List.length_map] at length
    cases listed
    exact length.trans rfl
  · rw [found]
    cases found
    rfl

end DocPath
