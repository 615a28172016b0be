import Mathlib.Data.List.Induction
import Mathlib.Data.List.Sort
import DocPath.Proofs.Eval.Searching
import DocPath.Proofs.Value.Scale

/-!
Sorting and extremes by a key. Where the keys of the items have a scale, sorting gives their one
stable ordering, and the scans for the least and the greatest item find the first item of their
grade. Items that are null are sorted by their keys like others but are never an extreme.
-/

namespace DocPath

namespace Value

def ties (a b : Value) : Bool :=
  match a.compare b with
  | .ok .eq => true
  | _ => false

def exceeds (a b : Value) : Bool :=
  match a.compare b with
  | .ok .gt => true
  | _ => false

theorem eq_null_of_isNull {v : Value} (null : v.isNull) : v = .null := by
  cases v with
  | null => rfl
  | _ => cases null

theorem ties_null (a : Value) : a.ties .null = a.isNull := by
  cases a <;> rfl

theorem isNull_of_atMost {a b : Value} (order : a.atMost b) (null : b.isNull) : a.isNull := by
  cases b with
  | null =>
    by_contra other
    have behind := compare_null (Bool.eq_false_iff.mpr other)
    rcases order with order | order <;> rw [behind] at order <;> cases order
  | _ => cases null

end Value

/-- What it is for a list to be ordered by a key of its items, items with one key as before. -/
structure IsStableOrdering (key : Value → Value) (vs sorted : List Value) : Prop where
  perm : sorted.Perm vs
  ordered : sorted.Pairwise fun v w => (key v).atMost (key w)
  stable : ∀ w ∈ vs, sorted.filter (fun v => (key v).ties (key w)) =
    vs.filter fun v => (key v).ties (key w)
  nullsFirst : sorted.takeWhile (fun v => (key v).isNull) = vs.filter fun v => (key v).isNull

section
variable {β : Type} [LinearOrder β] {grade : Value → β}

/-- The relation by which a list that is sorted from its end is in order. -/
def descends (grade : Value → β) (a b : Value) : Prop := grade b ≤ grade a

instance : DecidableRel (descends grade) :=
  fun a b => inferInstanceAs (Decidable (grade b ≤ grade a))

instance : Std.Total (descends grade) := ⟨fun a b => le_total (grade b) (grade a)⟩

instance : IsTrans Value (descends grade) := ⟨fun _ _ _ down down' => le_trans down' down⟩

theorem insertFromEnd_eq {order : Value → Value → Eval Ordering} {v : Value} {ws : List Value}
    (agrees : ∀ w ∈ ws, ∃ o, order v w = .ok o ∧ o.Compares (grade v) (grade w)) :
    insertFromEnd order v ws none = (ws.orderedInsert (descends grade) v, none) := by
  induction ws with
  | nil => rfl
  | cons w ws ih =>
    obtain ⟨o, result, grades⟩ := agrees w List.mem_cons_self
    have rest := ih fun w mem => agrees w (List.mem_cons_of_mem _ mem)
    rw [insertFromEnd, result]
    cases o with
    | lt =>
      have behind : ¬descends grade v w := not_le.mpr grades
      rw [rest, List.orderedInsert_of_not_le _ ws behind]
    | eq =>
      have here : descends grade v w := ge_of_eq (show grade v = grade w from grades)
      rw [List.orderedInsert_cons_of_le _ ws here]
    | gt =>
      have here : descends grade v w := le_of_lt (show grade w < grade v from grades)
      rw [List.orderedInsert_cons_of_le _ ws here]

theorem sortValues_eq {order : Value → Value → Eval Ordering} {vs : List Value}
    (agrees : ∀ v ∈ vs, ∀ w ∈ vs, ∃ o, order v w = .ok o ∧ o.Compares (grade v) (grade w)) :
    sortValues order vs = .ok (vs.reverse.insertionSort (descends grade)).reverse := by
  have run : vs.foldl (fun (s : Sorting) v => insertFromEnd order v s.1 s.2) ([], none) =
      (vs.reverse.insertionSort (descends grade), none) := by
    induction vs using List.reverseRecOn with
    | nil => rfl
    | append_singleton vs v ih =>
      have before := ih fun v mem w mem' =>
        agrees v (List.mem_append_left _ mem) w (List.mem_append_left _ mem')
      rw [List.foldl_concat, before, List.reverse_append, List.reverse_singleton,
        List.singleton_append, List.insertionSort_cons]
      refine insertFromEnd_eq fun w mem => agrees v (by simp) w (List.mem_append_left _ ?_)
      simpa using mem
  rw [sortValues, run]

theorem insertionSort_filter (grade : Value → β) (vs : List Value) (g : β) :
    (vs.insertionSort (descends grade)).filter (fun v => grade v = g) =
      vs.filter fun v => grade v = g := by
  have alike : (vs.filter fun v => grade v = g).Pairwise (descends grade) := by
    refine List.pairwise_of_forall_mem_list fun v mem w mem' => ?_
    have this := (List.mem_filter.mp mem).2
    have other := (List.mem_filter.mp mem').2
    simp only [decide_eq_true_eq] at this other
    exact le_of_eq (other.trans this.symm)
  have kept := (List.sublist_insertionSort alike List.filter_sublist).filter fun v => grade v = g
  rw [List.filter_filter] at kept
  simp only [Bool.and_self] at kept
  have length :=
    ((List.perm_insertionSort (descends grade) vs).filter fun v => grade v = g).length_eq
  exact (kept.eq_of_length length.symm).symm

end

theorem takeWhile_eq_filter {α : Type} {p : α → Bool} {as : List α}
    (front : as.Pairwise fun a b => p b → p a) : as.takeWhile p = as.filter p := by
  induction as with
  | nil => rfl
  | cons a as ih =>
    rw [List.pairwise_cons] at front
    rw [List.takeWhile_cons, List.filter_cons, ih front.2]
    cases here : p a with
    | true => rfl
    | false =>
      symm
      rw [if_neg Bool.false_ne_true, if_neg Bool.false_ne_true, List.filter_eq_nil_iff]
      exact fun b mem passes => Bool.false_ne_true (here.symm.trans (front.1 b mem passes))

namespace Scale

variable {β : Type} [LinearOrder β] {S : Value → Prop} {key : Value → Value} {vs : List Value}

theorem ties_iff (scale : Scale S β) {a b : Value} (here : S a) (there : S b) :
    a.ties b ↔ scale.grade a = scale.grade b := by
  rw [← scale.eq_iff here there, Value.ties]
  split
  · next same => simp [same]
  · next other => simpa using other

theorem exceeds_iff (scale : Scale S β) {a b : Value} (here : S a) (there : S b) :
    a.exceeds b ↔ scale.grade b < scale.grade a := by
  rw [← scale.gt_iff here there, Value.exceeds]
  split
  · next same => simp [same]
  · next other => simpa using other

def sorted (scale : Scale S β) (key : Value → Value) (vs : List Value) : List Value :=
  (vs.reverse.insertionSort (descends fun v => scale.grade (key v))).reverse

theorem sorted_perm (scale : Scale S β) : (scale.sorted key vs).Perm vs :=
  ((List.reverse_perm _).trans (List.perm_insertionSort _ _)).trans (List.reverse_perm vs)

theorem sorted_ordered (scale : Scale S β) (graded : ∀ v ∈ vs, S (key v)) :
    (scale.sorted key vs).Pairwise fun v w => (key v).atMost (key w) := by
  have descending := List.pairwise_insertionSort (descends fun v => scale.grade (key v)) vs.reverse
  rw [sorted, List.pairwise_reverse]
  refine descending.imp_of_mem fun {v w} mem mem' down => ?_
  have here := graded v (by simpa using mem)
  have there := graded w (by simpa using mem')
  exact (scale.atMost_iff there here).mpr down

theorem sorted_stable (scale : Scale S β) (graded : ∀ v ∈ vs, S (key v)) {k : Value} (known : S k) :
    (scale.sorted key vs).filter (fun v => (key v).ties k) =
      vs.filter fun v => (key v).ties k := by
  have grades {ws : List Value} (among : ∀ v ∈ ws, v ∈ vs) :
      ws.filter (fun v => (key v).ties k) =
        ws.filter fun v => scale.grade (key v) = scale.grade k := by
    refine List.filter_congr fun v mem => ?_
    rw [Bool.eq_iff_iff, scale.ties_iff (graded v (among v mem)) known, decide_eq_true_eq]
  have same := insertionSort_filter (fun v => scale.grade (key v)) vs.reverse (scale.grade k)
  rw [grades fun v mem => scale.sorted_perm.mem_iff.mp mem, grades fun v mem => mem, sorted,
    List.filter_reverse, same, List.filter_reverse, List.reverse_reverse]

theorem sorted_nullsFirst (scale : Scale S β) (graded : ∀ v ∈ vs, S (key v)) :
    (scale.sorted key vs).takeWhile (fun v => (key v).isNull) =
      vs.filter fun v => (key v).isNull := by
  rw [takeWhile_eq_filter]
  · by_cases some : ∃ v ∈ vs, key v = .null
    · obtain ⟨v, mem, null⟩ := some
      have known : S .null := null ▸ graded v mem
      simpa only [Value.ties_null] using scale.sorted_stable graded known
    · have none (ws : List Value) (among : ∀ v ∈ ws, v ∈ vs) :
          ws.filter (fun v => (key v).isNull) = [] := by
        refine List.filter_eq_nil_iff.mpr fun v mem null => some ⟨v, among v mem, ?_⟩
        exact Value.eq_null_of_isNull null
      rw [none _ fun v mem => scale.sorted_perm.mem_iff.mp mem, none _ fun v mem => mem]
  · exact (scale.sorted_ordered graded).imp Value.isNull_of_atMost

theorem isStableOrdering (scale : Scale S β) (graded : ∀ v ∈ vs, S (key v)) :
    IsStableOrdering key vs (scale.sorted key vs) where
  perm := scale.sorted_perm
  ordered := scale.sorted_ordered graded
  stable w mem := scale.sorted_stable graded (graded w mem)
  nullsFirst := scale.sorted_nullsFirst graded

end Scale

/-- An item of a list that beats every one before it and is beaten by none behind it, null aside. -/
structure Leads (beats : Value → Value → Prop) (before : List Value) (v : Value)
    (after : List Value) : Prop where
  present : v.isNull = false
  first : ∀ w ∈ before, w.isNull = false → beats v w
  last : ∀ w ∈ after, w.isNull = false → ¬beats w v

section
variable {γ : Type} [LinearOrder γ] {grade : Value → γ} {wanted : Ordering} {c : Option Callback}
  {key : Value → Value} {vs : List Value}

/-- What the scan of a list for an extreme sees of it: keys, and which of two is wanted. -/
structure Scans (wanted : Ordering) (c : Option Callback) (key : Value → Value)
    (grade : Value → γ) (vs : List Value) : Prop where
  keys : ∀ v ∈ vs, extremeKey c v = .ok (key v)
  orders : ∀ v ∈ vs, ∀ w ∈ vs, ∃ o, extremeOrder c v (key v) w (key w) = .ok o ∧
    (o = wanted ↔ grade v < grade w)

theorem extreme_step {before mid rest : List Value} {b w : Value}
    (scans : Scans wanted c key grade (before ++ b :: mid ++ w :: rest))
    (leads : Leads (fun v w => grade v < grade w) before b mid) :
    ∃ before' b' mid', before ++ b :: mid ++ [w] = before' ++ b' :: mid' ∧
      Leads (fun v w => grade v < grade w) before' b' mid' ∧
      extreme wanted c (some (b, key b)) (w :: rest) =
        extreme wanted c (some (b', key b')) rest := by
  cases null : w.isNull with
  | true =>
    refine ⟨before, b, mid ++ [w], by simp, ⟨leads.present, leads.first, ?_⟩, ?_⟩
    · intro v mem present
      rcases List.mem_append.mp mem with mem | mem
      · exact leads.last v mem present
      · rw [List.mem_singleton.mp mem, null] at present
        cases present
    · rw [extreme, if_pos null]
  | false =>
    have step : extreme wanted c (some (b, key b)) (w :: rest) =
        extreme wanted c (if grade w < grade b then some (w, key w) else some (b, key b)) rest := by
      obtain ⟨o, order, beats⟩ := scans.orders w (by simp) b (by simp)
      rw [extreme, if_neg (by simp [null]), scans.keys w (by simp)]
      simp only [bind, Except.bind, order]
      by_cases better : grade w < grade b
      · simp [better, beats.mpr better]
      · have other : (o == wanted) = false := by
          rw [beq_eq_false_iff_ne]
          exact fun same => better (beats.mp same)
        simp [better, other]
    rw [step]
    -- An item that beats the leading one beats all that this one leads.
    by_cases better : grade w < grade b
    · refine ⟨before ++ b :: mid, w, [], by simp, ⟨null, ?_, by simp⟩, by rw [if_pos better]⟩
      intro v mem present
      rcases List.mem_append.mp mem with mem | mem
      · exact better.trans (leads.first v mem present)
      · rcases List.mem_cons.mp mem with rfl | mem
        · exact better
        · exact better.trans_le (not_lt.mp (leads.last v mem present))
    · refine ⟨before, b, mid ++ [w], by simp, ⟨leads.present, leads.first, ?_⟩,
        by rw [if_neg better]⟩
      intro v mem present
      rcases List.mem_append.mp mem with mem | mem
      · exact leads.last v mem present
      · rw [List.mem_singleton.mp mem]
        exact better

theorem extreme_run {before mid rest : List Value} {b : Value}
    (scans : Scans wanted c key grade (before ++ b :: mid ++ rest))
    (leads : Leads (fun v w => grade v < grade w) before b mid) :
    ∃ before' v after', before ++ b :: mid ++ rest = before' ++ v :: after' ∧
      Leads (fun v w => grade v < grade w) before' v after' ∧
      extreme wanted c (some (b, key b)) rest = .ok v := by
  induction rest generalizing before b mid with
  | nil => exact ⟨before, b, mid, by simp, leads, rfl⟩
  | cons w rest ih =>
    obtain ⟨before', b', mid', split, leads', step⟩ := extreme_step scans leads
    have whole : before ++ b :: mid ++ w :: rest = before' ++ b' :: mid' ++ rest := by
      rw [← split]
      simp
    rw [whole] at scans ⊢
    rw [step]
    exact ih scans leads'

theorem extreme_leads (scans : Scans wanted c key grade vs) :
    ((∀ v ∈ vs, v.isNull) ∧ extreme wanted c none vs = .ok .null) ∨
      ∃ before v after, vs = before ++ v :: after ∧
        Leads (fun v w => grade v < grade w) before v after ∧ extreme wanted c none vs = .ok v := by
  induction vs with
  | nil => exact .inl ⟨fun v mem => absurd mem List.not_mem_nil, rfl⟩
  | cons w vs ih =>
    cases null : w.isNull with
    | true =>
      have skip : extreme wanted c none (w :: vs) = extreme wanted c none vs := by
        rw [extreme, if_pos null]
      have rest : Scans wanted c key grade vs :=
        ⟨fun v mem => scans.keys v (List.mem_cons_of_mem _ mem), fun v mem u mem' =>
          scans.orders v (List.mem_cons_of_mem _ mem) u (List.mem_cons_of_mem _ mem')⟩
      rw [skip]
      rcases ih rest with ⟨nulls, result⟩ | ⟨before, v, after, rfl, leads, result⟩
      · refine .inl ⟨fun v mem => ?_, result⟩
        rcases List.mem_cons.mp mem with rfl | mem
        · exact null
        · exact nulls v mem
      · refine .inr ⟨w :: before, v, after, rfl, ⟨leads.present, ?_, leads.last⟩, result⟩
        intro u mem present
        rcases List.mem_cons.mp mem with rfl | mem
        · rw [null] at present
          cases present
        · exact leads.first u mem present
    | false =>
      have start : extreme wanted c none (w :: vs) = extreme wanted c (some (w, key w)) vs := by
        rw [extreme, if_neg (by simp [null]), scans.keys w List.mem_cons_self]
        rfl
      have leads : Leads (fun v w => grade v < grade w) [] w [] :=
        ⟨null, fun _ mem => absurd mem List.not_mem_nil, fun _ mem => absurd mem List.not_mem_nil⟩
      rw [start]
      exact .inr (extreme_run scans leads)

def isGreatest (key : Value → Value) (vs : List Value) (v : Value) : Bool :=
  !v.isNull && vs.all fun w => w.isNull || !(key w).exceeds (key v)

end

namespace Scale

variable {β : Type} [LinearOrder β] {S : Value → Prop} {key : Value → Value}
  {before after : List Value} {v : Value}

theorem find?_greatest (scale : Scale S β) (graded : ∀ w ∈ before ++ v :: after, S (key w))
    (leads : Leads (fun v w => scale.grade (key w) < scale.grade (key v)) before v after) :
    (before ++ v :: after).find? (isGreatest key (before ++ v :: after)) = some v := by
  have here := graded v (by simp)
  refine List.find?_eq_some_iff_append.mpr ⟨?_, before, after, rfl, fun w mem => ?_⟩
  · rw [isGreatest, leads.present, Bool.not_false, Bool.true_and, List.all_eq_true]
    intro w mem
    cases null : w.isNull with
    | true => rfl
    | false =>
      have no : ¬(key w).exceeds (key v) := by
        rw [scale.exceeds_iff (graded w mem) here]
        rcases List.mem_append.mp mem with mem | mem
        · exact not_lt.mpr (le_of_lt (leads.first w mem null))
        · rcases List.mem_cons.mp mem with rfl | mem
          · exact lt_irrefl _
          · exact leads.last w mem null
      simp [no]
  · have mem' : w ∈ before ++ v :: after := List.mem_append_left _ mem
    cases null : w.isNull with
    | true => simp [isGreatest, null]
    | false =>
      have exceeds : (key v).exceeds (key w) :=
        (scale.exceeds_iff here (graded w mem')).mpr (leads.first w mem null)
      have beaten : isGreatest key (before ++ v :: after) w = false := by
        rw [isGreatest, Bool.and_eq_false_iff]
        refine .inr (List.all_eq_false.mpr ⟨v, by simp, ?_⟩)
        simp [leads.present, exceeds]
      rw [beaten, Bool.not_false]

theorem find?_sorted (scale : Scale S β) (graded : ∀ w ∈ before ++ v :: after, S (key w))
    (leads : Leads (fun v w => scale.grade (key v) < scale.grade (key w)) before v after) :
    (scale.sorted key (before ++ v :: after)).find? (fun w => !w.isNull) = some v := by
  have here := graded v (by simp)
  have least (w : Value) (mem : w ∈ before ++ v :: after) (present : w.isNull = false) :
      scale.grade (key v) ≤ scale.grade (key w) := by
    rcases List.mem_append.mp mem with mem | mem
    · exact le_of_lt (leads.first w mem present)
    · rcases List.mem_cons.mp mem with rfl | mem
      · exact le_rfl
      · exact not_lt.mp (leads.last w mem present)
  -- The first item that ties with this one and is not null is this one itself, before sorting and
  -- so behind it.
  have first : (scale.sorted key (before ++ v :: after)).find?
      (fun w => (key w).ties (key v) && !w.isNull) = some v := by
    have among (ws : List Value) : ws.find? (fun w => (key w).ties (key v) && !w.isNull) =
        (ws.filter fun w => (key w).ties (key v)).find? fun w => !w.isNull := by
      rw [List.find?_filter]
      simp only [Bool.decide_and, Bool.decide_eq_true]
    rw [among, scale.sorted_stable graded here, ← among]
    refine List.find?_eq_some_iff_append.mpr ⟨?_, before, after, rfl, fun w mem => ?_⟩
    · rw [leads.present, (scale.ties_iff here here).mpr rfl]
      rfl
    · cases null : w.isNull with
      | true => simp
      | false =>
        have other : ¬(key w).ties (key v) := by
          rw [scale.ties_iff (graded w (List.mem_append_left _ mem)) here]
          exact (leads.first w mem null).ne'
        simp [other]
  obtain ⟨-, passed, rest, split, others⟩ := List.find?_eq_some_iff_append.mp first
  refine List.find?_eq_some_iff_append.mpr ⟨by simp [leads.present], passed, rest, split, ?_⟩
  intro w mem
  cases null : w.isNull with
  | true => rfl
  | false =>
    have mem' : w ∈ before ++ v :: after := by
      rw [← scale.sorted_perm.mem_iff (a := w), split]
      exact List.mem_append_left _ mem
    have order : (key w).atMost (key v) := by
      have ordered := scale.sorted_ordered graded
      rw [split] at ordered
      exact (List.pairwise_append.mp ordered).2.2 w mem v List.mem_cons_self
    have ties : (key w).ties (key v) := by
      rw [scale.ties_iff (graded w mem') here]
      exact le_antisymm ((scale.atMost_iff (graded w mem') here).mp order) (least w mem' null)
    simpa [ties, null] using others w mem

end Scale

def itemKey (c : Option Closure) (s : Scope) (v : Value) : Eval Value :=
  match c with
  | none => .ok v
  | some c => c.call [v] s

/-- A closure, if there is one, that gets one item at a time. -/
def TakesItems (c : Option Closure) : Prop := ∀ d ∈ c, d.params.length ≤ 1

section
variable {c : Option Closure} {s : Scope} {v w k l : Value}

theorem TakesItems.arity_ne_two {d : Closure} (takes : TakesItems (some d)) (s : Scope) :
    (d.toCallback s).arity ≠ 2 :=
  Nat.ne_of_lt (Nat.lt_succ_of_le (takes d rfl))

theorem sortOrder_eq (takes : TakesItems c) (here : itemKey c s v = .ok k)
    (there : itemKey c s w = .ok l) :
    sortOrder (c.map fun c => c.toCallback s) v w = compareValues k l := by
  cases c with
  | none =>
    cases here
    cases there
    rfl
  | some d =>
    rw [Option.map_some, sortOrder, if_neg (takes.arity_ne_two s)]
    show (d.call [v] s).bind _ = _
    rw [show d.call [v] s = .ok k from here]
    show (d.call [w] s).bind _ = _
    rw [show d.call [w] s = .ok l from there]
    rfl

theorem extremeKey_eq (takes : TakesItems c) (here : itemKey c s v = .ok k) :
    extremeKey (c.map fun c => c.toCallback s) v = .ok k := by
  cases c with
  | none => exact here
  | some d => rwa [Option.map_some, extremeKey, if_neg (takes.arity_ne_two s)]

theorem extremeOrder_eq (takes : TakesItems c) :
    extremeOrder (c.map fun c => c.toCallback s) v k w l = compareValues k l := by
  cases c with
  | none => rfl
  | some d => rw [Option.map_some, extremeOrder, if_neg (takes.arity_ne_two s)]

end

namespace Scale

variable {β : Type} [LinearOrder β] {S : Value → Prop} {key : Value → Value} {vs : List Value}
  {c : Option Closure} {s : Scope}

theorem compareValues_eq (scale : Scale S β) {a b : Value} (here : S a) (there : S b) :
    ∃ o, compareValues a b = .ok o ∧ o.Compares (scale.grade a) (scale.grade b) := by
  obtain ⟨o, order, grades⟩ := scale.compares a b here there
  exact ⟨o, by rw [compareValues, order]; rfl, grades⟩

theorem sortValues_eq (scale : Scale S β) (takes : TakesItems c)
    (keys : ∀ v ∈ vs, itemKey c s v = .ok (key v)) (graded : ∀ v ∈ vs, S (key v)) :
    sortValues (sortOrder (c.map fun c => c.toCallback s)) vs = .ok (scale.sorted key vs) := by
  refine DocPath.sortValues_eq fun v mem w mem' => ?_
  rw [sortOrder_eq takes (keys v mem) (keys w mem')]
  exact scale.compareValues_eq (graded v mem) (graded w mem')

theorem least_eq (scale : Scale S β) (takes : TakesItems c)
    (keys : ∀ v ∈ vs, itemKey c s v = .ok (key v)) (graded : ∀ v ∈ vs, S (key v)) :
    extreme .lt (c.map fun c => c.toCallback s) none vs =
      .ok (((scale.sorted key vs).find? fun v => !v.isNull).getD .null) := by
  have scans : Scans .lt (c.map fun c => c.toCallback s) key (fun v => scale.grade (key v)) vs := by
    refine ⟨fun v mem => extremeKey_eq takes (keys v mem), fun v mem w mem' => ?_⟩
    obtain ⟨o, order, grades⟩ := scale.compareValues_eq (graded v mem) (graded w mem')
    exact ⟨o, by rw [extremeOrder_eq takes, order], grades.eq_lt⟩
  rcases extreme_leads scans with ⟨nulls, result⟩ | ⟨before, v, after, rfl, leads, result⟩
  · have none : (scale.sorted key vs).find? (fun v => !v.isNull) = none := by
      rw [List.find?_eq_none]
      intro v mem
      simp [nulls v (scale.sorted_perm.mem_iff.mp mem)]
    rw [result, none]
    rfl
  · rw [result, scale.find?_sorted graded leads]
    rfl

theorem greatest_eq (scale : Scale S β) (takes : TakesItems c)
    (keys : ∀ v ∈ vs, itemKey c s v = .ok (key v)) (graded : ∀ v ∈ vs, S (key v)) :
    extreme .gt (c.map fun c => c.toCallback s) none vs =
      .ok ((vs.find? (isGreatest key vs)).getD .null) := by
  have scans : Scans .gt (c.map fun c => c.toCallback s) key
      (fun v => OrderDual.toDual (scale.grade (key v))) vs := by
    refine ⟨fun v mem => extremeKey_eq takes (keys v mem), fun v mem w mem' => ?_⟩
    obtain ⟨o, order, grades⟩ := scale.compareValues_eq (graded v mem) (graded w mem')
    exact ⟨o, by rw [extremeOrder_eq takes, order], grades.eq_gt⟩
  rcases extreme_leads scans with ⟨nulls, result⟩ | ⟨before, v, after, rfl, leads, result⟩
  · have none : vs.find? (isGreatest key vs) = none := by
      rw [List.find?_eq_none]
      intro v mem
      simp [isGreatest, nulls v mem]
    rw [result, none]
    rfl
  · rw [result, scale.find?_greatest graded
      ⟨leads.present, fun w mem => leads.first w mem, fun w mem => leads.last w mem⟩]
    rfl

end Scale

/-- Sorting, the least and the greatest item agree. Where the items of a list have keys that are
null or of one kind, the keys are preordered; sorting gives the stable ordering by them, the least
item is the first in that ordering and the greatest the first in the list whose key no other
exceeds, items that are null aside. -/
theorem sort_and_extremes_agree (vs : List Value) (c : Option Closure) (s : Scope)
    (takes : TakesItems c) (key : Value → Value) (keys : ∀ v ∈ vs, itemKey c s v = .ok (key v))
    (family : Family) (alike : ∀ v ∈ vs, key v = .null ∨ family.holds (key v)) :
    Value.IsPreordered (fun k => ∃ v ∈ vs, key v = k) ∧
      ∃ sorted, IsStableOrdering key vs sorted ∧
        Method.sort.callWith c (.list vs) s = .ok (.list sorted) ∧
        Method.min.callWith c (.list vs) s =
          .ok ((sorted.find? fun v => !v.isNull).getD .null) ∧
        Method.max.callWith c (.list vs) s =
          .ok ((vs.find? (isGreatest key vs)).getD .null) := by
  obtain ⟨β, _, ⟨scale⟩⟩ := family.exists_scale
  have present : Value.list vs ≠ .null := nofun
  refine ⟨scale.isPreordered.mono ?_, scale.sorted key vs, scale.isStableOrdering alike, ?_, ?_, ?_⟩
  · rintro k ⟨v, mem, rfl⟩
    exact alike v mem
  · have call := Method.callWith_closure (m := .sort)
      (f := fun v c => (sortValues (sortOrder c) v.items).map .list) (fun _ _ => rfl) c present s
    rw [call]
    show (sortValues _ vs).map Value.list = _
    rw [scale.sortValues_eq takes keys alike]
    rfl
  · have call := Method.callWith_closure (m := .min)
      (f := fun v c => extreme .lt c none v.items) (fun _ _ => rfl) c present s
    exact call.trans (scale.least_eq takes keys alike)
  · have call := Method.callWith_closure (m := .max)
      (f := fun v c => extreme .gt c none v.items) (fun _ _ => rfl) c present s
    exact call.trans (scale.greatest_eq takes keys alike)

/-- Items by whether they are more than one: null is not, so it is sorted with the one that is not
but is no extreme. -/
theorem sort_and_extremes_agree_large :
    let vs : List Value := [.number (.int 3), .null, .number (.int 1), .number (.long 2)]
    let large : Closure := .mk [] [] (.binary .gt (.ident "it") (.literal (.number (.int 1))))
    let key := fun v => ((itemKey (some large) (.ofParams []) v).toOption).getD .null
    TakesItems (some large) ∧ (∀ v ∈ vs, itemKey (some large) (.ofParams []) v = .ok (key v)) ∧
      (∀ v ∈ vs, key v = .null ∨ Family.boolean.holds (key v)) ∧
      ∃ sorted, IsStableOrdering key vs sorted ∧
        sorted = [.null, .number (.int 1), .number (.int 3), .number (.long 2)] ∧
        sorted.find? (fun v => !v.isNull) = some (.number (.int 1)) ∧
        vs.find? (isGreatest key vs) = some (.number (.int 3)) := by
  intro vs large key
  have takes : TakesItems (some large) := fun d mem => by cases mem; exact Nat.zero_le 1
  have keys : ∀ v ∈ vs, itemKey (some large) (.ofParams []) v = .ok (key v) :=
    List.forall_mem_cons.mpr ⟨rfl, List.forall_mem_cons.mpr ⟨rfl, List.forall_mem_cons.mpr
      ⟨rfl, List.forall_mem_singleton.mpr rfl⟩⟩⟩
  have alike : ∀ v ∈ vs, key v = .null ∨ Family.boolean.holds (key v) :=
    List.forall_mem_cons.mpr ⟨.inr trivial, List.forall_mem_cons.mpr ⟨.inr trivial,
      List.forall_mem_cons.mpr ⟨.inr trivial, List.forall_mem_singleton.mpr (.inr trivial)⟩⟩⟩
  obtain ⟨-, sorted, ordering, sorts, least, greatest⟩ :=
    sort_and_extremes_agree vs (some large) (.ofParams []) takes key keys .boolean alike
  have run : Method.sort.callWith (some large) (.list vs) (.ofParams []) =
      .ok (.list [.null, .number (.int 1), .number (.int 3), .number (.long 2)]) := rfl
  cases sorts.symm.trans run
  exact ⟨takes, keys, alike, _, ordering, rfl, rfl, rfl⟩

end DocPath
