import Mathlib.Data.List.Perm.Subperm
import DocPath.Text.Basic

/-!
Entries under different keys: what is put in, looked up and kept, and two lists of entries that
hold the same keys.
-/

namespace DocPath

theorem insertEntry_new {α : Type} {key : String} {value : α} {m : List (String × α)}
    (new : key ∉ m.map Prod.fst) : insertEntry key value m = m ++ [(key, value)] := by
  induction m with
  | nil => rfl
  | cons p m ih =>
    obtain ⟨k, v⟩ := p
    rw [List.map_cons, List.mem_cons, not_or] at new
    rw [insertEntry, if_neg (Ne.symm new.1), ih new.2, List.cons_append]

theorem entriesOf_of_nodup {α : Type} {m : List (String × α)} (keys : (m.map Prod.fst).Nodup) :
    entriesOf m = m := by
  have run : ∀ acc : List (String × α), ((acc ++ m).map Prod.fst).Nodup →
      m.foldl (fun m p => insertEntry p.1 p.2 m) acc = acc ++ m := by
    clear keys
    induction m with
    | nil => exact fun acc _ => (List.append_nil acc).symm
    | cons p m ih =>
      intro acc apart
      have new : p.1 ∉ acc.map Prod.fst := by
        rw [List.map_append, List.map_cons, List.nodup_append] at apart
        exact fun mem => apart.2.2 _ mem _ List.mem_cons_self rfl
      rw [List.foldl_cons, insertEntry_new new, ih, List.append_assoc, List.singleton_append]
      rwa [List.append_assoc, List.singleton_append]
  exact run [] keys

theorem mem_insertEntry {α : Type} {key : String} {v : α} {m : List (String × α)}
    {p : String × α} (mem : p ∈ insertEntry key v m) : p = (key, v) ∨ p ∈ m := by
  induction m with
  | nil => exact .inl (List.mem_singleton.mp mem)
  | cons q m ih =>
    obtain ⟨k, w⟩ := q
    rw [insertEntry] at mem
    split at mem
    · next same =>
      subst same
      exact (List.mem_cons.mp mem).imp id (List.mem_cons_of_mem _)
    · rcases List.mem_cons.mp mem with rfl | later
      · exact .inr List.mem_cons_self
      · exact (ih later).imp id (List.mem_cons_of_mem _)

theorem nodup_insertEntry {α : Type} {key : String} {v : α} {m : List (String × α)}
    (keys : (m.map Prod.fst).Nodup) : ((insertEntry key v m).map Prod.fst).Nodup := by
  rw [map_fst_insertEntry]
  split
  · exact keys
  · next new => exact List.nodup_append.mpr ⟨keys, by simp, by grind⟩

theorem entriesOf_spec {α : Type} (pairs : List (String × α)) :
    ((entriesOf pairs).map Prod.fst).Nodup ∧ ∀ p ∈ entriesOf pairs, p ∈ pairs := by
  -- The entries put in so far are under different keys and were among the pairs passed.
  have run : ∀ ps acc : List (String × α), (acc.map Prod.fst).Nodup → ∀ m,
      ps.foldl (fun m p => insertEntry p.1 p.2 m) acc = m →
      (m.map Prod.fst).Nodup ∧ ∀ p ∈ m, p ∈ acc ∨ p ∈ ps := by
    intro ps
    induction ps with
    | nil =>
      rintro acc apart m rfl
      exact ⟨apart, fun p mem => .inl mem⟩
    | cons q ps ih =>
      intro acc apart m whole
      obtain ⟨keys, origin⟩ := ih _ (nodup_insertEntry apart) m whole
      refine ⟨keys, fun p mem => ?_⟩
      rcases origin p mem with old | later
      · rcases mem_insertEntry old with rfl | old
        · exact .inr List.mem_cons_self
        · exact .inl old
      · exact .inr (List.mem_cons_of_mem _ later)
  obtain ⟨keys, among⟩ := run pairs [] List.nodup_nil _ rfl
  exact ⟨keys, fun p mem => (among p mem).resolve_left List.not_mem_nil⟩

section Lookup

variable {α : Type} {m : List (String × α)} {key : String} {v : α}

theorem mem_of_lookup (found : m.lookup key = some v) : (key, v) ∈ m := by
  obtain ⟨before, behind, rfl, -⟩ := List.lookup_eq_some_iff.mp found
  exact List.mem_append_right before List.mem_cons_self

theorem lookup_of_mem (keys : (m.map Prod.fst).Nodup) (mem : (key, v) ∈ m) :
    m.lookup key = some v := by
  induction m with
  | nil => exact absurd mem List.not_mem_nil
  | cons p m ih =>
    rw [List.map_cons, List.nodup_cons] at keys
    rw [List.lookup_cons]
    rcases List.mem_cons.mp mem with rfl | later
    · rw [beq_self_eq_true]
    · have other : (key == p.1) = false := by
        refine beq_false_of_ne fun same => keys.1 ?_
        exact List.mem_map.mpr ⟨(key, v), later, same⟩
      rw [other]
      exact ih keys.2 later

theorem lookup_isSome_iff : (m.lookup key).isSome ↔ key ∈ m.map Prod.fst := by
  induction m with
  | nil => simp
  | cons p m ih =>
    rw [List.lookup_cons, List.map_cons, List.mem_cons]
    split
    · next same => simp [beq_iff_eq.mp same]
    · next other => simp [ih, beq_eq_false_iff_ne.mp other]

theorem lookup_eq_of_perm {n : List (String × α)} (keys : (m.map Prod.fst).Nodup)
    (same : m.Perm n) : m.lookup key = n.lookup key := by
  have others : (n.map Prod.fst).Nodup := (same.map Prod.fst).nodup keys
  refine Option.ext fun v => ⟨fun found => ?_, fun found => ?_⟩
  · exact lookup_of_mem others (same.mem_iff.mp (mem_of_lookup found))
  · exact lookup_of_mem keys (same.mem_iff.mpr (mem_of_lookup found))

end Lookup

/-- Whether two lists hold the same keys, with related values under each. -/
def sameKeyed {α : Type} (related : α → α → Bool) (m n : List (String × α)) : Bool :=
  m.length == n.length && m.all fun p => (n.lookup p.1).any (related p.2)

section SameKeyed

variable {α : Type} {related : α → α → Bool} {m n : List (String × α)}

theorem sameKeyed_keys (keys : (m.map Prod.fst).Nodup) (same : sameKeyed related m n) :
    n.map Prod.fst ⊆ m.map Prod.fst := by
  simp only [sameKeyed, Bool.and_eq_true, beq_iff_eq, List.all_eq_true] at same
  have among : m.map Prod.fst ⊆ n.map Prod.fst := by
    intro key mem
    obtain ⟨p, held, rfl⟩ := List.mem_map.mp mem
    obtain ⟨w, found, -⟩ := (Option.any_eq_true _ _).mp (same.2 p held)
    exact List.mem_map.mpr ⟨_, mem_of_lookup found, rfl⟩
  refine ((keys.subperm among).perm_of_length_le ?_).symm.subset
  rw [List.length_map, List.length_map]
  exact Nat.le_of_eq same.1.symm

theorem sameKeyed_iff (keys : (m.map Prod.fst).Nodup) (others : (n.map Prod.fst).Nodup) :
    sameKeyed related m n ↔
      ∀ key, Option.Rel (fun v w => related v w) (m.lookup key) (n.lookup key) := by
  constructor
  · intro same key
    have back := sameKeyed_keys keys same
    simp only [sameKeyed, Bool.and_eq_true, List.all_eq_true] at same
    cases here : m.lookup key with
    | some v =>
      obtain ⟨w, there, holds⟩ := (Option.any_eq_true _ _).mp (same.2 _ (mem_of_lookup here))
      rw [there]
      exact .some holds
    | none =>
      -- Both lists have as many keys, so none is left over on the other side.
      have absent : ¬(n.lookup key).isSome := fun held => by
        have mem := lookup_isSome_iff.mpr (back (lookup_isSome_iff.mp held))
        rw [here] at mem
        exact Bool.false_ne_true mem
      rw [Option.not_isSome_iff_eq_none.mp absent]
      exact .none
  · intro rel
    have member (key : String) : key ∈ m.map Prod.fst ↔ key ∈ n.map Prod.fst := by
      have there := rel key
      rw [← lookup_isSome_iff, ← lookup_isSome_iff]
      generalize m.lookup key = here, n.lookup key = found at there ⊢
      cases there <;> simp
    have perm := (List.perm_ext_iff_of_nodup keys others).mpr member
    simp only [sameKeyed, Bool.and_eq_true, beq_iff_eq, List.all_eq_true]
    refine ⟨by simpa using perm.length_eq, fun p mem => ?_⟩
    have there := rel p.1
    rw [lookup_of_mem keys mem] at there
    cases found : n.lookup p.1 with
    | none => rw [found] at there; cases there
    | some w =>
      rw [found] at there
      cases there with
      | some holds => exact holds

theorem sameKeyed_comm (keys : (m.map Prod.fst).Nodup) (others : (n.map Prod.fst).Nodup)
    (turns : ∀ key v w, m.lookup key = some v → n.lookup key = some w →
      related v w = related w v) : sameKeyed related m n = sameKeyed related n m := by
  rw [Bool.eq_iff_iff, sameKeyed_iff keys others, sameKeyed_iff others keys]
  refine forall_congr' fun key => ?_
  have entry := turns key
  cases here : m.lookup key <;> cases there : n.lookup key
  · rfl
  · simp
  · simp
  · simp [entry _ _ here there]

end SameKeyed

end DocPath
