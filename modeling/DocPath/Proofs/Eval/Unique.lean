import Mathlib.Data.List.Induction
import DocPath.Eval.Invoke
import DocPath.Proofs.Value.Content

/-!
Lists without repetition. What is kept of a list of documents is the first of all items that are
equal to each other, in the order of the list; this rests on equality being an equivalence there.
-/

namespace DocPath

def isFirst (vs : List Value) (i : Nat) : Bool :=
  (vs[i]?).all fun v => (vs.take i).all fun w => !w.looseEq v

def firstPositions (vs : List Value) : List Nat := (List.range vs.length).filter (isFirst vs)

/-- The items that no item before them equals. -/
def firstItems (vs : List Value) : List Value := (firstPositions vs).filterMap fun i => vs[i]?

/-- What it is to keep one item for all that are equal. -/
structure KeepsFirsts (vs kept : List Value) : Prop where
  firsts : kept = firstItems vs
  sublist : kept.Sublist vs
  apart : kept.Pairwise fun v w => v.looseEq w = false ∧ w.looseEq v = false
  /-- Every item equals one that is kept and stands at its place or before it. -/
  covered : ∀ i v, vs[i]? = some v →
    ∃ k ∈ firstPositions vs, k ≤ i ∧ ∃ w ∈ kept, vs[k]? = some w ∧ w.looseEq v

theorem mem_firstPositions {vs : List Value} {i : Nat} {v : Value} (here : vs[i]? = some v) :
    i ∈ firstPositions vs ↔ ∀ j w, j < i → vs[j]? = some w → w.looseEq v = false := by
  have inside : i < vs.length := (List.getElem?_eq_some_iff.mp here).1
  rw [firstPositions, List.mem_filter, List.mem_range, isFirst, here, Option.all_some,
    List.all_eq_true]
  constructor
  · rintro ⟨-, first⟩ j w before there
    have mem : w ∈ vs.take i :=
      List.mem_of_getElem? ((List.getElem?_take_of_lt before).trans there)
    simpa using first w mem
  · refine fun first => ⟨inside, fun w mem => ?_⟩
    obtain ⟨j, there⟩ := List.mem_iff_getElem?.mp mem
    rw [List.getElem?_take] at there
    split at there
    · next before => simp [first j w before there]
    · cases there

section
variable (vs : List Value) (v : Value)

theorem isFirst_concat {i : Nat} (inside : i < vs.length) :
    isFirst (vs ++ [v]) i = isFirst vs i := by
  rw [isFirst, isFirst, List.getElem?_append_left inside,
    List.take_append_of_le_length (Nat.le_of_lt inside)]

theorem firstPositions_concat :
    firstPositions (vs ++ [v]) =
      firstPositions vs ++ if vs.any fun w => w.looseEq v then [] else [vs.length] := by
  have last : isFirst (vs ++ [v]) vs.length = !vs.any fun w => w.looseEq v := by
    rw [isFirst, List.getElem?_concat_length, List.take_left', Option.all_some,
      List.not_any_eq_all_not]
    rfl
  have before : (List.range vs.length).filter (isFirst (vs ++ [v])) = firstPositions vs :=
    List.filter_congr fun i mem => isFirst_concat vs v (List.mem_range.mp mem)
  rw [firstPositions, List.length_append, List.length_singleton, List.range_succ,
    List.filter_append, before, List.filter_cons, last]
  cases vs.any fun w => w.looseEq v <;> rfl

theorem uniqueItems_append (kept as bs : List Value) :
    uniqueItems kept (as ++ bs) = uniqueItems (uniqueItems kept as).reverse bs := by
  induction as generalizing kept with
  | nil => simp [uniqueItems]
  | cons a as ih =>
    rw [List.cons_append, uniqueItems, uniqueItems]
    split
    · exact ih kept
    · exact ih (a :: kept)

theorem uniqueItems_concat :
    uniqueItems [] (vs ++ [v]) =
      uniqueItems [] vs ++ if (uniqueItems [] vs).any fun k => k.looseEq v then [] else [v] := by
  rw [uniqueItems_append, uniqueItems, List.reverse_reverse]
  split <;> simp [uniqueItems]

end

section
variable {vs : List Value}

theorem exists_first (plain : ∀ v ∈ vs, v.isPlain) {i : Nat} {v : Value} (here : vs[i]? = some v) :
    ∃ k ∈ firstPositions vs, k ≤ i ∧ ∃ w, vs[k]? = some w ∧ w.looseEq v := by
  induction i using Nat.strongRecOn generalizing v with
  | ind i ih =>
    have known := plain v (List.mem_of_getElem? here)
    by_cases first : i ∈ firstPositions vs
    · exact ⟨i, first, Nat.le_refl i, v, here, Value.looseEq_self known⟩
    · rw [mem_firstPositions here] at first
      push Not at first
      obtain ⟨j, w, before, there, same⟩ := first
      obtain ⟨k, mem, least, u, held, same'⟩ := ih j before there
      have known' := plain w (List.mem_of_getElem? there)
      have known'' := plain u (List.mem_of_getElem? held)
      exact ⟨k, mem, by omega, u, held,
        Value.looseEq_trans known'' known' known same' (by simpa using same)⟩

theorem mem_firstItems {k : Nat} {w : Value} (mem : k ∈ firstPositions vs)
    (held : vs[k]? = some w) : w ∈ firstItems vs :=
  List.mem_filterMap.mpr ⟨k, mem, held⟩

theorem mem_of_firstItems {w : Value} (mem : w ∈ firstItems vs) : w ∈ vs := by
  obtain ⟨k, -, held⟩ := List.mem_filterMap.mp mem
  exact List.mem_of_getElem? held

theorem any_firstItems {v : Value} (plain : ∀ w ∈ vs, w.isPlain) (known : v.isPlain) :
    (firstItems vs).any (fun w => w.looseEq v) = vs.any fun w => w.looseEq v := by
  rw [Bool.eq_iff_iff, List.any_eq_true, List.any_eq_true]
  constructor
  · rintro ⟨w, mem, same⟩
    exact ⟨w, mem_of_firstItems mem, same⟩
  · rintro ⟨w, mem, same⟩
    obtain ⟨i, here⟩ := List.mem_iff_getElem?.mp mem
    obtain ⟨k, first, -, u, held, same'⟩ := exists_first plain here
    have known' := plain u (List.mem_of_getElem? held)
    exact ⟨u, mem_firstItems first held,
      Value.looseEq_trans known' (plain w mem) known same' same⟩

theorem firstItems_concat (vs : List Value) (v : Value) :
    firstItems (vs ++ [v]) =
      firstItems vs ++ if vs.any fun w => w.looseEq v then [] else [v] := by
  have before : (firstPositions vs).filterMap (fun i => (vs ++ [v])[i]?) = firstItems vs := by
    refine List.filterMap_congr fun i mem => ?_
    exact List.getElem?_append_left (List.mem_range.mp (List.mem_filter.mp mem).1)
  rw [firstItems, firstPositions_concat, List.filterMap_append, before]
  split
  · rfl
  · rw [List.filterMap_cons, List.getElem?_concat_length, List.filterMap_nil]

theorem firstItems_sublist (vs : List Value) : (firstItems vs).Sublist vs := by
  induction vs using List.reverseRecOn with
  | nil => exact .slnil
  | append_singleton vs v ih =>
    rw [firstItems_concat]
    refine ih.append ?_
    split
    · exact List.nil_sublist _
    · exact .refl _

theorem uniqueItems_eq (plain : ∀ v ∈ vs, v.isPlain) : uniqueItems [] vs = firstItems vs := by
  induction vs using List.reverseRecOn with
  | nil => rfl
  | append_singleton vs v ih =>
    have known : v.isPlain := plain v (by simp)
    have old : ∀ w ∈ vs, w.isPlain := fun w mem => plain w (List.mem_append_left _ mem)
    rw [uniqueItems_concat, firstItems_concat, ih old, any_firstItems old known]

theorem firstItems_apart (plain : ∀ v ∈ vs, v.isPlain) :
    (firstItems vs).Pairwise fun v w => v.looseEq w = false ∧ w.looseEq v = false := by
  have order : (firstPositions vs).Pairwise (· < ·) := List.pairwise_lt_range.filter _
  rw [firstItems, List.pairwise_filterMap]
  refine order.imp_of_mem fun {i j} _ later before v held w there => ?_
  have apart := (mem_firstPositions there).mp later i v before held
  have known := plain v (List.mem_of_getElem? held)
  have known' := plain w (List.mem_of_getElem? there)
  refine ⟨apart, Bool.eq_false_iff.mpr fun same => ?_⟩
  rw [Value.looseEq_symm known' known same] at apart
  exact Bool.noConfusion apart

theorem uniqueItems_of_apart (kept : List Value)
    (apart : (kept.reverse ++ vs).Pairwise fun v w => v.looseEq w = false) :
    uniqueItems kept vs = kept.reverse ++ vs := by
  induction vs generalizing kept with
  | nil => rw [uniqueItems, List.append_nil]
  | cons v vs ih =>
    have new : (kept.reverse.any fun k => k.looseEq v) = false := by
      rw [List.any_eq_false]
      intro k mem
      simp [(List.pairwise_append.mp apart).2.2 k mem v List.mem_cons_self]
    rw [uniqueItems, if_neg (by simp [new]), ih (v :: kept)]
    · simp
    · simpa using apart

theorem keepsFirsts (plain : ∀ v ∈ vs, v.isPlain) : KeepsFirsts vs (uniqueItems [] vs) := by
  rw [uniqueItems_eq plain]
  refine ⟨rfl, firstItems_sublist vs, firstItems_apart plain, fun i v here => ?_⟩
  obtain ⟨k, first, least, w, held, same⟩ := exists_first plain here
  exact ⟨k, first, least, w, mem_firstItems first held, held, same⟩

theorem uniqueItems_again (plain : ∀ v ∈ vs, v.isPlain) :
    uniqueItems [] (uniqueItems [] vs) = uniqueItems [] vs :=
  uniqueItems_of_apart [] ((keepsFirsts plain).apart.imp And.left)

end

/-- Of documents without elements whose numbers are words and decimals, equality is an equivalence:
equal are those that say the same, in whatever representations of numbers and orders of entries. So
a list of them without repetition holds the first member of each class, in the order of the list,
and nothing is repeated in it. -/
theorem equality_groups_documents :
    (∀ a b : Value, a.isPlain → b.isPlain → (a.looseEq b ↔ a.content = b.content)) ∧
    (∀ a b c : Value, a.isPlain → b.isPlain → c.isPlain →
      a.looseEq a ∧ (a.looseEq b → b.looseEq a) ∧
        (a.looseEq b → b.looseEq c → a.looseEq c)) ∧
    (∀ m n : List (String × Value), (Value.map m).isPlain → m.Perm n →
      (Value.map m).looseEq (.map n)) ∧
    (∀ (x y : Number) (q : Rat), x.rational? = some q → y.rational? = some q →
      (Value.number x).looseEq (.number y)) ∧
    ∀ vs : List Value, (∀ v ∈ vs, v.isPlain) →
      ∃ kept, Method.unique.invoke (.list vs) [] = .ok (.list kept) ∧ KeepsFirsts vs kept ∧
        Method.unique.invoke (.list kept) [] = .ok (.list kept) := by
  refine ⟨Value.looseEq_iff, fun a b c plain plain' plain'' => ?_, fun m n plain same => ?_,
    fun x y q stands stands' => ?_, fun vs plain => ?_⟩
  · exact ⟨Value.looseEq_self plain, Value.looseEq_symm plain plain',
      Value.looseEq_trans plain plain' plain''⟩
  · rw [Value.looseEq_iff _ _ plain (Value.isPlain_of_perm plain same)]
    exact Value.content_of_perm plain same
  · rw [Value.looseEq]
    exact (Number.numEq_iff stands stands').mpr rfl
  · have again := uniqueItems_again plain
    exact ⟨uniqueItems [] vs, rfl, keepsFirsts plain, congrArg (Except.ok ∘ Value.list) again⟩

/-- Two maps with their entries in different orders and a number in different representations. -/
theorem equality_groups_documents_maps :
    let long : Value := .number (.bigDecimal { negative := false, coefficient := 150, scale := 2 })
    let short : Value := .number (.bigDecimal { negative := false, coefficient := 15, scale := 1 })
    let one : Value := .map [("a", .number (.int 1)), ("b", .list [long, .null])]
    let other : Value := .map [("b", .list [short, .null]), ("a", .number (.long 1))]
    let vs := [one, .string "x", other, .null, .string "x"]
    one.content = other.content ∧ (∀ v ∈ vs, v.isPlain) ∧
      KeepsFirsts vs [one, .string "x", .null] ∧
      Method.unique.invoke (.list vs) [] = .ok (.list [one, .string "x", .null]) := by
  intro long short one other vs
  have plain : ∀ v ∈ vs, v.isPlain := by decide
  have alike : one.content = other.content :=
    (equality_groups_documents.1 one other (by decide) (by decide)).mp rfl
  have answer : Method.unique.invoke (.list vs) [] = .ok (.list [one, .string "x", .null]) := rfl
  obtain ⟨kept, found, keeps, -⟩ := equality_groups_documents.2.2.2.2 vs plain
  rw [answer] at found
  cases found
  exact ⟨alike, plain, keeps, answer⟩

end DocPath
