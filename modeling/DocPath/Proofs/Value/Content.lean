import DocPath.Proofs.Number.Exact
import DocPath.Proofs.Value.Equality

/-!
What documents say. A value without elements whose numbers stand for themselves has a content, in
which a number is the rational one and a map a function of the keys, so neither representations nor
the order of entries are left. Two such values are equal exactly if their contents are.
-/

namespace DocPath

/-- What a document says. -/
inductive Content where
  | null
  | bool (b : Bool)
  | number (q : Option Rat)
  | text (s : String)
  | list (items : List Content)
  | map (at_ : String → Option Content)
  | element

namespace Value

mutual
def content : Value → Content
  | .null => .null
  | .bool b => .bool b
  | .number n => .number n.rational?
  | .string s => .text s
  | .list vs => .list (itemsContent vs)
  | .map m => .map (entriesContent m)
  | .node _ => .element
def itemsContent : List Value → List Content
  | [] => []
  | v :: vs => v.content :: itemsContent vs
def entriesContent : List (String × Value) → String → Option Content
  | [], _ => none
  | (k, v) :: m, key => if key == k then some v.content else entriesContent m key
end

mutual
/-- Whether a value has no elements, no numbers but words and decimals, and in each map different
keys. -/
def isPlain : Value → Bool
  | .null | .bool _ | .string _ => true
  | .number n => n.rational?.isSome
  | .list vs => itemsPlain vs
  | .map m => decide (m.map Prod.fst).Nodup && entriesPlain m
  | .node _ => false
def itemsPlain : List Value → Bool
  | [] => true
  | v :: vs => v.isPlain && itemsPlain vs
def entriesPlain : List (String × Value) → Bool
  | [] => true
  | (_, v) :: m => v.isPlain && entriesPlain m
end

theorem entriesPlain_iff {m : List (String × Value)} :
    entriesPlain m ↔ ∀ p ∈ m, p.2.isPlain := by
  induction m with
  | nil => simp [entriesPlain]
  | cons p m ih =>
    obtain ⟨k, v⟩ := p
    rw [entriesPlain, Bool.and_eq_true, ih, List.forall_mem_cons]

theorem isPlain_of_lookup {m : List (String × Value)} {key : String} {v : Value}
    (plain : entriesPlain m) (found : m.lookup key = some v) : v.isPlain :=
  entriesPlain_iff.mp plain _ (mem_of_lookup found)

theorem entriesContent_eq (m : List (String × Value)) (key : String) :
    entriesContent m key = (m.lookup key).map content := by
  induction m with
  | nil => rfl
  | cons p m ih =>
    obtain ⟨k, v⟩ := p
    rw [entriesContent, List.lookup_cons, ih]
    cases key == k <;> rfl

theorem isPlain_of_perm {m n : List (String × Value)} (plain : (Value.map m).isPlain)
    (same : m.Perm n) : (Value.map n).isPlain := by
  rw [isPlain, Bool.and_eq_true, decide_eq_true_eq, entriesPlain_iff] at plain ⊢
  exact ⟨(same.map Prod.fst).nodup plain.1, fun p mem => plain.2 p (same.mem_iff.mpr mem)⟩

theorem content_of_perm {m n : List (String × Value)} (plain : (Value.map m).isPlain)
    (same : m.Perm n) : (Value.map m).content = (Value.map n).content := by
  rw [isPlain, Bool.and_eq_true, decide_eq_true_eq] at plain
  rw [content, content, Content.map.injEq]
  funext key
  rw [entriesContent_eq, entriesContent_eq, lookup_eq_of_perm plain.1 same]

theorem kind_of_content {a b : Value} (same : a.content = b.content) : a.kind = b.kind := by
  cases a <;> cases b <;> first | rfl | cases same

theorem isNodeLike_of_plain {v : Value} (plain : v.isPlain) : v.isNodeLike = false := by
  cases v with
  | node e => cases plain
  | list vs =>
    cases vs with
    | nil => rfl
    | cons v vs =>
      rw [isPlain, itemsPlain, Bool.and_eq_true] at plain
      have other : v.isNode = false := by
        cases v <;> first | rfl | exact absurd plain.1 (by simp [isPlain])
      rw [isNodeLike, List.all_cons, other, Bool.false_and, Bool.and_false]
  | _ => rfl

theorem Apart.looseEq_iff {a b : Value} (apart : Apart a b) (plain : a.isPlain)
    (plain' : b.isPlain) : a.looseEq b ↔ a.content = b.content := by
  rw [apart.looseEq_eq, isNodeLike_of_plain plain, isNodeLike_of_plain plain']
  simp only [Bool.false_and, Bool.false_eq_true, if_false]
  rcases apart with differ | ⟨same, kind⟩
  · rw [sameAs_of_kind differ]
    exact iff_of_false Bool.false_ne_true fun same => differ (kind_of_content same)
  · cases a <;> cases b <;> simp [Value.kind] at same kind
    · simp [sameAs]
    · simp [sameAs, content]
    · simp [sameAs, content]
    · cases plain

mutual
theorem looseEq_iff : ∀ a b : Value, a.isPlain → b.isPlain →
    (a.looseEq b ↔ a.content = b.content)
  | .number x, b, plain, plain' => by
    cases b with
    | number y =>
      obtain ⟨q, stands⟩ := Option.isSome_iff_exists.mp plain
      obtain ⟨r, stands'⟩ := Option.isSome_iff_exists.mp plain'
      rw [looseEq, Number.numEq_iff stands stands', content, content, stands, stands']
      simp
    | _ => exact Apart.looseEq_iff (.inl nofun) plain plain'
  | .list as, b, plain, plain' => by
    cases b with
    | list bs =>
      have items := looseItems_iff as bs plain plain'
      rw [looseEq, isNodeLike_of_plain plain, content, content, Content.list.injEq]
      exact items
    | _ => exact Apart.looseEq_iff (.inl nofun) plain plain'
  | .map m, b, plain, plain' => by
    cases b with
    | map n =>
      rw [isPlain, Bool.and_eq_true, decide_eq_true_eq] at plain plain'
      rw [looseEq, looseEntries_eq, sameKeyed_iff plain.1 plain'.1, content, content,
        Content.map.injEq, funext_iff]
      -- Both sides speak of each key on its own: equality by look-up, the content as a function.
      refine forall_congr' fun key => ?_
      have entry := looseEntries_iff m n plain.2 plain'.2 key
      rw [entriesContent_eq, entriesContent_eq]
      cases here : m.lookup key <;> cases there : n.lookup key
      · simp
      · simp
      · simp
      · simp [entry _ _ here there]
    | _ => exact Apart.looseEq_iff (.inl nofun) plain plain'
  | .null, _, plain, plain' =>
    Apart.looseEq_iff (.of_kind (by simp [kind])) plain plain'
  | .bool x, _, plain, plain' =>
    Apart.looseEq_iff (.of_kind (by simp [kind])) plain plain'
  | .string s, _, plain, plain' =>
    Apart.looseEq_iff (.of_kind (by simp [kind])) plain plain'
  | .node e, _, plain, _ => nomatch plain
theorem looseItems_iff : ∀ as bs : List Value, itemsPlain as → itemsPlain bs →
    (looseItems as bs ↔ itemsContent as = itemsContent bs)
  | [], [], _, _ => by simp [looseItems]
  | [], _ :: _, _, _ => by simp [looseItems, itemsContent]
  | _ :: _, [], _, _ => by simp [looseItems, itemsContent]
  | a :: as, b :: bs, plain, plain' => by
    rw [itemsPlain, Bool.and_eq_true] at plain plain'
    rw [looseItems, Bool.and_eq_true, a.looseEq_iff b plain.1 plain'.1,
      looseItems_iff as bs plain.2 plain'.2, itemsContent, itemsContent, List.cons.injEq]
theorem looseEntries_iff : ∀ m n : List (String × Value), entriesPlain m → entriesPlain n →
    ∀ key v w, m.lookup key = some v → n.lookup key = some w →
      (v.looseEq w ↔ v.content = w.content)
  | [], _, _, _, _, _, _, found, _ => nomatch found
  | (k, u) :: m, n, plain, plain', key, v, w, found, found' => by
    rw [entriesPlain, Bool.and_eq_true] at plain
    rw [List.lookup_cons] at found
    split at found
    · cases found
      exact u.looseEq_iff w plain.1 (isPlain_of_lookup plain' found')
    · exact looseEntries_iff m n plain.2 plain' key v w found found'
end

section
variable {a b c : Value}

theorem looseEq_self (plain : a.isPlain) : a.looseEq a := (looseEq_iff a a plain plain).mpr rfl

theorem looseEq_symm (plain : a.isPlain) (plain' : b.isPlain) (same : a.looseEq b) :
    b.looseEq a :=
  (looseEq_iff b a plain' plain).mpr ((looseEq_iff a b plain plain').mp same).symm

theorem looseEq_trans (plain : a.isPlain) (plain' : b.isPlain) (plain'' : c.isPlain)
    (same : a.looseEq b) (same' : b.looseEq c) : a.looseEq c :=
  (looseEq_iff a c plain plain'').mpr
    (((looseEq_iff a b plain plain').mp same).trans ((looseEq_iff b c plain' plain'').mp same'))

end

end Value
end DocPath
