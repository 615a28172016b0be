import DocPath.Proofs.Entries
import DocPath.Proofs.Number.Ordering
import DocPath.Value.Order

/-!
Equality of values does not depend on which operand stands first, but for one pair of kinds: of a
list of elements and a list of anything else, the second is compared item by item where it stands
first, and by its text where it stands behind.
-/

namespace DocPath

mutual
def Element.isKeyed : Element → Bool
  | .mk _ _ attributes children => decide (attributes.map Prod.fst).Nodup && childrenKeyed children
def Child.isKeyed : Child → Bool
  | .text _ => true
  | .element e => e.isKeyed
def childrenKeyed : List Child → Bool
  | [] => true
  | c :: cs => c.isKeyed && childrenKeyed cs
end

theorem childrenKeyed_eq (cs : List Child) :
    childrenKeyed cs = (childElements cs).all Element.isKeyed := by
  induction cs with
  | nil => rfl
  | cons c cs ih => cases c <;> simp only [childrenKeyed, Child.isKeyed, childElements,
      List.all_cons, ih, Bool.true_and]

theorem Element.isKeyed_eq (e : Element) :
    e.isKeyed = (decide (e.attributes.map Prod.fst).Nodup && e.elements.all isKeyed) := by
  cases e
  rw [isKeyed, childrenKeyed_eq]
  rfl

namespace Value

mutual
/-- Whether the keys of each map in a value are different, and the attributes of each element. -/
def isKeyed : Value → Bool
  | .list vs => itemsKeyed vs
  | .map m => decide (m.map Prod.fst).Nodup && entriesKeyed m
  | .node e => e.isKeyed
  | _ => true
def itemsKeyed : List Value → Bool
  | [] => true
  | v :: vs => v.isKeyed && itemsKeyed vs
def entriesKeyed : List (String × Value) → Bool
  | [] => true
  | (_, v) :: m => v.isKeyed && entriesKeyed m
end

theorem itemsKeyed_eq (vs : List Value) : itemsKeyed vs = vs.all isKeyed := by
  induction vs with
  | nil => rfl
  | cons v vs ih => rw [itemsKeyed, List.all_cons, ih]

theorem entriesKeyed_eq (m : List (String × Value)) : entriesKeyed m = m.all fun p => p.2.isKeyed := by
  induction m with
  | nil => rfl
  | cons p m ih => rw [entriesKeyed, List.all_cons, ih]

mutual
/-- Whether, wherever two values have lists at one place, both or none of them are lists of
elements. -/
def isAligned : Value → Value → Bool
  | .list as, .list bs =>
    (Value.list as).isNodeLike == (Value.list bs).isNodeLike && itemsAligned as bs
  | .map m, .map n => entriesAligned m n
  | _, _ => true
def itemsAligned : List Value → List Value → Bool
  | a :: as, b :: bs => a.isAligned b && itemsAligned as bs
  | _, _ => true
def entriesAligned : List (String × Value) → List (String × Value) → Bool
  | [], _ => true
  | (k, v) :: m, n =>
    (match n.lookup k with
      | some w => v.isAligned w
      | none => true) && entriesAligned m n
end

end Value

theorem sameAttributes_eq (m n : List (String × String)) :
    (m.length == n.length && m.all fun p => n.lookup p.1 == some p.2) =
      sameKeyed (fun v w => w == v) m n := by
  have one : ∀ p : String × String,
      (n.lookup p.1 == some p.2) = (n.lookup p.1).any fun w => w == p.2 := by
    intro p
    cases n.lookup p.1 <;> rfl
  simp only [sameKeyed, one]

mutual
theorem Element.sameAs_comm : ∀ e f : Element, e.isKeyed → f.isKeyed → e.sameAs f = f.sameAs e
  | .mk n s as cs, .mk n' s' as' cs', keyed, keyed' => by
    simp only [Element.isKeyed, Bool.and_eq_true, decide_eq_true_eq] at keyed keyed'
    have attributes : sameKeyed (fun v w => w == v) as as' = sameKeyed (fun v w => w == v) as' as :=
      sameKeyed_comm keyed.1 keyed'.1 fun _ v w _ _ => BEq.comm
    have children := sameChildren_comm cs cs' keyed.2 keyed'.2
    rw [Element.sameAs, Element.sameAs, Bool.and_assoc (n == n' && s == s'),
      Bool.and_assoc (n' == n && s' == s), sameAttributes_eq, sameAttributes_eq, attributes,
      children, BEq.comm (a := n), BEq.comm (a := s)]
theorem Child.sameAs_comm : ∀ c d : Child, c.isKeyed → d.isKeyed → c.sameAs d = d.sameAs c
  | .text s, .text t, _, _ => by rw [Child.sameAs, Child.sameAs, BEq.comm]
  | .element e, .element f, keyed, keyed' => by
    rw [Child.sameAs, Child.sameAs]
    exact e.sameAs_comm f keyed keyed'
  | .text _, .element _, _, _ => rfl
  | .element _, .text _, _, _ => rfl
theorem sameChildren_comm : ∀ cs ds : List Child, childrenKeyed cs → childrenKeyed ds →
    sameChildren cs ds = sameChildren ds cs
  | [], [], _, _ => rfl
  | [], _ :: _, _, _ => rfl
  | _ :: _, [], _, _ => rfl
  | c :: cs, d :: ds, keyed, keyed' => by
    rw [childrenKeyed, Bool.and_eq_true] at keyed keyed'
    rw [sameChildren, sameChildren, c.sameAs_comm d keyed.1 keyed'.1,
      sameChildren_comm cs ds keyed.2 keyed'.2]
end

namespace Value

/-- Two values that equality does not look into: they are of two kinds, or of one without parts. -/
def Apart (a b : Value) : Prop :=
  a.kind ≠ b.kind ∨ a.kind = b.kind ∧ a.kind ∈ [.null, .boolean, .string, .node]

section
variable {a b : Value}

theorem Apart.of_kind (simple : a.kind ∈ [.null, .boolean, .string, .node]) : Apart a b := by
  by_cases same : a.kind = b.kind
  · exact .inr ⟨same, simple⟩
  · exact .inl same

theorem Apart.symm (apart : Apart a b) : Apart b a :=
  apart.imp Ne.symm fun ⟨same, kind⟩ => ⟨same.symm, same ▸ kind⟩

theorem sameAs_of_kind (differ : a.kind ≠ b.kind) : a.sameAs b = false := by
  unfold sameAs
  split
  any_goals exact absurd rfl differ
  rfl

theorem kind_of_isNode (node : a.isNode) : a.kind = .node := by
  cases a <;> first | rfl | cases node

theorem Apart.sameAs_comm (apart : Apart a b) (keyed : a.isKeyed) (keyed' : b.isKeyed) :
    a.sameAs b = b.sameAs a := by
  rcases apart with differ | ⟨same, kind⟩
  · rw [sameAs_of_kind differ, sameAs_of_kind (Ne.symm differ)]
  · cases a <;> cases b <;> simp [Value.kind] at same kind
    · rfl
    · rw [sameAs, sameAs, BEq.comm]
    · rw [sameAs, sameAs, BEq.comm]
    · rw [sameAs, sameAs]
      exact Element.sameAs_comm _ _ keyed keyed'

theorem Apart.looseEq_eq (apart : Apart a b) : a.looseEq b =
    if a.isNodeLike && !b.isNodeLike then nodeEq a b
    else if b.isNodeLike && !a.isNodeLike then nodeEq b a
    else a.sameAs b := by
  unfold looseEq
  split
  · simp [Apart, kind] at apart
  · simp [Apart, kind] at apart
  · simp [Apart, kind] at apart
  · rfl

theorem Apart.looseEq_comm (apart : Apart a b) (keyed : a.isKeyed) (keyed' : b.isKeyed) :
    a.looseEq b = b.looseEq a := by
  rw [apart.looseEq_eq, apart.symm.looseEq_eq, apart.sameAs_comm keyed keyed']
  cases a.isNodeLike <;> cases b.isNodeLike <;> rfl

end

theorem sameItems_comm {as bs : List Value} (nodes : as.all isNode) (nodes' : bs.all isNode)
    (keyed : itemsKeyed as) (keyed' : itemsKeyed bs) : sameItems as bs = sameItems bs as := by
  induction as generalizing bs with
  | nil => cases bs <;> rfl
  | cons a as ih =>
    cases bs with
    | nil => rfl
    | cons b bs =>
      rw [List.all_cons, Bool.and_eq_true] at nodes nodes'
      rw [itemsKeyed, Bool.and_eq_true] at keyed keyed'
      have first := kind_of_isNode nodes.1
      have apart : Apart a b :=
        .inr ⟨first.trans (kind_of_isNode nodes'.1).symm, by simp [first]⟩
      rw [sameItems, sameItems, apart.sameAs_comm keyed.1 keyed'.1,
        ih nodes.2 nodes'.2 keyed.2 keyed'.2]

theorem looseEntries_eq (m n : List (String × Value)) :
    (m.length == n.length && looseEntries m n) = sameKeyed looseEq m n := by
  have all : looseEntries m n = m.all fun p => (n.lookup p.1).any p.2.looseEq := by
    induction m with
    | nil => rfl
    | cons p m ih =>
      obtain ⟨k, v⟩ := p
      rw [looseEntries, ih, List.all_cons]
      cases n.lookup k <;> rfl
  rw [all, sameKeyed]

theorem isKeyed_of_lookup {m : List (String × Value)} {key : String} {v : Value}
    (keyed : entriesKeyed m) (found : m.lookup key = some v) : v.isKeyed := by
  rw [entriesKeyed_eq, List.all_eq_true] at keyed
  exact keyed _ (mem_of_lookup found)

mutual
theorem looseEq_comm : ∀ a b : Value, a.isKeyed → b.isKeyed → a.isAligned b →
    a.looseEq b = b.looseEq a
  | .number x, b, keyed, keyed', _ => by
    cases b with
    | number y =>
      rw [looseEq, looseEq]
      exact x.numEq_comm y
    | _ => exact Apart.looseEq_comm (.inl nofun) keyed keyed'
  | .list as, b, keyed, keyed', aligned => by
    cases b with
    | list bs =>
      rw [isAligned, Bool.and_eq_true, beq_iff_eq] at aligned
      have items := looseItems_comm as bs keyed keyed' aligned.2
      rw [looseEq, looseEq, ← aligned.1]
      cases like : (Value.list as).isNodeLike with
      | false => exact items
      | true =>
        have like' := aligned.1.symm.trans like
        simp only [isNodeLike, Bool.and_eq_true] at like like'
        exact sameItems_comm like.2 like'.2 keyed keyed'
    | _ => exact Apart.looseEq_comm (.inl nofun) keyed keyed'
  | .map m, b, keyed, keyed', aligned => by
    cases b with
    | map n =>
      rw [isAligned] at aligned
      rw [isKeyed, Bool.and_eq_true, decide_eq_true_eq] at keyed keyed'
      rw [looseEq, looseEq, looseEntries_eq, looseEntries_eq]
      exact sameKeyed_comm keyed.1 keyed'.1 (looseEntries_comm m n keyed.2 keyed'.2 aligned)
    | _ => exact Apart.looseEq_comm (.inl nofun) keyed keyed'
  | .null, _, keyed, keyed', _ =>
    Apart.looseEq_comm (.of_kind (by simp [kind])) keyed keyed'
  | .bool x, _, keyed, keyed', _ =>
    Apart.looseEq_comm (.of_kind (by simp [kind])) keyed keyed'
  | .string s, _, keyed, keyed', _ =>
    Apart.looseEq_comm (.of_kind (by simp [kind])) keyed keyed'
  | .node e, _, keyed, keyed', _ =>
    Apart.looseEq_comm (.of_kind (by simp [kind])) keyed keyed'
theorem looseItems_comm : ∀ as bs : List Value, itemsKeyed as → itemsKeyed bs →
    itemsAligned as bs → looseItems as bs = looseItems bs as
  | [], [], _, _, _ => rfl
  | [], _ :: _, _, _, _ => rfl
  | _ :: _, [], _, _, _ => rfl
  | a :: as, b :: bs, keyed, keyed', aligned => by
    rw [itemsKeyed, Bool.and_eq_true] at keyed keyed'
    rw [itemsAligned, Bool.and_eq_true] at aligned
    rw [looseItems, looseItems, a.looseEq_comm b keyed.1 keyed'.1 aligned.1,
      looseItems_comm as bs keyed.2 keyed'.2 aligned.2]
theorem looseEntries_comm : ∀ m n : List (String × Value), entriesKeyed m → entriesKeyed n →
    entriesAligned m n → ∀ key v w, m.lookup key = some v → n.lookup key = some w →
      v.looseEq w = w.looseEq v
  | [], _, _, _, _, _, _, _, found, _ => nomatch found
  | (k, u) :: m, n, keyed, keyed', aligned, key, v, w, found, found' => by
    rw [entriesKeyed, Bool.and_eq_true] at keyed
    rw [entriesAligned, Bool.and_eq_true] at aligned
    rw [List.lookup_cons] at found
    split at found
    · next same =>
      cases found
      rw [beq_iff_eq] at same
      subst same
      have first := aligned.1
      rw [found'] at first
      exact u.looseEq_comm w keyed.1 (isKeyed_of_lookup keyed' found') first
    · exact looseEntries_comm m n keyed.2 keyed' aligned.2 key v w found found'
end

end Value

/-- A list of elements and another list are compared in two ways: item by item where the other list
stands first, and by their texts where it stands behind. -/
theorem looseEq_mixed {as bs : List Value} (elements : (Value.list bs).isNodeLike)
    (plain : (Value.list as).isNodeLike = false) :
    (Value.list as).looseEq (.list bs) = Value.looseItems as bs ∧
      (Value.list bs).looseEq (.list as) = ((Value.list bs).text == (Value.list as).text) := by
  constructor
  · rw [Value.looseEq, plain]
    rfl
  · rw [Value.looseEq, elements, plain]
    rfl

/-- Two values are equal in either order, if wherever they have lists at one place these are both
lists of elements or both lists of other kinds. -/
theorem equality_turns_round {a b : Value} (keyed : a.isKeyed) (keyed' : b.isKeyed)
    (aligned : a.isAligned b) : a.looseEq b = b.looseEq a :=
  Value.looseEq_comm a b keyed keyed' aligned

/-- A list of words and a list of elements with these words, under one key and against each
other. -/
theorem equality_turns_round_words :
    let words : List Value := [.string "x"]
    let elements : List Value := [.node (.mk "e" none [("k", "v")] [.text "x"])]
    let entries : Value := .map [("a", .list elements), ("b", .list words)]
    let turned : Value := .map [("b", .list words), ("a", .list elements)]
    (entries.isKeyed ∧ turned.isKeyed ∧ entries.isAligned turned ∧
        entries.looseEq turned = turned.looseEq entries) ∧
      (Value.list elements).isNodeLike ∧ (Value.list words).isNodeLike = false ∧
        (Value.list words).looseEq (.list elements) = true ∧
        (Value.list elements).looseEq (.list words) = false := by
  intro words elements entries turned
  have mixed : (Value.list elements).isNodeLike := by decide
  have plain : (Value.list words).isNodeLike = false := by decide
  obtain ⟨left, right⟩ := looseEq_mixed mixed plain
  refine ⟨⟨by decide, by decide, by decide, ?_⟩, mixed, plain, ?_, ?_⟩
  · exact equality_turns_round (by decide) (by decide) (by decide)
  · rw [left]
    decide
  · rw [right]
    decide

end DocPath
