import DocPath.Proofs.Document.Narrowing
import DocPath.Proofs.Eval.Direct

/-!
Items at indices that are numbers. An index keeps the low 64 bits of a number, in two's complement,
before it is compared with the length of the list. So an index within these bits is checked as a
subscript is, and one beyond them has the item that its low bits have, if there is one.
-/

namespace DocPath

open scoped NatPower

/-- The index that has the low 64 bits of a number. -/
def lowIndex (z : Int) : Int := z.bmod (2 ^ (64 : Nat))

theorem lowIndex_eq {z : Int} (least : -((2 ^ (63 : Nat) : Nat) : Int) ≤ z)
    (most : z < (2 ^ (63 : Nat) : Nat)) : lowIndex z = z :=
  Int.bmod_eq_of_le (by omega) (by omega)

theorem lowIndex_toInt (i : Int64) : lowIndex i.toInt = i.toInt := by
  have least := i.le_toInt
  have most := i.toInt_lt
  exact lowIndex_eq (by omega) (by omega)

/-- Whether an index, from the front or from the end, is one of a list. -/
def InBounds (z : Int) (length : Nat) : Prop := -(length : Int) ≤ z ∧ z < length

instance (z : Int) (length : Nat) : Decidable (InBounds z length) :=
  inferInstanceAs (Decidable (_ ∧ _))

def placeOf (z : Int) (length : Nat) : Nat := (if z < 0 then z + length else z).toNat

/-- What a checked index gives: the item at its place, or a failure where it is out of bounds. -/
structure ChecksIndex (vs : List Value) (z : Int) (r : Eval Value) : Prop where
  inside : InBounds z vs.length → ∃ v, vs[placeOf z vs.length]? = some v ∧ r = .ok v
  outside : ¬InBounds z vs.length → ∃ i, r = .error (.indexOutOfBounds i vs.length)

theorem placeOf_lt {z : Int} {length : Nat} (inside : InBounds z length) :
    placeOf z length < length := by
  unfold InBounds at inside
  unfold placeOf
  split <;> omega

theorem position?_eq (i : Int64) (length : Nat) :
    position? i length =
      if InBounds i.toInt length then some (placeOf i.toInt length) else none := by
  have negative : (i < 0) = (i.toInt < 0) := by simp only [Int64.lt_iff_toInt_lt, Int64.toInt_zero]
  have resolved : 0 ≤ (if i.toInt < 0 then i.toInt + length else i.toInt) ∧
      (if i.toInt < 0 then i.toInt + length else i.toInt) < length ↔ InBounds i.toInt length := by
    unfold InBounds
    split <;> omega
  simp only [position?, negative, resolved]
  rfl

theorem Selector.apply_single (i : Int64) (vs : List Value) :
    ChecksIndex vs i.toInt ((Selector.single i).apply (.list vs)) where
  inside within := by
    have place := placeOf_lt within
    have found : position? i vs.length = some (placeOf i.toInt vs.length) := by
      rw [position?_eq, if_pos within]
    refine ⟨vs[placeOf i.toInt vs.length], List.getElem?_eq_getElem place, ?_⟩
    simp only [apply, ofItems, resolve_of_position? found, bind, Except.bind]
    rw [List.getD_eq_getElem?_getD, List.getElem?_eq_getElem place, Option.getD_some]
  outside beyond := by
    have missing : position? i vs.length = none := by
      rw [position?_eq, if_neg beyond]
    exact ⟨i, by simp only [apply, ofItems, resolve, missing, bind, Except.bind]⟩

namespace ChecksIndex

variable {vs : List Value} {y z : Int} {r : Eval Value}

/-- Where a list is no longer than a signed word, what is checked at the low bits of an index is
checked at the index exactly if they are all of it or there is no item at them. -/
theorem iff_of_low (short : vs.length ≤ 2 ^ (63 : Nat)) (low : ChecksIndex vs (lowIndex z) r) :
    ChecksIndex vs z r ↔ lowIndex z = z ∨ ¬InBounds (lowIndex z) vs.length := by
  have fits (within : InBounds z vs.length) : lowIndex z = z := by
    unfold InBounds at within
    exact lowIndex_eq (by omega) (by omega)
  constructor
  · intro checks
    by_contra other
    rw [not_or, not_not] at other
    obtain ⟨v, -, item⟩ := low.inside other.2
    obtain ⟨i, failure⟩ := checks.outside fun within => other.1 (fits within)
    cases item.symm.trans failure
  · rintro (same | beyond)
    · rwa [same] at low
    · refine ⟨fun within => absurd ?_ beyond, fun _ => low.outside beyond⟩
      rwa [fits within]

end ChecksIndex

theorem Segment.eval_call_value (m : Method) {e : Expr} {s : Scope} {w : Value}
    (argument : e.eval s = .ok w) (v : Value) :
    (Segment.call m.label [e]).eval v s = m.invoke v [.value w] := by
  have arguments : evalArguments [e] s = .ok [.value w] := by
    cases e with
    | closure c => cases argument
    | _ => simp only [evalArguments, argument]; rfl
  simp only [Segment.eval, Method.named?_label, arguments]
  rfl

/-- An item at an index that is a whole number is the one at its low 64 bits, as a subscript finds
it. In a list no longer than a signed word the index is checked as a whole number exactly if it
fits these bits or there is no item at them; so it is wherever it can be written as a subscript,
which agrees with it. -/
theorem item_at_number (m : Method) (indexing : m = .get ∨ m = .getAt) (e : Expr) (s : Scope)
    (n : Number) (z : Int) (argument : e.eval s = .ok (.number n)) (whole : n.integer? = some z)
    (vs : List Value) :
    let r := (Segment.call m.label [e]).eval (.list vs) s
    r = (Segment.index (.single (.ofInt z))).eval (.list vs) s ∧
      ChecksIndex vs (lowIndex z) r ∧
      (vs.length ≤ 2 ^ (63 : Nat) →
        (ChecksIndex vs z r ↔ lowIndex z = z ∨ ¬InBounds (lowIndex z) vs.length)) ∧
      ∀ i : Int64, i.toInt = z →
        ChecksIndex vs z r ∧ r = (Segment.index (.single i)).eval (.list vs) s := by
  intro r
  have item : r = itemAt (.list vs) (some (.number n)) := by
    have call := Segment.eval_call_value m argument (.list vs)
    rcases indexing with rfl | rfl <;> exact call
  have subscript : r = (Selector.single (.ofInt z)).apply (.list vs) := by
    rw [item, itemAt, if_pos (Number.isIntegral_of_integer? whole),
      Number.toInt64_of_integer? whole]
  have low : ChecksIndex vs (lowIndex z) r := by
    have checks := Selector.apply_single (.ofInt z) vs
    rwa [← subscript, Int64.toInt_ofInt] at checks
  refine ⟨subscript, low, fun short => low.iff_of_low short, ?_⟩
  rintro i rfl
  rw [lowIndex_toInt] at low
  rw [Int64.ofInt_toInt] at subscript
  exact ⟨low, subscript⟩

/-- The first index that does not fit 64 bits finds the first item. -/
theorem item_at_number_wrapped :
    let d : Decimal := ⟨false, 18446744073709551616, 0, by decide, by decide⟩
    let vs : List Value := [.number (.int 1), .number (.int 2), .number (.int 3)]
    let e := Expr.literal (.number (.bigInteger d))
    let r := (Segment.call Method.get.label [e]).eval (.list vs) (.ofParams [])
    (e.eval (.ofParams []) = .ok (.number (.bigInteger d)) ∧
        (Number.bigInteger d).integer? = some 18446744073709551616 ∧ vs.length ≤ 2 ^ (63 : Nat)) ∧
      r = .ok (.number (.int 1)) ∧ ¬InBounds 18446744073709551616 vs.length ∧
      ¬ChecksIndex vs 18446744073709551616 r := by
  intro d vs e r
  have argument : e.eval (.ofParams []) = .ok (.number (.bigInteger d)) := rfl
  have whole : (Number.bigInteger d).integer? = some 18446744073709551616 := rfl
  have short : vs.length ≤ 2 ^ (63 : Nat) := by decide
  have lost : Int64.ofInt 18446744073709551616 = 0 := by decide
  obtain ⟨subscript, -, checks, -⟩ := item_at_number .get (.inl rfl) e (.ofParams [])
    (.bigInteger d) 18446744073709551616 argument whole vs
  rw [lost] at subscript
  refine ⟨⟨argument, whole, short⟩, subscript.trans rfl, by decide, fun wrong => ?_⟩
  exact absurd ((checks short).mp wrong) (by decide)

end DocPath
