import DocPath.Proofs.Eval.Indexing

/-!
Subscripts of lists. An index counts from the front, or from the end if it is negative; a range goes
from one position towards another, in either direction, and ends at the second or right before it.
What is not a position of the list fails with the bound as it was written. In a list no longer than
a signed word the positions can be computed in words: no number leaves its word, and no item is
asked for beyond the list.
-/

namespace DocPath

def frontIndex (i : Int64) (length : Nat) : Int := if i < 0 then i.toInt + length else i.toInt

def IsPosition (p : Int) (bound : Nat) : Prop := 0 ≤ p ∧ p < bound

instance (p : Int) (bound : Nat) : Decidable (IsPosition p bound) :=
  inferInstanceAs (Decidable (_ ∧ _))

def onWay (p q : Int) (k : Nat) : Int := if p ≤ q then p + k else p - k

/-- The items at a number of positions, one by one from a first position towards another. -/
structure IsWalk (vs : List Value) (p q : Int) (count : Nat) (ws : List Value) : Prop where
  length : ws.length = count
  item : ∀ k, (h : k < ws.length) → ∃ i : Nat, i = onWay p q k ∧ vs[i]? = some ws[k]

/-- What a subscript gives for a list. The end of a range that leaves out its end may be right
behind the list, and the walk is one item shorter. -/
inductive Subscripts (vs : List Value) : Selector → Eval Value → Prop
  | item {i : Int64} {k : Nat} {v : Value} (place : k = frontIndex i vs.length)
      (there : vs[k]? = some v) : Subscripts vs (.single i) (.ok v)
  | noItem {i : Int64} (outside : ¬IsPosition (frontIndex i vs.length) vs.length) :
      Subscripts vs (.single i) (.error (.indexOutOfBounds i vs.length))
  | inclusive {a b : Int64} {ws : List Value}
      (start : IsPosition (frontIndex a vs.length) vs.length)
      (stop : IsPosition (frontIndex b vs.length) vs.length)
      (walk : IsWalk vs (frontIndex a vs.length) (frontIndex b vs.length)
        ((frontIndex b vs.length - frontIndex a vs.length).natAbs + 1) ws) :
      Subscripts vs (.range a b true) (.ok (.list ws))
  | exclusive {a b : Int64} {ws : List Value}
      (start : IsPosition (frontIndex a vs.length) vs.length)
      (stop : IsPosition (frontIndex b vs.length) (vs.length + 1))
      (walk : IsWalk vs (frontIndex a vs.length) (frontIndex b vs.length)
        (frontIndex b vs.length - frontIndex a vs.length).natAbs ws) :
      Subscripts vs (.range a b false) (.ok (.list ws))
  | noStart {a b : Int64} {inclusive : Bool}
      (outside : ¬IsPosition (frontIndex a vs.length) vs.length) :
      Subscripts vs (.range a b inclusive) (.error (.indexOutOfBounds a vs.length))
  | noStop {a b : Int64} {inclusive : Bool}
      (start : IsPosition (frontIndex a vs.length) vs.length)
      (outside : ¬IsPosition (frontIndex b vs.length)
        (if inclusive then vs.length else vs.length + 1)) :
      Subscripts vs (.range a b inclusive) (.error (.indexOutOfBounds b vs.length))

theorem frontIndex_eq (i : Int64) (length : Nat) :
    frontIndex i length = if i.toInt < 0 then i.toInt + length else i.toInt := by
  simp only [frontIndex, Int64.lt_iff_toInt_lt, Int64.toInt_zero]

theorem isPosition_iff {i : Int64} {length : Nat} :
    IsPosition (frontIndex i length) length ↔ InBounds i.toInt length := by
  rw [frontIndex_eq]
  unfold IsPosition InBounds
  split <;> omega

theorem not_isPosition_iff {p : Int} {bound : Nat} : ¬IsPosition p bound ↔ p < 0 ∨ bound ≤ p := by
  unfold IsPosition
  omega

theorem not_isPosition_succ_iff {p : Int} {bound : Nat} :
    ¬IsPosition p (bound + 1) ↔ p < 0 ∨ bound < p := by
  unfold IsPosition
  omega

theorem resolve_inside {i : Int64} {length : Nat}
    (inside : IsPosition (frontIndex i length) length) :
    ∃ k : Nat, k = frontIndex i length ∧ k < length ∧ resolve i length = .ok k := by
  have found : position? i length = some (placeOf i.toInt length) := by
    rw [position?_eq, if_pos (isPosition_iff.mp inside)]
  refine ⟨_, ?_, placeOf_lt (isPosition_iff.mp inside), resolve_of_position? found⟩
  rw [placeOf, ← frontIndex_eq]
  exact Int.toNat_of_nonneg inside.1

theorem resolve_outside {i : Int64} {length : Nat}
    (outside : ¬IsPosition (frontIndex i length) length) :
    resolve i length = .error (.indexOutOfBounds i length) := by
  rw [resolve, position?_eq, if_neg (mt isPosition_iff.mpr outside)]

theorem lt_of_resolve {i : Int64} {length k : Nat} (resolved : resolve i length = .ok k) :
    k < length := by
  by_cases inside : IsPosition (frontIndex i length) length
  · obtain ⟨k', -, within, resolved'⟩ := resolve_inside inside
    cases resolved.symm.trans resolved'
    exact within
  · rw [resolve_outside inside] at resolved
    cases resolved

theorem IsWalk.intro {vs ws : List Value} {p q : Int} {count : Nat} (length : ws.length = count)
    (place : Nat → Nat) (way : ∀ k < count, (place k : Int) = onWay p q k)
    (item : ∀ k < count, ws[k]? = vs[place k]?) : IsWalk vs p q count ws := by
  refine ⟨length, fun k h => ⟨place k, way k (length ▸ h), ?_⟩⟩
  rw [← item k (length ▸ h), List.getElem?_eq_getElem h]

theorem walk_up {vs : List Value} {first last : Nat} {q : Int} (upward : first ≤ last)
    (inside : last < vs.length) (towards : first ≤ q) :
    IsWalk vs first q (last - first + 1) (walk vs first last) := by
  have all : walk vs first last = (vs.take (last + 1)).drop first := if_pos upward
  refine .intro (by simp [all]; omega) (first + ·) (fun k _ => ?_) fun k h => ?_
  · rw [onWay, if_pos towards, Int.natCast_add]
  · rw [all, List.getElem?_drop, List.getElem?_take_of_lt (by omega)]

theorem walk_down {vs : List Value} {first last : Nat} {q : Int} (downward : last ≤ first)
    (inside : first < vs.length) (towards : q < first) :
    IsWalk vs first q (first - last + 1) (walk vs first last) := by
  have way : ∀ k < first - last + 1, ((first - k : Nat) : Int) = onWay first q k := by
    intro k h
    rw [onWay, if_neg (Int.not_le.mpr towards)]
    omega
  have length : ((vs.take (first + 1)).drop last).length = first - last + 1 := by
    simp
    omega
  have all : walk vs first last = ((vs.take (first + 1)).drop last).reverse := by
    by_cases single : first ≤ last
    · -- One item is the same in both directions.
      obtain rfl := Nat.le_antisymm downward single
      rw [Nat.sub_self] at length
      obtain ⟨v, one⟩ := List.length_eq_one_iff.mp length
      rw [walk, if_pos single, one, List.reverse_singleton]
    · exact if_neg single
  refine .intro (by rw [all, List.length_reverse, length]) (first - ·) way fun k h => ?_
  rw [all, List.getElem?_reverse (by omega), length, List.getElem?_drop,
    List.getElem?_take_of_lt (by omega)]
  congr 1
  omega

theorem subscripts_single (i : Int64) (vs : List Value) :
    Subscripts vs (.single i) ((Selector.single i).ofItems vs) := by
  by_cases inside : IsPosition (frontIndex i vs.length) vs.length
  · obtain ⟨k, place, within, resolved⟩ := resolve_inside inside
    have found : (Selector.single i).ofItems vs = .ok vs[k] := by
      rw [Selector.ofItems, resolved]
      show Except.ok (vs.getD k .null) = _
      rw [List.getD_eq_getElem?_getD, List.getElem?_eq_getElem within, Option.getD_some]
    rw [found]
    exact .item place (List.getElem?_eq_getElem within)
  · rw [Selector.ofItems, resolve_outside inside]
    exact .noItem inside

section
variable {vs : List Value} {p q : Nat}

theorem walk_inclusive (start : p < vs.length) (stop : q < vs.length) :
    IsWalk vs p q (((q : Int) - p).natAbs + 1) (walk vs p q) := by
  rcases Nat.lt_or_ge q p with down | up
  · have count : ((q : Int) - p).natAbs = p - q := by omega
    rw [count]
    exact walk_down (Nat.le_of_lt down) start (Int.ofNat_lt.mpr down)
  · have count : ((q : Int) - p).natAbs = q - p := by omega
    rw [count]
    exact walk_up up stop (Int.ofNat_le.mpr up)

def walkBefore (vs : List Value) (p q : Nat) : List Value :=
  if q = p then [] else if p < q then walk vs p (q - 1) else walk vs p (q + 1)

theorem walk_exclusive (start : p < vs.length) (stop : q ≤ vs.length) :
    IsWalk vs p q ((q : Int) - p).natAbs (walkBefore vs p q) := by
  unfold walkBefore
  split
  · next same =>
    subst same
    rw [Int.sub_self]
    exact ⟨rfl, fun k h => absurd h (Nat.not_lt_zero k)⟩
  · next other =>
    split
    · next up =>
      have count : ((q : Int) - p).natAbs = q - 1 - p + 1 := by omega
      rw [count]
      exact walk_up (by omega) (by omega) (by omega)
    · next down =>
      have count : ((q : Int) - p).natAbs = p - (q + 1) + 1 := by omega
      rw [count]
      exact walk_down (by omega) start (by omega)

end

/-- The position of the end of a range that leaves it out; it may be right behind the list. -/
def resolveEnd (i : Int64) (length : Nat) : Eval Nat :=
  if IsPosition (frontIndex i length) (length + 1) then .ok (frontIndex i length).toNat
  else .error (.indexOutOfBounds i length)

theorem le_of_resolveEnd {i : Int64} {length k : Nat} (resolved : resolveEnd i length = .ok k) :
    k ≤ length := by
  unfold resolveEnd at resolved
  split at resolved
  · next inside =>
    cases resolved
    have := inside.2
    omega
  · cases resolved

theorem selectRange_inclusive (a b : Int64) (vs : List Value) : selectRange vs a b true =
    (resolve a vs.length).bind fun p =>
      (resolve b vs.length).bind fun q => .ok (.list (walk vs p q)) := rfl

theorem selectRange_exclusive (a b : Int64) (vs : List Value) : selectRange vs a b false =
    (resolve a vs.length).bind fun p =>
      (resolveEnd b vs.length).bind fun q => .ok (.list (walkBefore vs p q)) := by
  refine congrArg _ (funext fun p => ?_)
  have split (q : Nat) : (.ok (.list (walkBefore vs p q)) : Eval Value) =
      if q = p then .ok (.list [])
      else if p < q then .ok (.list (walk vs p (q - 1))) else .ok (.list (walk vs p (q + 1))) := by
    rw [walkBefore, apply_ite Value.list, apply_ite Except.ok, apply_ite Value.list,
      apply_ite Except.ok]
  show (if frontIndex b vs.length < 0 ∨ (vs.length : Int) < frontIndex b vs.length then _ else _) = _
  rw [if_congr not_isPosition_succ_iff.symm rfl rfl, ite_not, resolveEnd]
  split
  · exact (split _).symm
  · rfl

theorem subscripts_range (a b : Int64) (inclusive : Bool) (vs : List Value) :
    Subscripts vs (.range a b inclusive) (selectRange vs a b inclusive) := by
  by_cases start : IsPosition (frontIndex a vs.length) vs.length
  · obtain ⟨p, place, within, resolved⟩ := resolve_inside start
    cases inclusive with
    | true =>
      rw [selectRange_inclusive, resolved, Except.bind]
      by_cases stop : IsPosition (frontIndex b vs.length) vs.length
      · obtain ⟨q, place', within', resolved'⟩ := resolve_inside stop
        rw [resolved', Except.bind]
        refine .inclusive start stop ?_
        rw [← place, ← place']
        exact walk_inclusive within within'
      · rw [resolve_outside stop]
        exact .noStop start stop
    | false =>
      rw [selectRange_exclusive, resolved, Except.bind]
      by_cases stop : IsPosition (frontIndex b vs.length) (vs.length + 1)
      · obtain ⟨q, place'⟩ := Int.eq_ofNat_of_zero_le stop.1
        have within' : q ≤ vs.length := by
          have := stop.2
          omega
        rw [resolveEnd, if_pos stop]
        refine .exclusive start stop ?_
        rw [← place, place', Int.toNat_natCast]
        exact walk_exclusive within within'
      · rw [resolveEnd, if_neg stop]
        exact .noStop start stop
  · rw [selectRange, resolve_outside start]
    exact .noStart start

/-- A computation with machine words and places of lists. It has no outcome, neither a result nor a
failure, where a number does not fit its word or a place is not in the list. -/
abbrev Checked (α : Type) := ExceptT EvalError Option α

namespace Checked

def fault {α : Type} : Checked α := ExceptT.mk none

def signed (z : Int) : Checked Int :=
  if Int64.minValue.toInt ≤ z ∧ z ≤ Int64.maxValue.toInt then pure z else fault

def unsigned (z : Int) : Checked Nat :=
  if 0 ≤ z ∧ z < UInt64.size then pure z.toNat else fault

def fromFront (i : Int64) (length : Nat) : Checked Int := do
  let n ← signed length
  if i < 0 then signed (i.toInt + n) else pure i.toInt

def position (i : Int64) (length : Nat) : Checked Nat := do
  let p ← fromFront i length
  if p < 0 ∨ (length : Int) ≤ p then throw (.indexOutOfBounds i length) else unsigned p

def rangeEnd (i : Int64) (length : Nat) : Checked Nat := do
  let p ← fromFront i length
  if p < 0 ∨ (length : Int) < p then throw (.indexOutOfBounds i length) else unsigned p

def item (vs : List Value) (place : Nat) : Checked Value :=
  match vs[place]? with
  | some v => pure v
  | none => fault

def slice (vs : List Value) (low high : Nat) : Checked (List Value) :=
  if low ≤ high ∧ high < vs.length then pure ((vs.take (high + 1)).drop low) else fault

def walk (vs : List Value) (p q : Nat) : Checked (List Value) := do
  if p ≤ q then slice vs p q
  else
    let ws ← slice vs q p
    pure ws.reverse

def walkBefore (vs : List Value) (p q : Nat) : Checked (List Value) := do
  if q = p then pure []
  else
    let last ← unsigned (if p < q then (q : Int) - 1 else q + 1)
    walk vs p last

def range (vs : List Value) (a b : Int64) (inclusive : Bool) : Checked Value := do
  let p ← position a vs.length
  if inclusive then
    let q ← position b vs.length
    let ws ← walk vs p q
    pure (.list ws)
  else
    let q ← rangeEnd b vs.length
    let ws ← walkBefore vs p q
    pure (.list ws)

def select (vs : List Value) : Selector → Checked Value
  | .single i => do
    let place ← position i vs.length
    item vs place
  | .range a b inclusive => range vs a b inclusive
  | .key _ => pure (.list vs)

variable {α β : Type}

def Runs (x : Checked α) (r : Eval α) : Prop := x.run = some r

theorem Runs.bind {x : Checked α} {r : Eval α} {f : α → Checked β} {g : α → Eval β}
    (first : x.Runs r) (rest : ∀ a, r = .ok a → (f a).Runs (g a)) : (x >>= f).Runs (r.bind g) := by
  unfold Runs at first
  rw [Runs, ExceptT.run_bind, first]
  cases r with
  | error e => rfl
  | ok a => exact rest a rfl

theorem Runs.next {x : Checked α} {a : α} {f : α → Checked β} {r : Eval β} (first : x.Runs (.ok a))
    (rest : (f a).Runs r) : (x >>= f).Runs r := by
  unfold Runs at first
  rw [Runs, ExceptT.run_bind, first]
  exact rest

theorem runs_signed {z : Int} (least : Int64.minValue.toInt ≤ z)
    (most : z ≤ Int64.maxValue.toInt) : (signed z).Runs (.ok z) := by
  rw [signed, if_pos ⟨least, most⟩]
  rfl

theorem runs_unsigned {z : Int} (least : 0 ≤ z) (most : z < UInt64.size) :
    (unsigned z).Runs (.ok z.toNat) := by
  rw [unsigned, if_pos ⟨least, most⟩]
  rfl

theorem maxValue_lt_size : Int64.maxValue.toInt < UInt64.size := by decide

section
variable {vs : List Value} {length p q : Nat}

theorem runs_fromFront (i : Int64) (short : (length : Int) ≤ Int64.maxValue.toInt) :
    (fromFront i length).Runs (.ok (frontIndex i length)) := by
  have least := i.minValue_le_toInt
  have most := i.toInt_le
  have bounds : Int64.minValue.toInt = -Int64.maxValue.toInt - 1 := by decide
  refine (runs_signed (by omega) short).next ?_
  unfold frontIndex
  split
  · next negative =>
    -- The sum of a negative index and a length lies between the two.
    rw [Int64.lt_iff_toInt_lt, Int64.toInt_zero] at negative
    exact runs_signed (by omega) (by omega)
  · rfl

theorem runs_position (i : Int64) (short : (length : Int) ≤ Int64.maxValue.toInt) :
    (position i length).Runs (resolve i length) := by
  have word := maxValue_lt_size
  refine (runs_fromFront i short).next ?_
  rw [if_congr not_isPosition_iff.symm rfl rfl, ite_not]
  split
  · next inside =>
    obtain ⟨k, place, -, resolved⟩ := resolve_inside inside
    have within := inside.2
    rw [resolved, ← Int.toNat_natCast k, place]
    exact runs_unsigned inside.1 (by omega)
  · next beyond =>
    rw [resolve_outside beyond]
    rfl

theorem runs_rangeEnd (i : Int64) (short : (length : Int) ≤ Int64.maxValue.toInt) :
    (rangeEnd i length).Runs (resolveEnd i length) := by
  have word := maxValue_lt_size
  refine (runs_fromFront i short).next ?_
  rw [if_congr not_isPosition_succ_iff.symm rfl rfl, ite_not, resolveEnd]
  split
  · next inside =>
    have within := inside.2
    exact runs_unsigned inside.1 (by omega)
  · rfl

theorem runs_slice (upward : p ≤ q) (inside : q < vs.length) :
    (slice vs p q).Runs (.ok ((vs.take (q + 1)).drop p)) := by
  rw [slice, if_pos ⟨upward, inside⟩]
  rfl

theorem runs_walk (start : p < vs.length) (stop : q < vs.length) :
    (walk vs p q).Runs (.ok (DocPath.walk vs p q)) := by
  unfold walk DocPath.walk
  split
  · next up => exact runs_slice up stop
  · next down => exact (runs_slice (Nat.le_of_not_le down) start).next rfl

theorem runs_walkBefore (short : (vs.length : Int) ≤ Int64.maxValue.toInt) (start : p < vs.length)
    (stop : q ≤ vs.length) : (walkBefore vs p q).Runs (.ok (DocPath.walkBefore vs p q)) := by
  have word := maxValue_lt_size
  unfold walkBefore DocPath.walkBefore
  split
  · rfl
  · next other =>
    split
    · next up =>
      have last : ((q : Int) - 1).toNat = q - 1 := by omega
      refine (runs_unsigned (by omega) (by omega)).next ?_
      rw [last]
      exact runs_walk start (by omega)
    · next down =>
      refine (runs_unsigned (by omega) (by omega)).next ?_
      exact runs_walk start (by omega)

theorem runs_range (a b : Int64) (inclusive : Bool)
    (short : (vs.length : Int) ≤ Int64.maxValue.toInt) :
    (range vs a b inclusive).Runs (selectRange vs a b inclusive) := by
  cases inclusive with
  | true =>
    rw [selectRange_inclusive]
    refine (runs_position a short).bind fun p first => ?_
    refine (runs_position b short).bind fun q second => ?_
    exact (runs_walk (lt_of_resolve first) (lt_of_resolve second)).next rfl
  | false =>
    rw [selectRange_exclusive]
    refine (runs_position a short).bind fun p first => ?_
    refine (runs_rangeEnd b short).bind fun q second => ?_
    exact (runs_walkBefore short (lt_of_resolve first) (le_of_resolveEnd second)).next rfl

theorem runs_select (sel : Selector) (short : (vs.length : Int) ≤ Int64.maxValue.toInt) :
    (select vs sel).Runs (sel.ofItems vs) := by
  cases sel with
  | single i =>
    refine (runs_position i short).bind fun k resolved => ?_
    have within := lt_of_resolve resolved
    rw [item, List.getD_eq_getElem?_getD, List.getElem?_eq_getElem within]
    rfl
  | range a b inclusive => exact runs_range a b inclusive short
  | key k => rfl

end

end Checked

/-- A subscript that is an index or a range gives the item or the walk that it stands for, and where
one of its bounds is no position of the list, a failure with the first such bound. In a list no
longer than a signed word this comes out of a computation in words that never leaves a word or the
list. -/
theorem subscripts_exact (vs : List Value) (sel : Selector) (positional : ∀ k, sel ≠ .key k)
    (s : Scope) :
    Subscripts vs sel ((Segment.index sel).eval (.list vs) s) ∧
      ((vs.length : Int) ≤ Int64.maxValue.toInt →
        (Checked.select vs sel).Runs ((Segment.index sel).eval (.list vs) s)) := by
  have selected : (Segment.index sel).eval (.list vs) s = sel.ofItems vs := by
    cases sel with
    | key k => exact absurd rfl (positional k)
    | _ => rfl
  rw [selected]
  refine ⟨?_, Checked.runs_select sel⟩
  cases sel with
  | single i => exact subscripts_single i vs
  | range a b inclusive => exact subscripts_range a b inclusive vs
  | key k => exact absurd rfl (positional k)

/-- From the last item towards the first one, which is left out. -/
theorem subscripts_exact_downward :
    let vs : List Value := [.bool true, .null, .string "last"]
    let sel := Selector.range (-1) 0 false
    (∀ k, sel ≠ .key k) ∧ (vs.length : Int) ≤ Int64.maxValue.toInt ∧
      (Segment.index sel).eval (.list vs) (.ofParams []) = .ok (.list [.string "last", .null]) ∧
      Subscripts vs sel (.ok (.list [.string "last", .null])) ∧
      (Checked.select vs sel).Runs (.ok (.list [.string "last", .null])) := by
  intro vs sel
  have positional : ∀ k, sel ≠ .key k := nofun
  have short : (vs.length : Int) ≤ Int64.maxValue.toInt := by decide
  obtain ⟨gives, runs⟩ := subscripts_exact vs sel positional (.ofParams [])
  exact ⟨positional, short, rfl, gives, runs short⟩

end DocPath
