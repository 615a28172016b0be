import DocPath.Eval.Basic
import DocPath.Proofs.Number.Ordering

/-!
The order of values turns round with its sides, whatever their kinds: what two values are ordered
by, their numbers or their texts, does not depend on which of them stands first, and neither does
whether they have an order.
-/

namespace DocPath

/-- Two results of comparing values of two kinds, once with one of them first and once with the
other. -/
inductive Turns (k l : Kind) :
    Except OrderFailure Ordering → Except OrderFailure Ordering → Prop
  | ordered {o p : Ordering} (swap : o.swap = p) : Turns k l (.ok o) (.ok p)
  | notNumeric (n : Kind) : Turns k l (.error (.notNumeric n)) (.error (.notNumeric n))
  | incomparable : Turns k l (.error (.incomparable k l)) (.error (.incomparable l k))

theorem Turns.symm {k l : Kind} {r s : Except OrderFailure Ordering} (turns : Turns k l r s) :
    Turns l k s r := by
  cases turns with
  | ordered swap => exact .ordered (swap ▸ Ordering.swap_swap)
  | notNumeric n => exact .notNumeric n
  | incomparable => exact .incomparable

namespace Kind

def isOther : Kind → Bool
  | .null | .number => false
  | _ => true

def byText : Kind → Kind → Bool
  | .boolean, .boolean | .string, .string => false
  | k, l => k.isOther && l.isOther

theorem byText_comm (k l : Kind) : byText k l = byText l k := by
  cases k <;> cases l <;> rfl

end Kind

namespace Value

def byNumber (v : Value) (order : Number → Ordering) : Except OrderFailure Ordering :=
  match v.toNumber? with
  | some x => .ok (order x)
  | none => .error (.notNumeric v.kind)

section
variable {a b : Value}

theorem compare_number (other : a.kind.isOther) (y : Number) :
    a.compare (.number y) =
      if a.isNodeLike then a.byNumber fun x => x.compare y
      else .error (.incomparable a.kind .number) := by
  cases a with
  | null | number => cases other
  | _ => grind [Value.compare, byNumber]

theorem number_compare (other : a.kind.isOther) (x : Number) :
    (Value.number x).compare a =
      if a.isNodeLike then a.byNumber x.compare
      else .error (.incomparable .number a.kind) := by
  cases a with
  | null | number => cases other
  | _ => grind [Value.compare, byNumber]

theorem compare_texts (texts : a.kind.byText b.kind) :
    a.compare b =
      if a.isNodeLike || b.isNodeLike then .ok (compareText a.text b.text)
      else .error (.incomparable a.kind b.kind) := by
  cases a <;> cases b
  all_goals first | exact absurd texts Bool.false_ne_true | grind [Value.compare]

theorem compareText_swap (s t : String) : (compareText s t).swap = compareText t s :=
  (Std.OrientedOrd.eq_swap (a := t) (b := s)).symm

theorem number_turns (other : a.kind.isOther) (y : Number) :
    Turns a.kind .number (a.compare (.number y)) ((Value.number y).compare a) := by
  rw [compare_number other, number_compare other, byNumber, byNumber]
  split
  · split
    · next x _ => exact .ordered (x.compare_swap y)
    · exact .notNumeric _
  · exact .incomparable

theorem texts_turn (texts : a.kind.byText b.kind) :
    Turns a.kind b.kind (a.compare b) (b.compare a) := by
  rw [compare_texts texts, compare_texts (b.kind.byText_comm a.kind ▸ texts),
    Bool.or_comm b.isNodeLike]
  split
  · exact .ordered (compareText_swap _ _)
  · exact .incomparable

end

theorem compare_turns (a b : Value) : Turns a.kind b.kind (a.compare b) (b.compare a) := by
  cases a with
  | null => cases b <;> exact .ordered rfl
  | number x =>
    cases b with
    | null => exact .ordered rfl
    | number y => exact .ordered (x.compare_swap y)
    | _ => exact (number_turns rfl x).symm
  | bool x =>
    cases b with
    | null => exact .ordered rfl
    | number y => exact number_turns rfl y
    | bool y => exact .ordered (Std.OrientedOrd.eq_swap (a := y) (b := x)).symm
    | _ => exact texts_turn rfl
  | string s =>
    cases b with
    | null => exact .ordered rfl
    | number y => exact number_turns rfl y
    | string t => exact .ordered (compareText_swap s t)
    | _ => exact texts_turn rfl
  | list | map | node =>
    cases b with
    | null => exact .ordered rfl
    | number y => exact number_turns rfl y
    | _ => exact texts_turn rfl

end Value

/-- Two values are ordered exactly if they are the other way round, and then inversely; otherwise
both ways fail at the same value that is no number, or name the two kinds in their order. So either
operator of a pair holds, fails to hold or has no result where the other does with its operands
exchanged. -/
theorem order_turns_round (a b : Value) :
    (∀ o, a.compare b = .ok o ↔ b.compare a = .ok o.swap) ∧
    (∀ k, a.compare b = .error (.notNumeric k) ↔ b.compare a = .error (.notNumeric k)) ∧
    (∀ k l, a.compare b = .error (.incomparable k l) ↔
      (k = a.kind ∧ l = b.kind) ∧ b.compare a = .error (.incomparable l k)) ∧
    (∀ v, BinaryOp.lt.apply a b = .ok v ↔ BinaryOp.gt.apply b a = .ok v) ∧
    ∀ v, BinaryOp.le.apply a b = .ok v ↔ BinaryOp.ge.apply b a = .ok v := by
  have fails {e : EvalError} (v : Value) : (Except.error e : Eval Value) ≠ .ok v := nofun
  have turns := a.compare_turns b
  simp only [BinaryOp.apply, orderTest, compareValues]
  generalize a.compare b = r, b.compare a = s at turns ⊢
  cases turns with
  | @ordered o p swap =>
    subst swap
    refine ⟨by simp [Ordering.swap_inj], by simp, by simp, fun v => ?_, fun v => ?_⟩
    · cases o <;> rfl
    · cases o <;> rfl
  | notNumeric n =>
    exact ⟨by simp, fun k => Iff.rfl, by simp, fun v => iff_of_false (fails v) (fails v),
      fun v => iff_of_false (fails v) (fails v)⟩
  | incomparable =>
    exact ⟨by simp, by simp, by grind, fun v => iff_of_false (fails v) (fails v),
      fun v => iff_of_false (fails v) (fails v)⟩

end DocPath
