import Mathlib.Algebra.Order.Field.Rat
import Mathlib.Data.String.Basic
import Mathlib.Order.WithBot
import DocPath.Eval.Ordering
import DocPath.Proofs.Number.Exact

/-!
Values that have an order among each other. Texts, booleans and numbers that stand for themselves
are graded on scales, which are linear orders, and null stands below any scale; so among null and
the values of one such kind the order is total and transitive.
-/

namespace DocPath

open scoped NatPower

namespace Decimal

theorem toRat_lt_iff (a b : Decimal) :
    a.toRat < b.toRat ↔ a.signed * 10 ^ b.scale < b.signed * 10 ^ a.scale := by
  have unit (s : Nat) : (0 : Rat) < ((10 ^ s : Nat) : Rat) :=
    Nat.cast_pos.mpr (Nat.pow_pos (by decide))
  rw [toRat, toRat, Rat.mkRat_eq_div, Rat.mkRat_eq_div, div_lt_div_iff₀ (unit _) (unit _)]
  norm_cast

theorem compares (a b : Decimal) : (a.compare b).Compares a.toRat b.toRat := by
  cases order : a.compare b with
  | lt => exact (toRat_lt_iff a b).mpr (Int.compare_eq_lt.mp order)
  | eq => exact (compare_eq_iff a b).mp order
  | gt => exact (toRat_lt_iff b a).mpr (Int.compare_eq_gt.mp order)

end Decimal

theorem Number.compares {m n : Number} {q r : Rat} (stands : m.rational? = some q)
    (stands' : n.rational? = some r) : (m.compare n).Compares q r := by
  obtain ⟨binary, d, decimal, rfl⟩ := toDecimal?_of_rational stands
  obtain ⟨binary', e, decimal', rfl⟩ := toDecimal?_of_rational stands'
  rw [compare_eq_byValue (.inl (by simp [decimal])), compareByValue, binary, binary', decimal,
    decimal']
  exact d.compares e

namespace Value

def atMost (a b : Value) : Prop := a.compare b = .ok .lt ∨ a.compare b = .ok .eq

structure IsPreordered (S : Value → Prop) : Prop where
  compares : ∀ a b, S a → S b → ∃ o, a.compare b = .ok o ∧ b.compare a = .ok o.swap
  refl : ∀ a, S a → a.compare a = .ok .eq
  total : ∀ a b, S a → S b → a.atMost b ∨ b.atMost a
  trans : ∀ a b c, S a → S b → S c → a.atMost b → b.atMost c → a.atMost c

theorem IsPreordered.mono {S T : Value → Prop} (preordered : IsPreordered S)
    (fewer : ∀ v, T v → S v) : IsPreordered T where
  compares a b here there := preordered.compares a b (fewer a here) (fewer b there)
  refl a here := preordered.refl a (fewer a here)
  total a b here there := preordered.total a b (fewer a here) (fewer b there)
  trans a b c here there beyond :=
    preordered.trans a b c (fewer a here) (fewer b there) (fewer c beyond)

theorem null_compare {v : Value} (other : v.isNull = false) : Value.null.compare v = .ok .lt := by
  cases v with
  | null => cases other
  | _ => rfl

theorem compare_null {v : Value} (other : v.isNull = false) : v.compare .null = .ok .gt := by
  cases v with
  | null => cases other
  | _ => rfl

end Value

/-- Grades from which the order of some values is read off. -/
structure Scale (S : Value → Prop) (β : Type) [LinearOrder β] where
  grade : Value → β
  compares : ∀ a b, S a → S b → ∃ o, a.compare b = .ok o ∧ o.Compares (grade a) (grade b)

namespace Scale

section
variable {β : Type} [LinearOrder β] {S : Value → Prop} (scale : Scale S β) {a b c : Value}

theorem lt_iff (here : S a) (there : S b) :
    a.compare b = .ok .lt ↔ scale.grade a < scale.grade b := by
  obtain ⟨o, order, grades⟩ := scale.compares a b here there
  rw [order, Except.ok.injEq, grades.eq_lt]

theorem eq_iff (here : S a) (there : S b) :
    a.compare b = .ok .eq ↔ scale.grade a = scale.grade b := by
  obtain ⟨o, order, grades⟩ := scale.compares a b here there
  rw [order, Except.ok.injEq, grades.eq_eq]

theorem gt_iff (here : S a) (there : S b) :
    a.compare b = .ok .gt ↔ scale.grade b < scale.grade a := by
  obtain ⟨o, order, grades⟩ := scale.compares a b here there
  rw [order, Except.ok.injEq, grades.eq_gt]

theorem atMost_iff (here : S a) (there : S b) :
    a.atMost b ↔ scale.grade a ≤ scale.grade b := by
  rw [Value.atMost, scale.lt_iff here there, scale.eq_iff here there, le_iff_lt_or_eq]

theorem isPreordered (scale : Scale S β) : Value.IsPreordered S where
  compares a b here there := by
    obtain ⟨o, order, grades⟩ := scale.compares a b here there
    obtain ⟨p, order', grades'⟩ := scale.compares b a there here
    exact ⟨o, order, by rw [order', grades'.inj grades.swap]⟩
  refl a here := (scale.eq_iff here here).mpr rfl
  total a b here there := by
    rw [scale.atMost_iff here there, scale.atMost_iff there here]
    exact le_total _ _
  trans a b c here there beyond := by
    rw [scale.atMost_iff here there, scale.atMost_iff there beyond, scale.atMost_iff here beyond]
    exact le_trans

def withNull (present : ¬S .null) : Scale (fun v => v = .null ∨ S v) (WithBot β) where
  grade v := if v.isNull then ⊥ else scale.grade v
  compares a b here there := by
    have other {v : Value} (mem : S v) : v.isNull = false := by
      cases v with
      | null => exact absurd mem present
      | _ => rfl
    rcases here with rfl | here <;> rcases there with rfl | there
    · exact ⟨.eq, rfl, rfl⟩
    · refine ⟨.lt, Value.null_compare (other there), ?_⟩
      rw [other there]
      exact WithBot.bot_lt_coe _
    · refine ⟨.gt, Value.compare_null (other here), ?_⟩
      rw [other here]
      exact WithBot.bot_lt_coe _
    · obtain ⟨o, order, grades⟩ := scale.compares a b here there
      refine ⟨o, order, ?_⟩
      rw [other here, other there]
      cases o with
      | lt => exact WithBot.coe_lt_coe.mpr grades
      | eq => exact congrArg WithBot.some grades
      | gt => exact WithBot.coe_lt_coe.mpr grades

end

end Scale

/-- Kinds of values that are ordered among each other. -/
inductive Family where
  | text
  | boolean
  | number

namespace Family

def holds : Family → Value → Prop
  | .text, .string _ => True
  | .boolean, .bool _ => True
  | .number, .number n => n.rational?.isSome
  | _, _ => False

theorem not_null (family : Family) : ¬family.holds .null := by
  cases family <;> exact id

end Family

namespace Scale

def texts : Scale Family.text.holds String where
  grade
    | .string s => s
    | _ => ""
  compares a b here there := by
    cases a with
    | string s =>
      cases b with
      | string t =>
        refine ⟨Value.compareText s t, rfl, ?_⟩
        unfold Value.compareText compareOfLessAndEq
        split
        · next less => exact less
        · next least =>
          split
          · next same => exact same
          · next other => exact lt_of_le_of_ne (not_lt.mp least) (Ne.symm other)
      | _ => cases there
    | _ => cases here

def booleans : Scale Family.boolean.holds Bool where
  grade
    | .bool b => b
    | _ => false
  compares a b here there := by
    cases a with
    | bool x =>
      cases b with
      | bool y =>
        refine ⟨compare x y, rfl, ?_⟩
        cases x <;> cases y
        · exact rfl
        · exact Bool.false_lt_true
        · exact Bool.false_lt_true
        · exact rfl
      | _ => cases there
    | _ => cases here

def numbers : Scale Family.number.holds Rat where
  grade
    | .number n => n.rational?.getD 0
    | _ => 0
  compares a b here there := by
    cases a with
    | number m =>
      cases b with
      | number n =>
        obtain ⟨q, stands⟩ := Option.isSome_iff_exists.mp here
        obtain ⟨r, stands'⟩ := Option.isSome_iff_exists.mp there
        refine ⟨m.compare n, rfl, ?_⟩
        simp only [stands, stands', Option.getD_some]
        exact Number.compares stands stands'
      | _ => cases there
    | _ => cases here

end Scale

/-- Null and the values of a kind have a scale. -/
theorem Family.exists_scale (family : Family) :
    ∃ (β : Type) (_ : LinearOrder β), Nonempty (Scale (fun v => v = .null ∨ family.holds v) β) := by
  cases family with
  | text => exact ⟨_, _, ⟨Scale.texts.withNull (not_null _)⟩⟩
  | boolean => exact ⟨_, _, ⟨Scale.booleans.withNull (not_null _)⟩⟩
  | number => exact ⟨_, _, ⟨Scale.numbers.withNull (not_null _)⟩⟩

end DocPath
