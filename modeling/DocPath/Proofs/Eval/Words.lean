import DocPath.Eval.Invoke

/-!
Arithmetic of numbers that are signed words. Two words are brought to the wider of their widths and
the result is cut to it. So a remainder is the exact one, but for the least number of a width, which
has none by minus one; and a sum is cut to 32 bits up to its first word of 64 bits, and to 64 bits
from there on.
-/

namespace DocPath

open scoped NatPower

inductive Word where
  | int (n : Int32)
  | long (n : Int64)

namespace Word

def number : Word → Number
  | .int n => .int n
  | .long n => .long n

def toValue (w : Word) : Value := .number w.number

def value : Word → Int
  | .int n => n.toInt
  | .long n => n.toInt

def isLong : Word → Bool
  | .int _ => false
  | .long _ => true

/-- The word of a width that has the low bits of a whole number. -/
def wrap (long : Bool) (n : Int) : Word :=
  if long then .long (Int64.ofInt n) else .int (Int32.ofInt n)

def bits (long : Bool) : Nat := if long then 64 else 32

def least (long : Bool) : Int := -2 ^ (bits long - 1)

@[simp] theorem isLong_wrap (long : Bool) (n : Int) : (wrap long n).isLong = long := by
  cases long <;> rfl

theorem value_wrap (long : Bool) (n : Int) : (wrap long n).value = n.bmod (2 ^ bits long) := by
  cases long with
  | true => exact Int64.toInt_ofInt
  | false => exact Int32.toInt_ofInt

theorem value_bounds (w : Word) : least w.isLong ≤ w.value ∧ w.value < -least w.isLong := by
  cases w with
  | int n => exact ⟨n.le_toInt, n.toInt_lt⟩
  | long n => exact ⟨n.le_toInt, n.toInt_lt⟩

theorem value_wrap_eq_iff (long : Bool) (n : Int) :
    (wrap long n).value = n ↔ least long ≤ n ∧ n < -least long := by
  constructor
  · intro same
    have bounds := (wrap long n).value_bounds
    rwa [isLong_wrap, same] at bounds
  · rintro ⟨low, high⟩
    cases long with
    | true => exact Int64.toInt_ofInt_of_le low high
    | false => exact Int32.toInt_ofInt_of_le low high

theorem wrap_value (w : Word) : wrap w.isLong w.value = w := by
  cases w with
  | int n => exact congrArg Word.int n.ofInt_toInt
  | long n => exact congrArg Word.long n.ofInt_toInt

theorem toInt64_number (w : Word) : w.number.toInt64 = Int64.ofInt w.value := by
  cases w with
  | int n => exact (Int64.ofInt_int32ToInt n).symm
  | long n => exact n.ofInt_toInt.symm

theorem intArithmetic_rem (x y : Int32) :
    Number.intArithmetic .rem x y =
      if y.toInt = 0 ∨ x.toInt = least false ∧ y.toInt = -1 then none else some (x % y) := by
  simp only [Number.intArithmetic, ← Int32.toInt_inj]
  rfl

theorem longArithmetic_rem (x y : Int64) :
    Number.longArithmetic .rem x y =
      if y.toInt = 0 ∨ x.toInt = least true ∧ y.toInt = -1 then none else some (x % y) := by
  simp only [Number.longArithmetic, ← Int64.toInt_inj]
  rfl

theorem apply_long (op : Number.Operation) (ranked : op ≠ .div) {a b : Word}
    (long : a.isLong || b.isLong) :
    Number.apply op a.number b.number =
      (Number.longArithmetic op (.ofInt a.value) (.ofInt b.value)).map .long := by
  have rank : Number.resultRank op a.number b.number = .long := by
    rw [Number.resultRank, if_neg ranked]
    cases a <;> cases b <;> first | rfl | cases long
  rw [Number.apply, rank, toInt64_number, toInt64_number]

theorem apply_int (op : Number.Operation) (ranked : op ≠ .div) (x y : Int32) :
    Number.apply op (.int x) (.int y) = (Number.intArithmetic op x y).map .int := by
  have rank : Number.resultRank op (.int x) (.int y) = .int := by
    rw [Number.resultRank, if_neg ranked]
    rfl
  rw [Number.apply, rank]
  simp only [Number.toInt64, Int32.toInt32_toInt64]

theorem toInt_ofInt_value (w : Word) : (Int64.ofInt w.value).toInt = w.value := by
  cases w with
  | int n => rw [value, Int64.ofInt_int32ToInt, Int32.toInt_toInt64]
  | long n => exact congrArg Int64.toInt n.ofInt_toInt

theorem rem_number (a b : Word) :
    ∃ r : Word, r.isLong = (a.isLong || b.isLong) ∧ r.value = a.value.tmod b.value ∧
      Number.apply .rem a.number b.number =
        if b.value = 0 ∨ a.value = least (a.isLong || b.isLong) ∧ b.value = -1 then none
        else some r.number := by
  by_cases long : a.isLong || b.isLong
  · refine ⟨.long (.ofInt a.value % .ofInt b.value), long.symm, ?_, ?_⟩
    · rw [value, Int64.toInt_mod, toInt_ofInt_value, toInt_ofInt_value]
    · rw [apply_long .rem nofun long, longArithmetic_rem, toInt_ofInt_value,
        toInt_ofInt_value, long]
      split <;> rfl
  · cases a with
    | long => exact absurd rfl long
    | int x =>
      cases b with
      | long => exact absurd rfl long
      | int y =>
        refine ⟨.int (x % y), rfl, Int32.toInt_mod x y, ?_⟩
        rw [number, number, apply_int .rem nofun, intArithmetic_rem]
        simp only [value, isLong, Bool.or_self]
        split <;> rfl

end Word

theorem tmod_sign (m n : Int) : m.tmod n = 0 ∨ (m.tmod n < 0 ↔ m < 0) := by
  rcases Int.le_total 0 m with positive | negative
  · have sign := Int.tmod_nonneg n positive
    omega
  · have sign := Int.tmod_nonneg n (Int.neg_nonneg_of_nonpos negative)
    rw [Int.neg_tmod] at sign
    by_cases zero : m = 0
    · exact .inl (zero ▸ Int.zero_tmod n)
    · omega

/-- Words have a remainder but by zero, and but the least number of their width by minus one, which
fails as the former does. It is the one of the truncated quotient, in the wider of both widths. -/
theorem remainder_of_words (a b : Word) :
    let long := a.isLong || b.isLong
    (arithmetic .rem a.number b.number = .error .divisionByZero ↔
      b.value = 0 ∨ a.value = Word.least long ∧ b.value = -1) ∧
    (¬(b.value = 0 ∨ a.value = Word.least long ∧ b.value = -1) →
      ∃ r : Word, arithmetic .rem a.number b.number = .ok r.number ∧ r.isLong = long ∧
        (∃ q, a.value = q * b.value + r.value) ∧ r.value.natAbs < b.value.natAbs ∧
        (r.value = 0 ∨ (r.value < 0 ↔ a.value < 0))) := by
  intro long
  obtain ⟨r, width, value, result⟩ := Word.rem_number a b
  rw [arithmetic, result]
  constructor
  · by_cases fails : b.value = 0 ∨ a.value = Word.least long ∧ b.value = -1
    · exact iff_of_true (by rw [if_pos fails]) fails
    · exact iff_of_false (by rw [if_neg fails]; exact nofun) fails
  · intro works
    have divisor : b.value.natAbs ≠ 0 := fun zero => works (.inl (Int.natAbs_eq_zero.mp zero))
    refine ⟨r, by rw [if_neg works], width, ⟨a.value.tdiv b.value, ?_⟩, ?_, ?_⟩
    · rw [value, Int.tdiv_mul_add_tmod]
    · rw [value, Int.natAbs_tmod]
      exact Nat.mod_lt _ (Nat.pos_of_ne_zero divisor)
    · rw [value]
      exact tmod_sign a.value b.value

/-- The least number of 32 bits by minus one, of 32 bits and of 64. -/
theorem remainder_of_words_least :
    arithmetic .rem (.int Int32.minValue) (.int (-1)) = .error .divisionByZero ∧
    ∃ r : Word, arithmetic .rem (.int Int32.minValue) (.long (-1)) = .ok r.number ∧ r.isLong ∧
      r.value = 0 := by
  refine ⟨(remainder_of_words (.int Int32.minValue) (.int (-1))).1.mpr (by decide), ?_⟩
  obtain ⟨r, result, width, -, small, -⟩ :=
    (remainder_of_words (.int Int32.minValue) (.long (-1))).2 (by decide)
  exact ⟨r, result, width, Int.natAbs_eq_zero.mp (Nat.lt_one_iff.mp small)⟩

namespace Word

/-- The sum of two words in the wider of their widths. -/
def add (a b : Word) : Word := wrap (a.isLong || b.isLong) (a.value + b.value)

theorem add_number (a b : Word) : Number.apply .add a.number b.number = some (a.add b).number := by
  by_cases long : a.isLong || b.isLong
  · rw [apply_long .add nofun long, add, long, wrap, if_pos rfl, Int64.ofInt_add]
    rfl
  · cases a with
    | long => exact absurd rfl long
    | int x =>
      cases b with
      | long => exact absurd rfl long
      | int y =>
        rw [number, number, apply_int .add nofun]
        simp [add, wrap, isLong, value, number, Number.intArithmetic, Int32.ofInt_add]

theorem addAll_words (total : Word) (ws : List Word) :
    addAll total.number (ws.map toValue) = .ok (ws.foldl add total).number := by
  induction ws generalizing total with
  | nil => rfl
  | cons w ws ih =>
    have step : arithmetic .add total.number w.number = .ok (total.add w).number := by
      rw [arithmetic, add_number]
    rw [List.map_cons, List.foldl_cons, ← ih, toValue, addAll]
    simp only [numeric, bind, Except.bind, step]

theorem wrap_eq_iff (long : Bool) (m n : Int) :
    wrap long m = wrap long n ↔ ((2 ^ bits long : Nat) : Int) ∣ m - n := by
  rw [Int.dvd_iff_bmod_eq_zero, ← Int.bmod_eq_bmod_iff_bmod_sub_eq_zero, ← value_wrap,
    ← value_wrap]
  constructor
  · exact congrArg value
  · intro same
    have left := wrap_value (wrap long m)
    have right := wrap_value (wrap long n)
    rw [isLong_wrap, same] at left
    rw [isLong_wrap] at right
    exact left.symm.trans right

theorem add_wrap {long : Bool} {w : Word} (fits : w.isLong → long) (n : Int) :
    (wrap long n).add w = wrap long (n + w.value) := by
  have width : (long || w.isLong) = long := by
    cases wide : w.isLong with
    | false => exact Bool.or_false long
    | true => rw [fits wide, Bool.or_self]
  have cut : n.bmod (2 ^ bits long) + w.value - (n + w.value) = n.bmod (2 ^ bits long) - n := by
    omega
  rw [add, isLong_wrap, width, wrap_eq_iff, value_wrap, cut]
  exact Int.dvd_bmod_sub_self

def total : List Word → Int
  | [] => 0
  | w :: ws => w.value + total ws

theorem total_append (us ws : List Word) : total (us ++ ws) = total us + total ws := by
  induction us with
  | nil => rw [List.nil_append, total, Int.zero_add]
  | cons u us ih => rw [List.cons_append, total, total, ih, Int.add_assoc]

theorem foldl_add {long : Bool} {ws : List Word} (fits : ∀ w ∈ ws, w.isLong → long) (n : Int) :
    ws.foldl add (wrap long n) = wrap long (n + total ws) := by
  induction ws generalizing n with
  | nil => simp [total]
  | cons w ws ih =>
    have rest : ∀ w ∈ ws, w.isLong → long := fun w mem => fits w (List.mem_cons_of_mem _ mem)
    rw [List.foldl_cons, add_wrap (fits w List.mem_cons_self), ih rest, total, Int.add_assoc]

def leading (ws : List Word) : List Word := ws.takeWhile fun w => !w.isLong

/-- What the sum of the words before the first one of 64 bits loses to 32 bits. -/
def lost (ws : List Word) : Int :=
  total (leading ws) - (wrap false (total (leading ws))).value

theorem leading_narrow {ws : List Word} {w : Word} (mem : w ∈ leading ws) : w.isLong = false := by
  simpa using List.all_eq_true.mp List.all_takeWhile w mem

theorem foldl_words (ws : List Word) :
    ws.foldl add (wrap false 0) = wrap (ws.any isLong) (total ws - lost ws) := by
  have parts : leading ws ++ ws.dropWhile (fun w => !w.isLong) = ws :=
    List.takeWhile_append_dropWhile
  have begun : (leading ws).foldl add (wrap false 0) = wrap false (total (leading ws)) := by
    rw [foldl_add fun w mem wide => by rw [leading_narrow mem] at wide; exact wide, Int.zero_add]
  -- With no word of 64 bits the sum is cut to 32 at the end, too; else the first one widens it.
  have first := List.head?_dropWhile_not (fun w => !isLong w) ws
  cases behind : ws.dropWhile fun w => !w.isLong with
  | nil =>
    rw [behind, List.append_nil] at parts
    have narrow : ws.any isLong = false := by
      rw [← parts, List.any_eq_false]
      intro w mem
      simp [leading_narrow mem]
    have cut : total ws - (total ws - lost ws) = lost ws := by omega
    rw [parts] at begun
    rw [begun, narrow, wrap_eq_iff, cut, lost, value_wrap]
    exact Int.dvd_self_sub_bmod
  | cons l more =>
    rw [behind] at parts first
    have wide : l.isLong = true := by simpa using first
    have mem : l ∈ leading ws ++ l :: more := List.mem_append_right _ List.mem_cons_self
    rw [parts] at mem
    have any : ws.any isLong = true := List.any_eq_true.mpr ⟨l, mem, wide⟩
    have all : total ws = total (leading ws) + (l.value + total more) := by
      rw [← total, ← total_append, parts]
    have step : (wrap false (total (leading ws))).add l =
        wrap true ((wrap false (total (leading ws))).value + l.value) := by
      rw [add, isLong_wrap, wide]
      rfl
    calc ws.foldl add (wrap false 0)
        = (leading ws ++ l :: more).foldl add (wrap false 0) := by rw [parts]
      _ = wrap true ((wrap false (total (leading ws))).value + l.value + total more) := by
        rw [List.foldl_append, begun, List.foldl_cons, step, foldl_add fun _ _ _ => rfl]
      _ = wrap (ws.any isLong) (total ws - lost ws) := by
        rw [any, all, lost]
        congr 1
        omega

theorem sumValues_words {ws : List Word} (filled : ws ≠ []) :
    sumValues none (ws.map toValue) =
      .ok (wrap (ws.any isLong) (total ws - lost ws)).toValue := by
  cases ws with
  | nil => exact absurd rfl filled
  | cons w ws =>
    have start : (wrap false 0).add w = w := by
      have zero : (0 : Int).bmod (2 ^ bits false) = 0 := rfl
      rw [add, isLong_wrap, Bool.false_or, value_wrap, zero, Int.zero_add, wrap_value]
    have run := addAll_words w ws
    rw [← foldl_words, List.foldl_cons, start, List.map_cons, sumValues]
    simp only [toValue, numeric, bind, Except.bind] at run ⊢
    rw [run]

theorem lost_eq_zero (ws : List Word) :
    lost ws = 0 ↔ least false ≤ total (leading ws) ∧ total (leading ws) < -least false := by
  rw [lost, Int.sub_eq_zero, eq_comm, value_wrap_eq_iff]

theorem wrap_lost (long : Bool) (ws : List Word) :
    wrap long (total ws - lost ws) = wrap long (total ws) ↔
      long = false ∨ 2 ^ bits true ∣ lost ws := by
  have cut : total ws - lost ws - total ws = -lost ws := by omega
  rw [wrap_eq_iff, cut, Int.dvd_neg]
  cases long with
  | true => simp [bits]
  | false =>
    rw [lost, value_wrap]
    exact iff_of_true Int.dvd_self_sub_bmod (.inl rfl)

end Word

/-- A sum of words succeeds, with the widest representation that occurs. It is the sum of their
numbers cut to that width, less what the words before the first one of 64 bits lose to 32 bits when
they are added up; so it is the exact sum if these fit, and otherwise not, unless by a multiple of
`2 ^ 64`. A sum that fits the width is then not cut. -/
theorem sum_of_words (ws : List Word) (filled : ws ≠ []) :
    let long := ws.any Word.isLong
    Method.sum.invoke (.list (ws.map Word.toValue)) [] =
      .ok (Word.wrap long (Word.total ws - Word.lost ws)).toValue ∧
    (Word.wrap long (Word.total ws - Word.lost ws) = Word.wrap long (Word.total ws) ↔
      long = false ∨ 2 ^ Word.bits true ∣ Word.lost ws) ∧
    (Word.lost ws = 0 ↔
      Word.least false ≤ Word.total (Word.leading ws) ∧
        Word.total (Word.leading ws) < -Word.least false) ∧
    (long = false ∨ 2 ^ Word.bits true ∣ Word.lost ws →
      Word.least long ≤ Word.total ws → Word.total ws < -Word.least long →
      (Word.wrap long (Word.total ws - Word.lost ws)).value = Word.total ws) := by
  intro long
  refine ⟨Word.sumValues_words filled, Word.wrap_lost long ws, Word.lost_eq_zero ws, ?_⟩
  intro kept low high
  rw [(Word.wrap_lost long ws).mpr kept, Word.value_wrap_eq_iff]
  exact ⟨low, high⟩

/-- Two words of 32 bits that overflow them, before and behind one of 64 bits. -/
theorem sum_of_words_overflow :
    let narrow : List Word := [.int 2147483647, .int 1]
    let wide : Word := .long 3000000000
    Method.sum.invoke (.list ((narrow ++ [wide]).map Word.toValue)) [] =
      .ok (.number (.long 852516352)) ∧
    Word.lost (narrow ++ [wide]) = 4294967296 ∧
    Method.sum.invoke (.list ((wide :: narrow).map Word.toValue)) [] =
      .ok (.number (.long 5147483648)) ∧
    (Word.wrap true (Word.total (wide :: narrow) - Word.lost (wide :: narrow))).value =
      Word.total (wide :: narrow) := by
  intro narrow wide
  have before := (sum_of_words (narrow ++ [wide]) nofun).1
  obtain ⟨behind, -, -, whole⟩ := sum_of_words (wide :: narrow) nofun
  exact ⟨before, by decide, behind, whole (.inr (by decide)) (by decide) (by decide)⟩

end DocPath
