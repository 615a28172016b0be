import DocPath.Proofs.Text.Pays

/-!
Upper bounds for the meter of a text, composed from those of its parts. The gap of a part is how
far its groups are certain to stay below its load.
-/

namespace DocPath

open Reader

variable {c d : List Char} {size size' load load' gap gap' hold hold' : Nat}

structure Meter.Stays (m m' : Meter) (size load gap hold : Nat) : Prop where
  mode : m'.mode = .plain
  below : m'.below = m.below
  top : m'.top ≤ m.top + size
  total : m'.total + gap ≤ m.total + load
  pending : m'.pending ≤ hold

/-- A part of a text that adds at most so much where no group was just closed. -/
def Spends (c : List Char) (size load gap hold : Nat) : Prop :=
  ∀ m : Meter, m.mode = .plain → m.pending = 0 → m.Stays (m.run c) size load gap hold

/-- The content of a bracket that adds at most so much. -/
def Fills (c : List Char) (last load gap : Nat) : Prop :=
  ∀ m : Meter, m.mode = .plain → m.pending = 0 → m.top = 0 →
    ∃ hold, m.Stays (m.run c) last load gap hold

/-- A part that starts with a joint and adds at most so much to a settled state. -/
def Follows (c : List Char) (size load gap hold : Nat) : Prop :=
  ∀ m : Meter, m.mode = .plain → m.settle.Stays (m.run c) size load gap hold

namespace Meter

variable {m m' m'' : Meter}

theorem Stays.trans (h : m.Stays m' size load gap hold) (k : m'.Stays m'' size' load' gap' hold') :
    m.Stays m'' (size + size') (load + load') (gap + gap') hold' := by
  have top := h.top
  have top' := k.top
  have total := h.total
  have total' := k.total
  exact ⟨k.mode, k.below.trans h.below, by omega, by omega, k.pending⟩

theorem Stays.weaken (h : m.Stays m' size load gap hold) (a : size ≤ size')
    (l : load + gap' ≤ load' + gap) (k : hold ≤ hold') : m.Stays m' size' load' gap' hold' := by
  have top := h.top
  have total := h.total
  exact ⟨h.mode, h.below, by omega, by omega, Nat.le_trans h.pending k⟩

theorem Stays.join (h : m.Stays m' size load gap hold)
    (k : m'.settle.Stays m'' size' load' gap' hold') :
    m.Stays m'' (size + size') (load + hold + load') (gap + gap') hold' := by
  have top := h.top
  have top' : m''.top ≤ m'.top + size' := k.top
  have total := h.total
  have total' : m''.total + gap' ≤ m'.total + m'.pending + load' := k.total
  have group := h.pending
  exact ⟨k.mode, k.below.trans h.below, by omega, by omega, k.pending⟩

theorem stays_apart {x : Char} (plain : m.mode = .plain) (free : isFree x)
    (apart : ¬ (x = '.' ∨ x = '*' ∨ x = '?')) : m.Stays (m.step x) (sign x) 0 0 0 := by
  rw [step_apart plain free apart]
  exact ⟨plain, rfl, Nat.le_refl _, Nat.le_refl _, Nat.le_refl _⟩

theorem stays_free {x : Char} (plain : m.mode = .plain) (none : m.pending = 0)
    (free : isFree x) : m.Stays (m.step x) (sign x) 0 0 0 := by
  by_cases joint : x = '.' ∨ x = '*' ∨ x = '?'
  · have one : sign x = 1 := by rcases joint with rfl | rfl | rfl <;> decide
    have settled : m.total + m.pending + 0 ≤ m.total + 0 := by omega
    rw [step_joint plain joint, one]
    exact ⟨plain, rfl, Nat.le_refl _, settled, Nat.le_refl _⟩
  · exact stays_apart plain free joint

end Meter

namespace Spends

theorem nil : Spends [] 0 0 0 0 :=
  fun _ plain none => ⟨plain, rfl, Nat.le_refl _, Nat.le_refl _, Nat.le_of_eq none⟩

theorem weaken (h : Spends c size load gap hold) (a : size ≤ size')
    (l : load + gap' ≤ load' + gap) (k : hold ≤ hold') : Spends c size' load' gap' hold' :=
  fun m plain none => (h m plain none).weaken a l k

theorem append (h : Spends c size load gap 0) (k : Spends d size' load' gap' hold') :
    Spends (c ++ d) (size + size') (load + load') (gap + gap') hold' := by
  intro m plain none
  have first := h m plain none
  rw [Meter.run_append]
  exact first.trans (k _ first.mode (Nat.le_zero.mp first.pending))

theorem apart (h : Spends c size load gap hold) {x : Char} (free : isFree x)
    (other : ¬ (x = '.' ∨ x = '*' ∨ x = '?')) (k : Spends d size' load' gap' hold') :
    Spends (c ++ x :: d) (size + sign x + size') (load + load') (gap + gap') hold' := by
  intro m plain none
  have first := h m plain none
  have second := Meter.stays_apart first.mode free other
  rw [Meter.run_append, Meter.run_cons]
  exact (first.trans second).trans (k _ second.mode (Nat.le_zero.mp second.pending))

theorem join (h : Spends c size load gap hold) (k : Follows d size' load' gap' hold') :
    Spends (c ++ d) (size + size') (load + hold + load') (gap + gap') hold' := by
  intro m plain none
  have first := h m plain none
  rw [Meter.run_append]
  exact first.join (k _ first.mode)

theorem free {cs : List Char} (free : cs.all isFree) : Spends cs (signs cs) 0 0 0 := by
  induction cs with
  | nil => exact nil
  | cons c cs ih =>
    intro m plain none
    simp only [List.all_cons, Bool.and_eq_true] at free
    have first := Meter.stays_free plain none free.1
    rw [Meter.run_cons, signs_cons]
    exact first.trans (ih free.2 _ first.mode (Nat.le_zero.mp first.pending))

theorem fills (h : Spends c size load gap hold) : Fills c size load gap :=
  fun m plain none _ => ⟨hold, h m plain none⟩

theorem follows {x : Char} (joint : x = '.' ∨ x = '*' ∨ x = '?' ∨ x = '[')
    (h : Spends (x :: c) size load gap hold) : Follows (x :: c) size load gap hold := by
  intro m plain
  have settled : m.settle.run (x :: c) = m.run (x :: c) := by
    rw [Meter.run_cons, Meter.run_cons]
    rcases joint with rfl | rfl | rfl | rfl <;>
      simp [Meter.step, plain, Meter.settle]
  rw [← settled]
  exact h m.settle plain rfl

theorem quoted {q : Quote} {cs : List Char} (plain : ∀ x ∈ cs, x ≠ q.char ∧ x ≠ '\\') :
    Spends (q.char :: (cs ++ [q.char])) (signs cs) 0 0 0 := by
  have inside (n : Meter) (h : n.mode = .quoted q) :
      n.run (cs ++ [q.char]) = { n.weigh (signs cs) with mode := .plain } := by
    induction cs generalizing n with
    | nil =>
      rw [List.nil_append, Meter.run_cons, Meter.step_close h]
      rfl
    | cons x xs ih =>
      have other := plain x (by simp)
      rw [List.cons_append, Meter.run_cons, Meter.step_quoted h other.1 other.2,
        ih (fun y mem => plain y (by simp [mem])) (n.weigh (sign x)) h, signs_cons]
      simp only [Meter.weigh, Nat.add_assoc]
  intro m mode none
  rw [Meter.run_cons, Meter.step_open mode, inside _ rfl]
  exact ⟨rfl, rfl, Nat.le_refl _, Nat.le_refl _, Nat.le_refl _⟩

end Spends

namespace Follows

theorem append (h : Follows c size load gap hold) (k : Follows d size' load' gap' hold') :
    Follows (c ++ d) (size + size') (load + hold + load') (gap + gap') hold' := by
  intro m plain
  rw [Meter.run_append]
  exact (h m plain).join (k _ (h m plain).mode)

theorem weaken (h : Follows c size load gap hold) (a : size ≤ size')
    (l : load + gap' ≤ load' + gap) (k : hold ≤ hold') : Follows c size' load' gap' hold' :=
  fun m plain => (h m plain).weaken a l k

end Follows

namespace Fills

theorem comma (h : Fills c size load gap) (k : Fills d size' load' gap') :
    Fills (c ++ ',' :: d) size' (load + load') (gap + gap') := by
  intro m plain none empty
  obtain ⟨hold, first⟩ := h m plain none empty
  rw [Meter.run_append, Meter.run_cons, Meter.step_comma first.mode]
  obtain ⟨hold', second⟩ := k { (m.run c).forget with top := 0 } first.mode rfl rfl
  have total : (m.run c).total + gap ≤ m.total + load := first.total
  have total' : _ + gap' ≤ (m.run c).total + load' := second.total
  have top : _ ≤ 0 + size' := second.top
  exact ⟨hold', second.mode, second.below.trans first.below, by rw [empty]; exact top,
    by omega, second.pending⟩

theorem apart (h : Fills c size load gap) {x : Char} (free : isFree x)
    (other : ¬ (x = '.' ∨ x = '*' ∨ x = '?')) (k : Spends d size' load' gap' hold') :
    Fills (c ++ x :: d) (size + sign x + size') (load + load') (gap + gap') := by
  intro m plain none empty
  obtain ⟨hold, first⟩ := h m plain none empty
  have second := Meter.stays_apart first.mode free other
  rw [Meter.run_append, Meter.run_cons]
  exact ⟨hold', (first.trans second).trans (k _ second.mode (Nat.le_zero.mp second.pending))⟩

theorem weaken (h : Fills c size load gap) (a : size ≤ size') (l : load + gap' ≤ load' + gap) :
    Fills c size' load' gap' := by
  intro m plain none empty
  obtain ⟨hold, first⟩ := h m plain none empty
  exact ⟨hold, first.weaken a l (Nat.le_refl _)⟩

theorem blank (h : Fills c size load gap) : Fills (' ' :: c) size load gap := by
  intro m plain none empty
  have step : m.step ' ' = m := by
    obtain ⟨mode, top, below, pending, total⟩ := m
    simp only at plain none
    subst plain none
    rfl
  rw [Meter.run_cons, step]
  exact h m plain none empty

variable (h : Fills c size load gap)
include h

theorem enter (m : Meter) (plain : m.mode = .plain) :
    (m.enter.run c).mode = .plain ∧ (m.enter.run c).below = m.top :: m.below ∧
      (m.enter.run c).top ≤ size ∧ (m.enter.run c).total + gap ≤ m.total + load := by
  obtain ⟨hold, run⟩ := h m.enter plain rfl rfl
  have top : (m.enter.run c).top ≤ 0 + size := run.top
  exact ⟨run.mode, run.below, by omega, run.total⟩

theorem group : Spends ('(' :: (c ++ [')'])) size load gap size := by
  intro m plain none
  obtain ⟨mode, below, top, total⟩ := h.enter m plain
  rw [Meter.run_group plain mode]
  simp only [Meter.close, below]
  exact ⟨mode, rfl, Nat.add_le_add_left top _, total, top⟩

theorem square : Spends ('[' :: (c ++ [']'])) 1 load gap 0 := by
  intro m plain none
  obtain ⟨mode, below, -, total⟩ := h.enter (m.settle.weigh 1) plain
  have settled : (m.settle.weigh 1).total = m.total := by
    simp only [Meter.settle, Meter.weigh, none, Nat.add_zero]
  rw [settled] at total
  rw [Meter.run_square plain mode]
  simp only [Meter.leave, below]
  exact ⟨mode, rfl, Nat.le_refl _, total, Nat.le_refl _⟩

theorem brace : Spends ('{' :: (c ++ ['}'])) 0 load gap 0 := by
  intro m plain none
  obtain ⟨mode, below, -, total⟩ := h.enter m plain
  rw [Meter.run_brace plain mode]
  simp only [Meter.leave, below]
  exact ⟨mode, rfl, Nat.le_refl _, total, Nat.le_refl _⟩

end Fills

end DocPath
