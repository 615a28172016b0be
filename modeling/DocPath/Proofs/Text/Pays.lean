import DocPath.Proofs.Text.Marks
import DocPath.Proofs.Text.Meter

/-!
Lower bounds for the marks and the meter of a text, composed from those of its parts. A part pays
for marks, for weight in its bracket, for the weight of groups that segments follow, and for the
group that it ends in.
-/

namespace DocPath

open Reader

variable {c d : List Char} {cost cost' size size' load load' hold hold' : Nat}

/-- A run from one state to another that pays at least so much. -/
structure Meter.Grows (m m' : Meter) (size load hold : Nat) : Prop where
  mode : m'.mode = .plain
  below : m'.below = m.below
  top : m.top + size ≤ m'.top
  total : m.total + load ≤ m'.total
  pending : hold ≤ m'.pending

/-- A part of a text that pays at least so much wherever it stands. -/
structure Pays (c : List Char) (cost size load hold : Nat) : Prop where
  marks (tail : Bool) : cost ≤ marks tail c
  grows (m : Meter) (h : m.mode = .plain) : m.Grows (m.run c) size load hold

/-- The content of a bracket, of which only the last item weighs. -/
structure Inside (c : List Char) (cost last load : Nat) : Prop where
  marks (tail : Bool) : cost ≤ marks tail c
  grows (m : Meter) (h : m.mode = .plain) : { m with top := 0 }.Grows (m.run c) last load 0

/-- A part that starts with a joint and so settles the group before it. -/
def Joins (c : List Char) (size load hold : Nat) : Prop :=
  ∀ m : Meter, m.mode = .plain → m.settle.Grows (m.run c) size load hold

namespace Meter

variable {m m' m'' : Meter}

theorem Grows.trans (h : m.Grows m' size load hold) (k : m'.Grows m'' size' load' hold') :
    m.Grows m'' (size + size') (load + load') hold' := by
  have top := h.top
  have top' := k.top
  have total := h.total
  have total' := k.total
  exact ⟨k.mode, k.below.trans h.below, by omega, by omega, k.pending⟩

theorem Grows.weaken (h : m.Grows m' size load hold) (a : size' ≤ size) (l : load' ≤ load)
    (k : hold' ≤ hold) : m.Grows m' size' load' hold' := by
  have top := h.top
  have total := h.total
  exact ⟨h.mode, h.below, by omega, by omega, Nat.le_trans k h.pending⟩

theorem Grows.join (h : m.Grows m' size load hold) (k : m'.settle.Grows m'' size' load' hold') :
    m.Grows m'' (size + size') (load + hold + load') hold' := by
  have top := h.top
  have top' : m'.top + size' ≤ m''.top := k.top
  have total := h.total
  have total' : m'.total + m'.pending + load' ≤ m''.total := k.total
  have group := h.pending
  exact ⟨k.mode, k.below.trans h.below, by omega, by omega, k.pending⟩

theorem step_free {c : Char} (free : isFree c) (h : m.mode = .plain) :
    m.Grows (m.step c) (sign c) 0 0 := by
  by_cases joint : c = '.' ∨ c = '*' ∨ c = '?'
  · have one : sign c = 1 := by rcases joint with rfl | rfl | rfl <;> decide
    rw [step_joint h joint, one]
    exact ⟨h, rfl, Nat.le_refl _, Nat.le_add_right _ _, Nat.zero_le _⟩
  · rw [step_apart h free joint]
    exact ⟨h, rfl, Nat.le_refl _, Nat.le_refl _, Nat.zero_le _⟩

theorem run_free {cs : List Char} (free : cs.all isFree) (h : m.mode = .plain) :
    m.Grows (m.run cs) (signs cs) 0 0 := by
  induction cs generalizing m with
  | nil => exact ⟨h, rfl, Nat.le_refl _, Nat.le_refl _, Nat.zero_le _⟩
  | cons c cs ih =>
    simp only [List.all_cons, Bool.and_eq_true] at free
    have first := step_free free.1 h
    have rest := first.trans (ih free.2 first.mode)
    rwa [run_cons, signs_cons]

end Meter

namespace Pays

theorem nil : Pays [] 0 0 0 0 :=
  ⟨fun _ => Nat.zero_le _,
    fun _ h => ⟨h, rfl, Nat.le_refl _, Nat.le_refl _, Nat.zero_le _⟩⟩

theorem weaken (h : Pays c cost size load hold) (k : cost' ≤ cost) (a : size' ≤ size)
    (l : load' ≤ load) (b : hold' ≤ hold) : Pays c cost' size' load' hold' :=
  ⟨fun tail => Nat.le_trans k (h.marks tail), fun m plain => (h.grows m plain).weaken a l b⟩

theorem append (h : Pays c cost size load hold) (k : Pays d cost' size' load' hold') :
    Pays (c ++ d) (cost + cost') (size + size') (load + load') hold' where
  marks tail := by
    rw [marks_append]
    exact Nat.add_le_add (h.marks tail) (k.marks _)
  grows m plain := by
    rw [Meter.run_append]
    exact (h.grows m plain).trans (k.grows _ (h.grows m plain).mode)

theorem join (h : Pays c cost size load hold) (k : Joins d size' load' hold')
    (count : ∀ tail, cost' ≤ DocPath.marks tail (c ++ d)) :
    Pays (c ++ d) cost' (size + size') (load + hold + load') hold' where
  marks := count
  grows m plain := by
    rw [Meter.run_append]
    exact (h.grows m plain).join (k _ (h.grows m plain).mode)

theorem free {cs : List Char} (free : cs.all isFree) :
    Pays cs (DocPath.marks true cs) (signs cs) 0 0 :=
  ⟨fun tail => marks_true_le tail cs, fun _ plain => Meter.run_free free plain⟩

theorem of_free {cs : List Char} (free : cs.all isFree) (k : cost ≤ DocPath.marks true cs)
    (a : size ≤ signs cs) : Pays cs cost size 0 0 :=
  (Pays.free free).weaken k a (Nat.le_refl _) (Nat.le_refl _)

theorem blank {cs : List Char} (blank : cs.all isBlank) : Pays cs 0 0 0 0 := by
  refine of_free ?_ (Nat.zero_le _) (Nat.zero_le _)
  rw [List.all_eq_true] at blank ⊢
  intro c mem
  have one := blank c mem
  simp only [isBlank, Bool.or_eq_true, decide_eq_true_eq] at one
  rcases one with ((rfl | rfl) | rfl) | rfl <;> decide

theorem joins {cs : List Char} {c : Char} (joint : c = '.' ∨ c = '*' ∨ c = '?')
    (h : Pays cs cost size load hold) : Joins (c :: cs) (size + 1) load hold := by
  intro m plain
  have rest := h.grows (m.settle.weigh 1) plain
  rw [Meter.run_cons, Meter.step_joint plain joint]
  have top : m.top + 1 + size ≤ ((m.settle.weigh 1).run cs).top := rest.top
  exact ⟨rest.mode, rest.below, by show m.top + (size + 1) ≤ _; omega, rest.total, rest.pending⟩

theorem inside (h : Pays c cost size load hold) : Inside c cost size load := by
  refine ⟨h.marks, fun m plain => ?_⟩
  have run := h.grows m plain
  have top := run.top
  exact ⟨run.mode, run.below, by show 0 + size ≤ _; omega, run.total, Nat.zero_le _⟩

end Pays

theorem Joins.append (h : Joins c size load hold) (k : Joins d size' load' hold') :
    Joins (c ++ d) (size + size') (load + hold + load') hold' := by
  intro m plain
  rw [Meter.run_append]
  exact (h m plain).join (k _ (h m plain).mode)

theorem Joins.weaken (h : Joins c size load hold) (a : size' ≤ size) (l : load' ≤ load)
    (k : hold' ≤ hold) : Joins c size' load' hold' :=
  fun m plain => (h m plain).weaken a l k

namespace Inside

theorem append (h : Inside c cost size load) (k : Pays d cost' size' load' hold) :
    Inside (c ++ d) (cost + cost') (size + size') (load + load') where
  marks tail := by
    rw [marks_append]
    exact Nat.add_le_add (h.marks tail) (k.marks _)
  grows m plain := by
    rw [Meter.run_append]
    have first := h.grows m plain
    exact (first.trans (k.grows _ first.mode)).weaken (Nat.le_refl _) (Nat.le_refl _)
      (Nat.zero_le _)

theorem comma (h : Inside c cost size load) (k : Pays d cost' size' load' hold) :
    Inside (c ++ ',' :: d) (cost + cost') size' (load + load') where
  marks tail := by
    have first := h.marks tail
    have second := k.marks (isTail ',')
    rw [marks_append, DocPath.marks]
    omega
  grows m plain := by
    have first := h.grows m plain
    rw [Meter.run_append, Meter.run_cons, Meter.step_comma first.mode]
    have second := k.grows { (m.run c).forget with top := 0 } first.mode
    have total : m.total + load ≤ (m.run c).total := first.total
    refine ⟨second.mode, second.below.trans first.below, second.top, ?_, Nat.zero_le _⟩
    rw [← Nat.add_assoc]
    exact Nat.le_trans (Nat.add_le_add_right total _) second.total

theorem enter (h : Inside c cost size load) (m : Meter) (plain : m.mode = .plain) :
    (m.enter.run c).mode = .plain ∧ (m.enter.run c).below = m.top :: m.below ∧
      size ≤ (m.enter.run c).top ∧ m.total + load ≤ (m.enter.run c).total := by
  have run := h.grows m.enter plain
  have top : 0 + size ≤ (m.enter.run c).top := run.top
  exact ⟨run.mode, run.below, by omega, run.total⟩

theorem marks_bracket (h : Inside c cost size load) (open_ close : Char) (tail : Bool) :
    cost ≤ DocPath.marks tail (open_ :: (c ++ [close])) := by
  have inner := h.marks (isTail open_)
  rw [DocPath.marks, marks_append]
  omega

theorem group (h : Inside c cost size load) : Pays ('(' :: (c ++ [')'])) cost size load size := by
  refine ⟨h.marks_bracket _ _, fun m plain => ?_⟩
  obtain ⟨mode, below, top, total⟩ := h.enter m plain
  rw [Meter.run_group plain mode]
  simp only [Meter.close, below]
  exact ⟨mode, rfl, Nat.add_le_add_left top _, total, top⟩

theorem square (h : Inside c cost size load) : Pays ('[' :: (c ++ [']'])) cost 1 load 0 := by
  refine ⟨h.marks_bracket _ _, fun m plain => ?_⟩
  obtain ⟨mode, below, -, total⟩ := h.enter (m.settle.weigh 1) plain
  rw [Meter.run_square plain mode]
  simp only [Meter.leave, below]
  refine ⟨mode, rfl, Nat.le_refl _, ?_, Nat.zero_le _⟩
  exact Nat.le_trans (Nat.add_le_add_right (Nat.le_add_right _ _) _) total

theorem square_joins (h : Inside c cost size load) : Joins ('[' :: (c ++ [']'])) 1 load 0 := by
  intro m plain
  obtain ⟨mode, below, -, total⟩ := h.enter (m.settle.weigh 1) plain
  rw [Meter.run_square plain mode]
  simp only [Meter.leave, below]
  exact ⟨mode, rfl, Nat.le_refl _, total, Nat.zero_le _⟩

theorem brace (h : Inside c cost size load) : Pays ('{' :: (c ++ ['}'])) cost 0 load 0 := by
  refine ⟨h.marks_bracket _ _, fun m plain => ?_⟩
  obtain ⟨mode, below, -, total⟩ := h.enter m plain
  rw [Meter.run_brace plain mode]
  simp only [Meter.leave, below]
  exact ⟨mode, rfl, Nat.le_refl _, total, Nat.zero_le _⟩

end Inside

end DocPath
