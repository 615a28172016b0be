import DocPath.Path.Grammar
import DocPath.Proofs.Reader.Literals

/-!
A text pays for the expression that is read from it: lists of items with commas between them,
given that of the items.
-/

namespace DocPath

/-- A text that pays for an expression of a form that the grammar can denote. -/
structure PaysFor (argument : Bool) (c : List Char) (e : Expr) : Prop where
  formed : e.wellFormed argument
  pays : Pays c e.cost e.size e.load 0

structure PaysForItems (argument : Bool) (c : List Char) (es : List Expr) : Prop where
  formed : wellFormedItems argument es
  pays : Inside c (itemsCost es) (lastSize es) (itemsLoad es)

theorem PaysFor.argument {c : List Char} {e : Expr} (h : PaysFor false c e) : PaysFor true c e := by
  refine ⟨?_, h.pays⟩
  have formed := h.formed
  cases e <;> first | exact formed | rfl | cases formed

section
variable {c d b b' : List Char} {cost size load hold : Nat}

theorem Pays.after (h : Pays b 0 0 0 0) (k : Pays c cost size load hold) :
    Pays (b ++ c) cost size load hold := by
  simpa only [Nat.zero_add] using h.append k

theorem Pays.before (h : Pays c cost size load hold) (k : Pays b 0 0 0 0) :
    Pays (c ++ b) cost size load 0 := h.append k

theorem Pays.padded (h : Pays c cost size load hold) (front : b.all isBlank)
    (back : b'.all isBlank) : Pays (b ++ (c ++ b')) cost size load 0 :=
  (Pays.blank front).after (h.before (.blank back))

theorem Inside.after (h : Pays b 0 0 0 0) (k : Inside c cost size load) :
    Inside (b ++ c) cost size load := by
  refine ⟨fun tail => ?_, fun m plain => ?_⟩
  · have inner := k.marks (tailOf tail b)
    rw [marks_append]
    omega
  · have first := h.grows m plain
    have second := k.grows (m.run b) first.mode
    have total : m.total + 0 ≤ (m.run b).total := first.total
    have total' : (m.run b).total + load ≤ ((m.run b).run c).total := second.total
    rw [Meter.run_append]
    exact ⟨second.mode, second.below.trans first.below, second.top,
      by show m.total + load ≤ _; omega, Nat.zero_le _⟩

theorem Inside.weaken {cost' size' load' : Nat} (h : Inside c cost size load) (k : cost' ≤ cost)
    (a : size' ≤ size) (l : load' ≤ load) : Inside c cost' size' load' :=
  ⟨fun tail => Nat.le_trans k (h.marks tail),
    fun m plain => (h.grows m plain).weaken a l (Nat.le_refl _)⟩

theorem Inside.padded (h : Inside c cost size load) (front : b.all isBlank)
    (back : b'.all isBlank) : Inside (b ++ (c ++ b')) cost size load :=
  .after (.blank front) (h.append (.blank back))

end

namespace Reader

variable {item expr : Reader Expr} {argument : Bool}

theorem padded_takes {α : Type} {p : Reader α} {P : List Char → α → Prop} (h : Takes p P) :
    Takes (padded p) fun c a =>
      ∃ b c' b', c = b ++ (c' ++ b') ∧ b.all isBlank ∧ b'.all isBlank ∧ P c' a := by
  refine (Takes.blanks.bind fun _ => h.bind fun a => Takes.blanks.bind fun _ =>
    Takes.pure a).mono ?_
  rintro c a ⟨b, c₂, u, rfl, front, c', c₄, x, rfl, holds, b', c₆, v, rfl, back, rfl, rfl⟩
  exact ⟨b, c', b', by rw [List.append_nil], front, back, holds⟩

section
variable {α : Type} {p : Reader α} {formed : α → Bool} {cost size load : α → Nat}

/-- What the last of some items weighs, or else what comes before them. -/
def lastOr (before : Nat) (as : List α) (size : α → Nat) : Nat :=
  (as.getLast?.map size).getD before

theorem lastOr_cons (before : Nat) (a : α) (as : List α) (size : α → Nat) :
    lastOr before (a :: as) size = lastOr (size a) as size := by
  cases as with
  | nil => rfl
  | cons b bs => simp only [lastOr, List.getLast?_cons, Option.map_some, Option.getD_some]

theorem moreItems_takes
    (h : Takes p fun c a => formed a ∧ Pays c (cost a) (size a) (load a) 0) (n : Nat) :
    Takes (manyAfter (padded (char ',')) p n) fun d as =>
      as.all formed ∧ ∀ {c : List Char} {paid last loaded : Nat}, Inside c paid last loaded →
        Inside (c ++ d) (paid + (as.map cost).sum) (lastOr last as size)
          (loaded + (as.map load).sum) := by
  have one := (padded_takes (Takes.char ',')).bind fun _ => h
  refine one.many ?none ?more n
  · refine ⟨rfl, fun before => ?_⟩
    rw [List.append_nil]
    exact before
  · rintro d a ds as ⟨c₁, c₂, x, rfl, ⟨b, c', b', rfl, front, back, rfl, -⟩, ok, pays⟩ ⟨all, more⟩
    refine ⟨by rw [List.all_cons, ok, all]; rfl, fun {c paid last loaded} before => ?_⟩
    have next := more ((before.append (.blank front)).comma ((Pays.blank back).after pays))
    have text : c ++ (b ++ ([','] ++ b') ++ c₂ ++ ds) = c ++ b ++ ',' :: (b' ++ c₂) ++ ds := by
      simp only [List.append_assoc, List.cons_append, List.nil_append]
    rw [text, lastOr_cons, List.map_cons, List.map_cons, List.sum_cons, List.sum_cons,
      ← Nat.add_assoc, ← Nat.add_assoc]
    exact next

theorem separated_takes
    (h : Takes p fun c a => formed a ∧ Pays c (cost a) (size a) (load a) 0) (n : Nat) :
    Takes (separated (padded (char ',')) p n) fun c as =>
      as.all formed ∧
        Inside c (as.map cost).sum (lastOr 0 as size) (as.map load).sum := by
  refine h.separated ⟨rfl, Pays.nil.inside⟩ ((moreItems_takes h n).mono ?_)
  rintro d as ⟨all, more⟩ c a ⟨ok, pays⟩
  refine ⟨by rw [List.all_cons, ok, all]; rfl, ?_⟩
  rw [List.map_cons, List.map_cons, List.sum_cons, List.sum_cons, lastOr_cons]
  exact more pays.inside

end

theorem wellFormedItems_eq (es : List Expr) :
    wellFormedItems argument es = es.all (·.wellFormed argument) := by
  induction es with
  | nil => rfl
  | cons e es ih => rw [wellFormedItems, ih, List.all_cons]

theorem itemsCost_eq (es : List Expr) : itemsCost es = (es.map Expr.cost).sum := by
  induction es with
  | nil => rfl
  | cons e es ih => rw [itemsCost, ih, List.map_cons, List.sum_cons]

theorem itemsLoad_eq (es : List Expr) : itemsLoad es = (es.map Expr.load).sum := by
  induction es with
  | nil => rfl
  | cons e es ih => rw [itemsLoad, ih, List.map_cons, List.sum_cons]

theorem lastSize_eq (es : List Expr) : lastSize es = lastOr 0 es Expr.size := by
  match es with
  | [] => rfl
  | [e] => rfl
  | e :: d :: es =>
    rw [lastSize, lastSize_eq (d :: es), lastOr, lastOr, List.getLast?_cons_cons]
    simp

theorem itemList_takes (h : Takes item (PaysFor argument)) (close : Char) (n : Nat) :
    Takes (itemList close item n) fun c es =>
      ∃ c', c = c' ++ [close] ∧ PaysForItems argument c' es := by
  have items := separated_takes (h.mono fun c e paid => ⟨paid.formed, paid.pays⟩) n
  refine ((padded_takes items).bind fun es => (Takes.char close).bind fun _ =>
    Takes.pure es).commit.mono ?_
  rintro c es ⟨c₁, c₂, as, rfl, ⟨b, c', b', rfl, front, back, all, pays⟩, c₃, c₄, x, rfl, ⟨rfl, -⟩,
    rfl, rfl⟩
  refine ⟨b ++ (c' ++ b'), rfl, by rw [wellFormedItems_eq, all], ?_⟩
  rw [itemsCost_eq, itemsLoad_eq, lastSize_eq]
  exact pays.padded front back

end Reader

end DocPath
