import Mathlib.Algebra.GroupWithZero.Nat
import Mathlib.Algebra.Order.Group.Nat
import Mathlib.Data.List.Flatten
import Mathlib.Data.List.Perm.Basic
import DocPath.Element

/-!
Traversals of element trees. A loop takes elements off the front of those that are pending, and the
child elements of each join the others, before them or behind them. Either way the loop ends, after
one visit to each element of the tree: before the others it goes in document order, behind them
level by level.
-/

namespace DocPath

mutual
/-- An element, and then all below it: the elements of a tree in document order. -/
def Element.preorder : Element → List Element
  | .mk name space attributes cs => .mk name space attributes cs :: preorderOf cs
def Child.preorder : Child → List Element
  | .text _ => []
  | .element e => e.preorder
def preorderOf : List Child → List Element
  | [] => []
  | c :: cs => c.preorder ++ preorderOf cs
end

mutual
def Element.height : Element → Nat
  | .mk _ _ _ cs => heightOf cs + 1
def Child.height : Child → Nat
  | .text _ => 0
  | .element e => e.height
def heightOf : List Child → Nat
  | [] => 0
  | c :: cs => max c.height (heightOf cs)
end

theorem preorderOf_eq (cs : List Child) :
    preorderOf cs = (childElements cs).flatMap Element.preorder := by
  induction cs with
  | nil => simp only [preorderOf, childElements, List.flatMap_nil]
  | cons c cs ih =>
    cases c with
    | text s => rw [preorderOf, Child.preorder, ih, childElements, List.nil_append]
    | element e => rw [preorderOf, Child.preorder, ih, childElements, List.flatMap_cons]

theorem sizeOfChildren_eq (cs : List Child) :
    sizeOfChildren cs = ((childElements cs).map Element.size).sum := by
  induction cs with
  | nil => simp only [sizeOfChildren, childElements, List.map_nil, List.sum_nil]
  | cons c cs ih =>
    cases c with
    | text s => rw [sizeOfChildren, Child.count, ih, childElements, Nat.zero_add]
    | element e => rw [sizeOfChildren, Child.count, ih, childElements, List.map_cons, List.sum_cons]

theorem heightOf_le_iff {cs : List Child} {n : Nat} :
    heightOf cs ≤ n ↔ ∀ e ∈ childElements cs, e.height ≤ n := by
  induction cs with
  | nil => simp [heightOf, childElements]
  | cons c cs ih =>
    cases c with
    | text s => simp [heightOf, Child.height, childElements, ih]
    | element e => simp [heightOf, Child.height, childElements, ← ih]

namespace Element

theorem preorder_eq (e : Element) : e.preorder = e :: e.elements.flatMap preorder := by
  cases e
  rw [preorder, preorderOf_eq]
  rfl

theorem size_eq (e : Element) : e.size = (e.elements.map size).sum + 1 := by
  cases e
  rw [size, sizeOfChildren_eq]
  rfl

theorem height_le_iff {e : Element} {n : Nat} :
    e.height ≤ n + 1 ↔ ∀ c ∈ e.elements, c.height ≤ n := by
  cases e
  rw [height, Nat.add_le_add_iff_right]
  exact heightOf_le_iff

theorem height_pos (e : Element) : 0 < e.height := by
  cases e
  rw [height]
  exact Nat.succ_pos _

theorem sizeOf_lt_of_mem {c e : Element} (mem : c ∈ e.elements) : sizeOf c < sizeOf e := by
  have among : ∀ cs : List Child, c ∈ childElements cs → sizeOf c < sizeOf cs := by
    intro cs child
    induction cs with
    | nil => exact absurd child List.not_mem_nil
    | cons d cs ih =>
      rw [List.cons.sizeOf_spec]
      cases d with
      | text s => exact Nat.lt_add_left _ (ih child)
      | element d =>
        rw [Child.element.sizeOf_spec]
        rcases List.mem_cons.mp child with rfl | later
        · omega
        · exact Nat.lt_add_left _ (ih later)
  obtain ⟨name, space, attributes, cs⟩ := e
  have child : sizeOf c < sizeOf cs := among cs mem
  rw [mk.sizeOf_spec]
  omega

@[elab_as_elim]
theorem elementsInduction {P : Element → Prop} (step : ∀ e, (∀ c ∈ e.elements, P c) → P e)
    (e : Element) : P e :=
  (measure sizeOf).wf.induction e fun e below => step e fun c mem => below c (sizeOf_lt_of_mem mem)

theorem length_preorder (e : Element) : e.preorder.length = e.size := by
  induction e using elementsInduction with
  | step e below =>
    rw [preorder_eq, size_eq, List.length_cons, List.length_flatMap, List.map_congr_left below]

/-- The elements a number of steps below an element, in document order. -/
def level (e : Element) : Nat → List Element
  | 0 => [e]
  | n + 1 => e.elements.flatMap fun c => c.level n

def levels (e : Element) : List (List Element) := (List.range e.height).map e.level

theorem level_ne_nil_iff {e : Element} {n : Nat} : e.level n ≠ [] ↔ n < e.height := by
  induction n generalizing e with
  | zero => exact iff_of_true (List.cons_ne_nil e []) e.height_pos
  | succ n ih =>
    rw [level, Ne, List.flatMap_eq_nil_iff, ← not_le, height_le_iff, not_iff_not]
    refine forall₂_congr fun c _ => ?_
    rw [← not_iff_not, not_le]
    exact ih

theorem level_sublist (e : Element) (n : Nat) : (e.level n).Sublist e.preorder := by
  induction n generalizing e with
  | zero =>
    rw [preorder_eq]
    exact List.singleton_sublist.mpr List.mem_cons_self
  | succ n ih =>
    rw [preorder_eq]
    exact List.Sublist.cons e (List.Sublist.flatMap_right e.elements fun c _ => ih c)

end Element

/-- What a loop visits that takes pending elements off the front until none is left; the child
elements of each join the others. -/
inductive Visits (join : List Element → List Element → List Element) :
    List Element → List Element → Prop
  | done : Visits join [] []
  | step {e : Element} {rest out : List Element} (next : Visits join (join e.elements rest) out) :
      Visits join (e :: rest) (e :: out)

def onTop (new rest : List Element) : List Element := new ++ rest

def behind (new rest : List Element) : List Element := rest ++ new

namespace Visits

variable {join : List Element → List Element → List Element} {es out next : List Element}

theorem unique (run : Visits join es out) {other : List Element} (again : Visits join es other) :
    out = other := by
  induction run generalizing other with
  | done =>
    cases again
    rfl
  | @step e _ _ _ ih =>
    cases again with
    | step next => exact congrArg (e :: ·) (ih next)

theorem perm (joins : ∀ new rest, (join new rest).Perm (new ++ rest)) (run : Visits join es out) :
    out.Perm (es.flatMap Element.preorder) := by
  induction run with
  | done => exact List.Perm.refl _
  | @step e rest out _ ih =>
    rw [List.flatMap_cons, Element.preorder_eq, List.cons_append, ← List.flatMap_append]
    exact (ih.trans ((joins _ _).flatMap_right _)).cons e

theorem eq_of_fuel {loop : Nat → List Element → List Element} (ends : ∀ n, loop n [] = [])
    (steps : ∀ n e rest, loop (n + 1) (e :: rest) = e :: loop n (join e.elements rest))
    (run : Visits join es out) {n : Nat} (fuel : out.length ≤ n) : loop n es = out := by
  induction run generalizing n with
  | done => exact ends n
  | @step e rest out _ ih =>
    obtain ⟨n, rfl⟩ := Nat.exists_eq_add_one_of_ne_zero (Nat.ne_zero_of_lt fuel)
    rw [steps, ih (Nat.le_of_succ_le_succ fuel)]

/-- An element of which the whole tree is visited before what is pending behind it. -/
def IsNext (e : Element) : Prop :=
  ∀ es out, Visits onTop es out → Visits onTop (e :: es) (e.preorder ++ out)

theorem forest {cs : List Element} (each : ∀ c ∈ cs, IsNext c) (run : Visits onTop es out) :
    Visits onTop (cs ++ es) (cs.flatMap Element.preorder ++ out) := by
  induction cs with
  | nil => exact run
  | cons c cs ih =>
    rw [List.flatMap_cons, List.append_assoc]
    exact each c List.mem_cons_self _ _ (ih fun d mem => each d (List.mem_cons_of_mem c mem))

theorem isNext (e : Element) : IsNext e := by
  induction e using Element.elementsInduction with
  | step e below =>
    intro es out run
    rw [Element.preorder_eq]
    exact .step (forest below run)

/-- What is pending is visited before the child elements that come to stand behind it. -/
theorem generation (run : Visits behind (next ++ es.flatMap Element.elements) out) :
    Visits behind (es ++ next) (es ++ out) := by
  induction es generalizing next with
  | nil => simpa only [List.flatMap_nil, List.append_nil, List.nil_append] using run
  | cons e es ih =>
    rw [List.flatMap_cons, ← List.append_assoc] at run
    have rest := ih run
    rw [← List.append_assoc] at rest
    exact .step rest

theorem generations {n : Nat} (low : ∀ e ∈ es, e.height ≤ n) :
    Visits behind es ((List.range n).flatMap fun k => es.flatMap fun e => e.level k) := by
  induction n generalizing es with
  | zero =>
    cases es with
    | nil => exact .done
    | cons e es => exact absurd (low e List.mem_cons_self) (Nat.not_le.mpr e.height_pos)
  | succ n ih =>
    have lower : ∀ c ∈ es.flatMap Element.elements, c.height ≤ n := by
      intro c mem
      obtain ⟨e, among, child⟩ := List.mem_flatMap.mp mem
      exact Element.height_le_iff.mp (low e among) c child
    -- Behind the pending elements come all their child elements, and the trees of these are lower.
    have rest := ih lower
    simp only [List.flatMap_assoc] at rest
    have run : Visits behind (es ++ []) _ := generation rest
    rw [List.range_succ_eq_map, List.flatMap_cons, List.flatMap_map]
    simpa only [List.append_nil, Element.level, List.flatMap_singleton'] using run

end Visits

namespace Element

theorem visits_preorder (e : Element) : Visits onTop [e] e.preorder := by
  have run := Visits.isNext e [] [] .done
  rwa [List.append_nil] at run

theorem visits_levels (e : Element) : Visits behind [e] e.levels.flatten := by
  have low : ∀ d ∈ [e], d.height ≤ e.height := fun d mem => by rw [List.mem_singleton.mp mem]
  have run := Visits.generations low
  simp only [List.flatMap_singleton] at run
  rwa [List.flatMap_def] at run

theorem levels_perm (e : Element) : e.levels.flatten.Perm e.preorder := by
  have perm := (visits_levels e).perm fun _ _ => List.perm_append_comm
  rwa [List.flatMap_singleton] at perm

theorem depthFirst_eq (e : Element) : e.depthFirst = e.preorder := by
  have ends : ∀ n, visitStack n [] = [] := fun n => by cases n <;> rfl
  exact e.visits_preorder.eq_of_fuel ends (fun _ _ _ => rfl) (Nat.le_of_eq e.length_preorder)

theorem breadthFirst_eq (e : Element) : e.breadthFirst = e.levels.flatten := by
  have ends : ∀ n, visitQueue n [] = [] := fun n => by cases n <;> rfl
  have length := e.levels_perm.length_eq.trans e.length_preorder
  exact e.visits_levels.eq_of_fuel ends (fun _ _ _ => rfl) (Nat.le_of_eq length)

/-- Both loops end: the one that visits child elements next with the listing of the tree in
document order, the one that visits them last with its levels from the root down, each of them in
document order. They visit the same elements, as many as the tree has. -/
theorem traversals_exact (e : Element) :
    ((∀ out, Visits onTop [e] out ↔ out = e.preorder) ∧ e.depthFirst = e.preorder ∧
        e.preorder = e :: e.elements.flatMap preorder) ∧
      ((∀ out, Visits behind [e] out ↔ out = e.levels.flatten) ∧
        e.breadthFirst = e.levels.flatten ∧ e.levels = (List.range e.height).map e.level ∧
        ∀ n, (e.level n).Sublist e.preorder ∧ (e.level n ≠ [] ↔ n < e.height)) ∧
      e.depthFirst.Perm e.breadthFirst ∧ e.depthFirst.length = e.size ∧
      e.breadthFirst.length = e.size := by
  have ends {join : List Element → List Element → List Element} {listing : List Element}
      (run : Visits join [e] listing) (out : List Element) :
      Visits join [e] out ↔ out = listing :=
    ⟨fun other => other.unique run, fun same => same ▸ run⟩
  rw [depthFirst_eq, breadthFirst_eq]
  have perm := e.levels_perm
  have length := e.length_preorder
  exact ⟨⟨ends e.visits_preorder, rfl, e.preorder_eq⟩,
    ⟨ends e.visits_levels, rfl, rfl, fun n => ⟨e.level_sublist n, level_ne_nil_iff⟩⟩,
    perm.symm, length, perm.length_eq.trans length⟩

example :
    let tree := ((empty "a").withChild ((empty "b").withChild (empty "c"))).withChild (empty "d")
    tree.depthFirst.map name = ["a", "b", "c", "d"] ∧
      tree.breadthFirst.map name = ["a", "b", "d", "c"] := ⟨rfl, rfl⟩

end Element

end DocPath
