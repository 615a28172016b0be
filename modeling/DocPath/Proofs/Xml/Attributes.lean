import Mathlib.Data.List.Nodup
import DocPath.Proofs.Xml.Written

/-!
Reading a tag that was written. Its attributes come back as they were, up to line ends and tabs,
which an attribute reads as spaces; where a namespace is declared, the declaration comes back as
the binding of plain names.
-/

namespace DocPath.Xml

open Markup

def isBreak (c : Char) : Bool := c = '\n' || c = '\r' || c = '\t'

/-- A value as an attribute reads it: a line end or a tab is a space. -/
def spaced : List Char → List Char
  | [] => []
  | c :: cs =>
    if c = '\r' && cs.head? = some '\n' then spaced cs
    else (if isBreak c then ' ' else c) :: spaced cs

theorem ne_return {c : Char} (shown : isBreak c = false) : c ≠ '\r' := by
  rintro rfl
  cases shown

def spacedText (s : String) : String := String.ofList (spaced s.toList)

theorem escape_cases (c : Char) :
    escape c = [c] ∧ c ≠ '&' ∨
      ∃ w, escape c = '&' :: w ∧ isBreak c = false ∧
        ∀ rest, reference (w ++ rest) = some (.char c, rest) := by
  by_cases left : c = '<'
  · subst left
    exact .inr ⟨"lt;".toList, rfl, rfl, fun _ => rfl⟩
  by_cases right : c = '>'
  · subst right
    exact .inr ⟨"gt;".toList, rfl, rfl, fun _ => rfl⟩
  by_cases amp : c = '&'
  · subst amp
    exact .inr ⟨"amp;".toList, rfl, rfl, fun _ => rfl⟩
  by_cases apos : c = '\''
  · subst apos
    exact .inr ⟨"apos;".toList, rfl, rfl, fun _ => rfl⟩
  by_cases quot : c = '"'
  · subst quot
    exact .inr ⟨"quot;".toList, rfl, rfl, fun _ => rfl⟩
  · exact .inl ⟨escape_plain left right amp apos quot, amp⟩

theorem head_escape (cs : List Char) :
    (cs.flatMap escape).head? = some '\n' ↔ cs.head? = some '\n' := by
  cases cs with
  | nil => rfl
  | cons c cs =>
    obtain ⟨plain, -⟩ | ⟨w, written, shown, -⟩ := escape_cases c
    · rw [List.flatMap_cons, plain]
      rfl
    · rw [List.flatMap_cons, written]
      constructor
      · intro head
        cases head
      · rintro ⟨⟩
        cases shown

variable (entities : Entities)
  (expand : List Char → List Char × Nat → Option (List Char × Nat))

theorem expandValue_escape (cs : List Char) {n : Nat} (fuel : (cs.flatMap escape).length ≤ n)
    (read : List Char) (count : Nat) :
    expandValue entities expand false n (cs.flatMap escape) (read, count) =
      some ((spaced cs).reverse ++ read, count) := by
  induction cs generalizing n read with
  | nil => cases n <;> rfl
  | cons c cs ih =>
    rw [List.flatMap_cons] at fuel ⊢
    obtain ⟨plain, amp⟩ | ⟨w, written, shown, refers⟩ := escape_cases c
    · obtain ⟨n, rfl⟩ := Nat.exists_eq_succ_of_ne_zero (n := n) (by simp [plain] at fuel; omega)
      rw [plain, List.singleton_append] at fuel ⊢
      have rest := fun read => ih (Nat.le_of_succ_le_succ fuel) read
      have amp' : (c != '&') = true := by simpa using amp
      rw [expandValue]
      simp only [amp', if_true, head_escape, rest, spaced, isBreak]
      split
      · rfl
      · rw [List.reverse_cons, List.append_assoc, List.singleton_append]
        rfl
    · rw [written, List.cons_append, List.length_cons, List.length_append] at fuel
      obtain ⟨n, rfl⟩ := Nat.exists_eq_succ_of_ne_zero (n := n) (by omega)
      have rest := fun read => ih (n := n) (by omega) read
      rw [written, List.cons_append, expandValue]
      simp only [bne_self_eq_false, Bool.false_eq_true, if_false, refers, Bool.false_and, rest]
      simp [spaced, shown, ne_return shown]

theorem valueText?_escape (s : String) (count : Nat) :
    valueText? entities maxDepth count (escapeText s) = some (spacedText s, count) := by
  have expanded := expandValue_escape entities (expandInValue entities maxDepth) s.toList
    (Nat.le_refl _) [] count
  have outside : decide (maxDepth < maxDepth) = false := rfl
  simp only [valueText?, outside, escapeText, expanded, Option.map_some, List.append_nil,
    List.reverse_reverse, spacedText]

theorem spaced_of_plain {cs : List Char} (plain : ∀ c ∈ cs, isBreak c = false) :
    spaced cs = cs := by
  induction cs with
  | nil => rfl
  | cons c cs ih =>
    rw [List.forall_mem_cons] at plain
    simp [spaced, plain.1, ih plain.2, ne_return plain.1]

theorem mem_spaced {cs : List Char} {c : Char} (mem : c ∈ spaced cs) : isBreak c = false := by
  induction cs with
  | nil => cases mem
  | cons d cs ih =>
    rw [spaced] at mem
    split at mem
    · exact ih mem
    · rcases List.mem_cons.mp mem with rfl | later
      · split
        · rfl
        · next shown => simpa using shown
      · exact ih later

theorem spacedText_eq_iff (s : String) :
    spacedText s = s ↔ ∀ c ∈ s.toList, isBreak c = false := by
  constructor
  · intro same c mem
    rw [← same, spacedText, String.toList_ofList] at mem
    exact mem_spaced mem
  · intro plain
    rw [spacedText, spaced_of_plain plain, String.ofList_toList]

/-- A value that an attribute does not read as it is gets a space. -/
theorem space_mem_spaced {cs : List Char} (other : spaced cs ≠ cs) : ' ' ∈ spaced cs := by
  induction cs with
  | nil => exact absurd rfl other
  | cons c cs ih =>
    rw [spaced] at other ⊢
    split
    · next crlf =>
      rw [Bool.and_eq_true, decide_eq_true_eq, decide_eq_true_eq] at crlf
      obtain ⟨tail, rfl⟩ := List.head?_eq_some_iff.mp crlf.2
      exact List.mem_cons_self
    · next single =>
      rw [if_neg single] at other
      by_cases shown : isBreak c
      · rw [if_pos shown]
        exact List.mem_cons_self
      · rw [if_neg shown] at other ⊢
        exact List.mem_cons_of_mem _ (ih fun same => other (by rw [same]))

theorem spacedText_bindable {uri : String} (bindable : IsBindable uri) :
    IsBindable (spacedText uri) := by
  by_cases same : spacedText uri = uri
  · rwa [same]
  · have blank : ' ' ∈ (spacedText uri).toList := by
      rw [spacedText, String.toList_ofList]
      refine space_mem_spaced fun equal => same ?_
      rw [spacedText, equal, String.ofList_toList]
    refine ⟨?_, ?_⟩
    · intro standard
      rw [standard] at blank
      exact absurd blank (by decide)
    · intro standard
      rw [standard] at blank
      exact absurd blank (by decide)

def plainAttribute (p : String × String) : Attribute := ⟨⟨"", p.1⟩, p.2⟩

theorem values?_written (b : Building) (attributes : List (String × String)) :
    b.values? maxDepth (attributes.map writtenAttribute) =
      some (attributes.map fun p => plainAttribute (p.1, spacedText p.2), b) := by
  induction attributes with
  | nil => rfl
  | cons p attributes ih =>
    have value := valueText?_escape b.entities p.2 b.count
    have others : Building.values? maxDepth { b with count := b.count }
      (attributes.map writtenAttribute) = _ := ih
    rw [List.map_cons, Building.values?]
    simp only [writtenAttribute, value, bind, Option.bind]
    rw [others]
    rfl

theorem splitAttributes?_plain (own : Bindings) {attributes : List (String × String)}
    (names : ∀ p ∈ attributes, p.1 ≠ "xmlns") :
    splitAttributes? own (attributes.map plainAttribute) =
      some (own, attributes.map plainAttribute) := by
  induction attributes with
  | nil => rfl
  | cons p attributes ih =>
    rw [List.forall_mem_cons] at names
    have undeclared : declare? own (plainAttribute p) = some none := by
      simp [declare?, plainAttribute, names.1]
    rw [List.map_cons, splitAttributes?, undeclared]
    dsimp only
    rw [ih names.2]
    rfl

theorem localAttributes?_plain (bindings : Bindings) {attributes : List (String × String)}
    (keys : (attributes.map Prod.fst).Nodup) :
    localAttributes? bindings (attributes.map plainAttribute) = some attributes := by
  have spaces : (attributes.map plainAttribute).mapM (fun a => attributeSpace? bindings a.key) =
      some (attributes.map fun _ => none) := by
    clear keys
    induction attributes with
    | nil => rfl
    | cons p attributes ih =>
      have space : attributeSpace? bindings (plainAttribute p).key = some none := rfl
      rw [List.map_cons, List.mapM_cons, space, ih]
      rfl
  have names : (attributes.map plainAttribute).map (fun a => a.key.name) =
      attributes.map Prod.fst := by
    rw [List.map_map]
    rfl
  have apart : ((attributes.map fun _ => (none : Option String)).zip
      ((attributes.map plainAttribute).map fun a => a.key.name)).Nodup := by
    apply List.Nodup.of_map Prod.snd
    rwa [List.map_snd_zip (by simp), names]
  have entries : ((attributes.map plainAttribute).map fun a => (a.key.name, a.value)) =
      attributes := by
    rw [List.map_map]
    exact List.map_id attributes
  simp only [localAttributes?, spaces, bind, Option.bind, apart, if_true, entries,
    entriesOf_of_nodup keys]

theorem declare?_default (own : Bindings) {uri : String} (bindable : IsBindable uri) :
    declare? own (plainAttribute ("xmlns", uri)) = some (some (own ++ [("", uri)])) := by
  simp [declare?, plainAttribute, bindable.1, bindable.2]

theorem elementSpace?_local (bindings : Bindings) (name : String) :
    elementSpace? bindings ⟨"", name⟩ = some (bindings.lookup "") := by
  unfold elementSpace?
  split
  · next uri found => exact congrArg some found.symm
  · next missing => exact congrArg some missing.symm

section
variable {around space : Option String} {attributes : List (String × String)}

theorem splitAttributes?_written (name : String) {outer : Bindings}
    (sound : SoundAttributes attributes) (bindable : ∀ uri, space = some uri → IsBindable uri)
    (plain : ∀ p ∈ attributes, ∀ c ∈ p.2.toList, isBreak c = false)
    (agree : ∀ uri, around = some uri → outer.lookup "" = some (spacedText uri)) :
    ∃ own, splitAttributes? [] ((tagAttributes around (.mk name space attributes [])).map fun p =>
        plainAttribute (p.1, spacedText p.2)) = some (own, attributes.map plainAttribute) ∧
      (own ++ outer).lookup "" = (space.map spacedText).or (outer.lookup "") := by
  have kept : attributes.map (fun p => plainAttribute (p.1, spacedText p.2)) =
      attributes.map plainAttribute := by
    refine List.map_congr_left fun p mem => ?_
    rw [(spacedText_eq_iff p.2).mpr (plain p mem)]
  have undeclared (own : Bindings) := splitAttributes?_plain own fun p mem => (sound.names p mem).2
  obtain ⟨written, rfl | rfl⟩ | ⟨uri, rfl, -, written⟩ :=
    tagAttributes_cases around space name [] attributes
  · exact ⟨[], by rw [written, kept, undeclared], rfl⟩
  · refine ⟨[], by rw [written, kept, undeclared], ?_⟩
    cases space with
    | none => rfl
    | some uri =>
      rw [List.nil_append, agree uri rfl]
      rfl
  · refine ⟨[("", spacedText uri)], ?_, rfl⟩
    rw [written, List.map_cons, kept, splitAttributes?,
      declare?_default [] (spacedText_bindable (bindable uri rfl))]
    exact undeclared _

theorem element?_written (name : String) {b : Building} (sound : SoundAttributes attributes)
    (bindable : ∀ uri, space = some uri → IsBindable uri)
    (plain : ∀ p ∈ attributes, ∀ c ∈ p.2.toList, isBreak c = false)
    (agree : ∀ uri, around = some uri → b.bindings.lookup "" = some (spacedText uri)) :
    ∃ values bindings,
      b.values? maxDepth
          ((tagAttributes around (.mk name space attributes [])).map writtenAttribute) =
        some (values, b) ∧
      b.element? ⟨"", name⟩ values =
        some (.mk name (bindings.lookup "") attributes [], bindings) ∧
      bindings.lookup "" = (space.map spacedText).or (b.bindings.lookup "") := by
  obtain ⟨own, split, shown⟩ := splitAttributes?_written name sound bindable plain agree
  refine ⟨_, own ++ b.bindings, values?_written b _, ?_, shown⟩
  simp [Building.element?, split, localAttributes?_plain _ sound.keys, elementSpace?_local]

end

end DocPath.Xml
