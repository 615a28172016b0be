import DocPath.Xml.Tree

/-!
The names of strict markup. What a name has behind its colon, or the whole name where it has none,
is a local name: it starts with a letter and has no colon.
-/

namespace DocPath.Xml

def isLocalName (name : String) : Bool :=
  match name.toList with
  | c :: cs => isNameStart c && (c :: cs).all fun c => isNameChar c && c != ':'
  | [] => false

section
variable {name : String}

theorem isLocalName_parts (h : isLocalName name) :
    ∃ c cs, name.toList = c :: cs ∧ isNameStart c ∧
      ∀ d ∈ c :: cs, isNameChar d ∧ d ≠ ':' := by
  unfold isLocalName at h
  split at h
  · next c cs text =>
    rw [Bool.and_eq_true, List.all_eq_true] at h
    refine ⟨c, cs, text, h.1, fun d mem => ?_⟩
    simpa using h.2 d mem
  · cases h

theorem isLocalName_head (h : isLocalName name) : name.toList.head? ≠ some '@' := by
  obtain ⟨c, cs, text, start, -⟩ := isLocalName_parts h
  rw [text]
  rintro ⟨⟩
  exact absurd start (by decide)

theorem isLocalName_ne {other : String} (h : isLocalName name)
    (mark : (other.toList.head?.all isNameStart) = false) : name ≠ other := by
  rintro rfl
  obtain ⟨c, cs, text, start, -⟩ := isLocalName_parts h
  rw [text] at mark
  simp [start] at mark

end

/-- What was read, if anything was, has a property. -/
def Yields {α : Type} (P : α → Prop) (o : Option α) : Prop := ∀ a, o = some a → P a

section
variable {α β : Type} {P : α → Prop} {Q : β → Prop}

theorem yields_none : Yields P none := fun _ none => nomatch none

theorem yields_some {a : α} (h : P a) : Yields P (some a) := by
  rintro _ ⟨rfl⟩
  exact h

theorem Yields.bind {o : Option α} {f : α → Option β} (h : Yields P o)
    (next : ∀ a, P a → Yields Q (f a)) : Yields Q (o >>= f) := by
  cases o with
  | none => exact yields_none
  | some a => exact next a (h a rfl)

theorem Yields.map {o : Option α} {f : α → β} (h : Yields P o) (next : ∀ a, P a → Q (f a)) :
    Yields Q (o.map f) := by
  cases o with
  | none => exact yields_none
  | some a => exact yields_some (next a (h a rfl))

theorem yields_true (o : Option α) : Yields (fun _ => True) o := fun _ _ => trivial

end

theorem isLocalName_ofList {cs : List Char} (full : cs ≠ []) (first : startsName cs)
    (chars : ∀ c ∈ cs, isNameChar c) (plain : ':' ∉ cs) : isLocalName (String.ofList cs) := by
  cases cs with
  | nil => exact absurd rfl full
  | cons c cs =>
    have start : isNameStart c := by simpa [startsName] using first
    have all : (c :: cs).all (fun c => isNameChar c && c != ':') := by
      rw [List.all_eq_true]
      intro d mem
      have other : d ≠ ':' := fun same => plain (same ▸ mem)
      simp [chars d mem, other]
    simp only [isLocalName, String.toList_ofList, start, all, Bool.and_self]

theorem qualifiedName_local (cs : List Char) :
    Yields (fun p => isLocalName p.1.name) (qualifiedName cs) := by
  have word := List.all_eq_true.mp (List.all_takeWhile (p := isNameChar) (l := cs))
  unfold qualifiedName
  dsimp only
  split
  · next colon after spelled =>
    split
    · next ok =>
      simp only [Bool.and_eq_true, Bool.not_eq_true', List.isEmpty_eq_false_iff,
        List.contains_eq_mem, decide_eq_false_iff_not] at ok
      refine yields_some (isLocalName_ofList ok.1.1.2 ok.1.2 (fun c mem => word c ?_) ok.2)
      have behind : c ∈ (cs.takeWhile isNameChar).dropWhile (· != ':') := by
        rw [spelled]
        exact List.mem_cons_of_mem _ mem
      exact (List.dropWhile_sublist _).mem behind
    · exact yields_none
  · split
    · next ok =>
      simp only [Bool.and_eq_true, Bool.not_eq_true', List.isEmpty_eq_false_iff] at ok
      refine yields_some (isLocalName_ofList ok.1 ok.2 (fun c mem => word c ?_) fun mem => ?_)
      · exact (List.takeWhile_sublist _).mem mem
      · have before := List.all_eq_true.mp List.all_takeWhile _ mem
        simp at before
    · exact yields_none

end DocPath.Xml
