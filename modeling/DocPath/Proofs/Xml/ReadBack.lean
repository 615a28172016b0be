import DocPath.Proofs.Element
import DocPath.Proofs.Xml.Attributes

/-!
Reading an element that was written on one line. Names, attributes, texts and the order of children
come back. A namespace is declared where it is not the one around, but nothing says that an element
has none: such an element comes back with the namespace that is declared around it.
-/

namespace DocPath.Xml

open Markup

mutual
/-- An element as reading it back gives it, below an element with a namespace or none. -/
def readBack (bound : Option String) : Element → Element
  | .mk name space attributes children =>
    let shown := (space.map spacedText).or bound
    .mk name shown attributes (readBackChildren shown children)
def readBackChildren (bound : Option String) : List Child → List Child
  | [] => []
  | .text s :: cs => .text s :: readBackChildren bound cs
  | .element e :: cs => .element (readBack bound e) :: readBackChildren bound cs
end

mutual
/-- No text and no attribute holds a carriage return, and no attribute a tab or a line feed. -/
def isPlainElement : Element → Bool
  | .mk _ _ attributes children =>
    attributes.all (fun p => p.2.toList.all fun c => !isBreak c) && arePlainChildren children
def arePlainChildren : List Child → Bool
  | [] => true
  | .text s :: cs => !s.toList.contains '\r' && arePlainChildren cs
  | .element e :: cs => isPlainElement e && arePlainChildren cs
end

theorem pushLineEnd_plain {read : List Char} {c : Char} (before : read.head? ≠ some '\r')
    (plain : c ≠ '\r') (last : Bool) : pushLineEnd read c last = c :: read := by
  have shown : (if last && c = '\r' then '\n' else c) = c := by simp [plain]
  unfold pushLineEnd
  dsimp only
  rw [shown]
  split
  · exact absurd rfl before
  · rfl

theorem textUntilEntity_escape {cs : List Char} (plain : ∀ c ∈ cs, c ≠ '\r') {n : Nat}
    (fuel : (cs.flatMap escape).length ≤ n) (verbatim : Bool) (read : List Char)
    (before : read.head? ≠ some '\r') :
    textUntilEntity false n verbatim read (cs.flatMap escape) =
      some (cs.reverse ++ read, none) := by
  induction cs generalizing n verbatim read with
  | nil => cases n <;> rfl
  | cons c cs ih =>
    rw [List.forall_mem_cons] at plain
    have next : (c :: read).head? ≠ some '\r' := by simpa using plain.1
    rw [List.reverse_cons, List.append_assoc, List.singleton_append]
    rw [List.flatMap_cons] at fuel ⊢
    obtain ⟨same, amp⟩ | ⟨w, written, -, refers⟩ := escape_cases c
    · rw [same, List.singleton_append, List.length_cons] at fuel
      obtain ⟨n, rfl⟩ := Nat.exists_eq_succ_of_ne_zero (n := n) (by omega)
      have amp' : (c != '&') = true := by simpa using amp
      rw [same, List.singleton_append, textUntilEntity, if_pos amp',
        pushLineEnd_plain before plain.1, ite_self]
      exact ih plain.2 (Nat.le_of_succ_le_succ fuel) _ _ next
    · rw [written, List.cons_append, List.length_cons, List.length_append] at fuel
      obtain ⟨n, rfl⟩ := Nat.exists_eq_succ_of_ne_zero (n := n) (by omega)
      rw [written, List.cons_append, textUntilEntity]
      simp only [bne_self_eq_false, Bool.false_eq_true, if_false, refers]
      exact ih plain.2 (by omega) _ _ next

namespace Building

variable {b : Building}

theorem endText_blank (blank : b.text = "") : b.endText = b := by
  obtain ⟨frames, root, text, entities, count, tagged⟩ := b
  obtain rfl : text = "" := blank
  cases frames <;> rfl

theorem endText_shown {f : Frame} {fs : List Frame} (opened : b.frames = f :: fs)
    (shown : IsShown b.text) :
    b.endText = { b with
      text := "", frames := { f with element := f.element.withText b.text } :: fs } := by
  unfold endText
  rw [opened]
  dsimp only
  rw [shown.2]
  rfl

theorem text_endText : b.endText.text = "" := by
  unfold endText
  split
  · split <;> rfl
  · rfl

theorem tagged_endText : b.endText.tagged = b.tagged := by
  unfold endText
  split
  · split <;> rfl
  · rfl

theorem addElement_tagged (e : Element) (tagged : Bool) :
    addElement e { b with tagged := tagged } = { addElement e b with tagged := tagged } := by
  obtain ⟨frames, root, text, entities, count, before⟩ := b
  cases frames <;> rfl

theorem addElement_frame {f : Frame} {fs : List Frame} (opened : b.frames = f :: fs)
    (tagged : b.tagged = true) (e : Element) :
    { addElement e b with tagged := true } =
      { b with frames := { f with element := f.element.withChild e } :: fs } := by
  obtain ⟨frames, root, text, entities, count, before⟩ := b
  obtain rfl : frames = f :: fs := opened
  obtain rfl : before = true := tagged
  rfl

theorem bindings_endText : b.endText.bindings = b.bindings := by
  unfold endText bindings
  split
  · next opened =>
    rw [opened]
    split <;> rfl
  · rfl

end Building

section
variable {expand : List Char → Building → Option Building}

theorem addTokens_cons {b b' : Building} {t : Token} {depth : Nat}
    (added : addToken expand depth b t = some b') (ts : List Token) :
    addTokens expand depth b (t :: ts) = addTokens expand depth b' ts := by
  rw [addTokens, added]

theorem addToken_text {s : String} (plain : '\r' ∉ s.toList) (b : Building) :
    addToken expand maxDepth b (.text (escapeText s)) = some (b.addText s) := by
  have scanned := textUntilEntity_escape (fun c mem same => plain (same ▸ mem)) (Nat.le_refl _)
    false [] nofun
  have outside : decide (maxDepth < maxDepth) = false := rfl
  rw [addToken, addRun, outside, escapeText, scanned]
  simp

mutual
theorem addTokens_element : ∀ e : Element, SoundElement e → isPlainElement e →
    ∀ (around : Option String) (b : Building) (ts : List Token),
    (∀ uri, around = some uri → b.bindings.lookup "" = some (spacedText uri)) →
    addTokens expand maxDepth b (elementTokens around e ++ ts) =
      addTokens expand maxDepth
        { b.endText.addElement (readBack (b.bindings.lookup "") e) with tagged := true } ts
  | .mk name space attributes children, sound, plain, around, b, ts, agree => by
    obtain ⟨-, bindable, own, inner⟩ := sound
    rw [isPlainElement, Bool.and_eq_true] at plain
    have values : ∀ p ∈ attributes, ∀ c ∈ p.2.toList, isBreak c = false := by
      simpa using plain.1
    obtain ⟨read, bindings, given, made, shown⟩ := element?_written name (b := b.endText) own
      bindable values (by rwa [Building.bindings_endText])
    rw [Building.bindings_endText] at shown
    rw [elementTokens, readBack, ← shown]
    cases children with
    | nil =>
      have added : addToken expand maxDepth b (.empty ⟨"", name⟩
          ((tagAttributes around (.mk name space attributes [])).map writtenAttribute)) =
          some { b.endText.addElement (.mk name (bindings.lookup "") attributes []) with
            tagged := true } := by
        rw [addToken]
        simp only [given, made, bind, Option.bind]
      exact addTokens_cons added ts
    | cons child children =>
      let frame : Frame := ⟨⟨"", name⟩, .mk name (bindings.lookup "") attributes [], bindings⟩
      let opened : Building :=
        { b.endText with frames := frame :: b.endText.frames, tagged := true }
      have blank : opened.endText = opened := Building.endText_blank Building.text_endText
      have added : addToken expand maxDepth b (.start ⟨"", name⟩
          ((tagAttributes around (.mk name space attributes [])).map writtenAttribute)) =
          some opened := by
        rw [addToken]
        simp only [given, made, bind, Option.bind]
        rfl
      obtain ⟨b', inside, tagged, filled⟩ := addTokens_children (child :: children) inner plain.2
        space opened frame b.endText.frames (.close ⟨"", name⟩ :: ts) (by rw [blank]) rfl
        (fun _ => ⟨Building.text_endText, rfl⟩) (by
          rintro uri rfl
          exact shown)
      have closed : addToken expand maxDepth b' (.close ⟨"", name⟩) =
          some { b.endText.addElement (.mk name (bindings.lookup "") attributes
            (readBackChildren (bindings.lookup "") (child :: children))) with tagged := true } := by
        rw [addToken, if_pos tagged, filled, blank, ← Building.addElement_tagged]
        exact if_pos rfl
      rw [List.isEmpty_cons, if_neg Bool.false_ne_true, List.cons_append, addTokens_cons added,
        List.append_assoc, List.singleton_append, inside, addTokens_cons closed]
theorem addTokens_children : ∀ (cs : List Child) {afterText : Bool}, SoundChildren afterText cs →
    arePlainChildren cs → ∀ (around : Option String) (b : Building) (f : Frame) (fs : List Frame)
    (ts : List Token), b.endText.frames = f :: fs → b.tagged = true →
    (afterText = false → b.text = "" ∧ endsWithText f.element.children = false) →
    (∀ uri, around = some uri → f.bindings.lookup "" = some (spacedText uri)) →
    ∃ b' : Building, addTokens expand maxDepth b (childTokens around cs ++ ts) =
        addTokens expand maxDepth b' ts ∧ b'.tagged = true ∧
      b'.endText = { b.endText with frames := { f with
        element := f.element.withChildren (readBackChildren (f.bindings.lookup "") cs) } :: fs }
  | [], _, _, _, around, b, f, fs, ts, opened, tagged, _, _ => by
    refine ⟨b, rfl, tagged, ?_⟩
    rw [readBackChildren, Element.withChildren_nil, ← opened]
  | .text s :: cs, _, sound, plain, around, b, f, fs, ts, opened, tagged, ready, agree => by
    obtain ⟨first, shown, behind⟩ := sound
    obtain ⟨blank, apart⟩ := ready first
    rw [arePlainChildren, Bool.and_eq_true] at plain
    have added : addToken expand maxDepth b (.text (escapeText s)) = some (b.addText s) :=
      addToken_text (by simpa using plain.1) b
    rw [Building.endText_blank blank] at opened ⊢
    have text : (b.addText s).text = s := by
      rw [Building.addText, blank, String.empty_append]
    have ends := Building.endText_shown (b := b.addText s) opened (by rwa [text])
    obtain ⟨b', inside, tagged', filled⟩ := addTokens_children cs behind plain.2 around
      (b.addText s) { f with element := f.element.withText (b.addText s).text } fs ts (by rw [ends])
      tagged nofun agree
    refine ⟨b', ?_, tagged', ?_⟩
    · rw [childTokens, List.cons_append, addTokens_cons added, inside]
    · rw [filled, ends, text, readBackChildren, Element.withText_eq apart, ← blank]
      simp only [Element.withChildren_withChildren, List.singleton_append]
      rfl
  | .element e :: cs, _, sound, plain, around, b, f, fs, ts, opened, tagged, ready, agree => by
    rw [arePlainChildren, Bool.and_eq_true] at plain
    have bound : b.bindings = f.bindings := by
      rw [← Building.bindings_endText, Building.bindings, opened]
      rfl
    have first := addTokens_element e sound.1 plain.1 around b (childTokens around cs ++ ts)
      (by rwa [bound])
    rw [bound, Building.addElement_frame opened (Building.tagged_endText.trans tagged)] at first
    generalize same : readBack (f.bindings.lookup "") e = child at first
    let filled : Building := { b.endText with
      frames := { f with element := f.element.withChild child } :: fs }
    have blank : filled.text = "" := Building.text_endText
    have ends : filled.endText = filled := Building.endText_blank blank
    obtain ⟨b', inside, tagged', last⟩ := addTokens_children cs sound.2 plain.2 around filled
      { f with element := f.element.withChild child } fs ts (by rw [ends])
      (Building.tagged_endText.trans tagged) (fun _ => ⟨blank, endsWithText_concat _ _⟩) agree
    refine ⟨b', ?_, tagged', ?_⟩
    · rw [childTokens, List.append_assoc, first, inside]
    · rw [last, ends, readBackChildren, same]
      simp only [filled, Element.withChild_eq, Element.withChildren_withChildren,
        List.singleton_append]
end

end

/-- An element that is written on one line is read back unless an attribute holds a character that
documents may not contain. -/
theorem read?_write {e : Element} (sound : SoundElement e) (plain : isPlainElement e)
    (typed : Bool) : read? typed (Markup.write .compact e) =
      if isCleanElement none e then some (readBack none e) else none := by
  rw [read?, tokens?_write sound]
  cases isCleanElement none e with
  | false => rfl
  | true =>
    have added : addTokens (addEntity maxDepth) maxDepth .start (elementTokens none e ++ []) = _ :=
      addTokens_element e sound plain none .start [] nofun
    rw [List.append_nil] at added
    show rootOf? (elementTokens none e) = some (readBack none e)
    rw [rootOf?, added]
    rfl

/-- A value that holds only characters that documents may contain, and no line end or tab. -/
def isLegible (p : String × String) : Bool := p.2.toList.all fun c => isChar c && !isBreak c

mutual
/-- An element that stands in one with a namespace has one, and the values of all attributes that
are written, the declarations of namespaces included, are legible. -/
def isLegibleElement (around : Option String) : Element → Bool
  | .mk name space attributes children =>
    (space.isSome || around.isNone) &&
      (tagAttributes around (.mk name space attributes [])).all isLegible &&
      areLegibleChildren space children
def areLegibleChildren (around : Option String) : List Child → Bool
  | [] => true
  | .text _ :: cs => areLegibleChildren around cs
  | .element e :: cs => isLegibleElement around e && areLegibleChildren around cs
end

theorem isLegible_iff (p : String × String) :
    isLegible p ↔ isClean p ∧ spacedText p.2 = p.2 := by
  rw [spacedText_eq_iff]
  simp only [isLegible, isClean, List.all_eq_true, Bool.and_eq_true, Bool.not_eq_true']
  exact ⟨fun h => ⟨fun c mem => (h c mem).1, fun c mem => (h c mem).2⟩,
    fun h c mem => ⟨h.1 c mem, h.2 c mem⟩⟩

/-- A tag comes back with its namespace if and only if it is legible. -/
theorem isLegible_tag {around : Option String} (space : Option String) (name : String)
    {attributes : List (String × String)} (plain : ∀ p ∈ attributes, spacedText p.2 = p.2)
    (kept : ∀ uri, around = some uri → spacedText uri = uri) :
    ((tagAttributes around (.mk name space attributes [])).all isClean ∧
        (space.map spacedText).or around = space) ↔
      (space.isSome || around.isNone) ∧
        (tagAttributes around (.mk name space attributes [])).all isLegible := by
  have own : attributes.all isLegible = attributes.all isClean := by
    rw [Bool.eq_iff_iff, List.all_eq_true, List.all_eq_true]
    refine forall₂_congr fun p mem => ?_
    rw [isLegible_iff, plain p mem, eq_self, and_true]
  obtain ⟨written, rfl | rfl⟩ | ⟨uri, rfl, -, written⟩ :=
    tagAttributes_cases around space name [] attributes
  · rw [written, own, and_comm]
    cases around <;> simp
  · rw [written, own]
    cases space with
    | none => simp
    | some uri => simp [kept uri rfl]
  · rw [written, List.all_cons, List.all_cons, own, Bool.and_eq_true, Bool.and_eq_true,
      isLegible_iff]
    simp
    tauto

mutual
theorem readBack_iff : ∀ e : Element, isPlainElement e → ∀ around : Option String,
    (∀ uri, around = some uri → spacedText uri = uri) →
    (isCleanElement around e ∧ readBack around e = e ↔ isLegibleElement around e)
  | .mk name space attributes children, plain, around, kept => by
    rw [isPlainElement, Bool.and_eq_true] at plain
    have values : ∀ p ∈ attributes, spacedText p.2 = p.2 := fun p mem =>
      (spacedText_eq_iff p.2).mpr (by simpa using List.all_eq_true.mp plain.1 p mem)
    have tag := isLegible_tag space name values kept
    have inner (shown : (space.map spacedText).or around = space) :
        areCleanChildren space children ∧ readBackChildren space children = children ↔
          areLegibleChildren space children := by
      refine readBackChildren_iff children plain.2 space ?_
      rintro uri rfl
      exact Option.some.inj shown
    rw [isCleanElement, readBack, isLegibleElement, Bool.and_eq_true, Bool.and_eq_true,
      Bool.and_eq_true, ← tag, Element.mk.injEq]
    constructor
    · rintro ⟨⟨clean, within⟩, -, shown, -, same⟩
      rw [shown] at same
      exact ⟨⟨clean, shown⟩, (inner shown).mp ⟨within, same⟩⟩
    · rintro ⟨⟨clean, shown⟩, legible⟩
      obtain ⟨within, same⟩ := (inner shown).mpr legible
      rw [shown]
      exact ⟨⟨clean, within⟩, rfl, rfl, rfl, same⟩
theorem readBackChildren_iff : ∀ cs : List Child, arePlainChildren cs → ∀ around : Option String,
    (∀ uri, around = some uri → spacedText uri = uri) →
    (areCleanChildren around cs ∧ readBackChildren around cs = cs ↔ areLegibleChildren around cs)
  | [], _, _, _ => by simp [areCleanChildren, readBackChildren, areLegibleChildren]
  | .text s :: cs, plain, around, kept => by
    rw [arePlainChildren, Bool.and_eq_true] at plain
    have rest := readBackChildren_iff cs plain.2 around kept
    simpa [areCleanChildren, readBackChildren, areLegibleChildren] using rest
  | .element e :: cs, plain, around, kept => by
    rw [arePlainChildren, Bool.and_eq_true] at plain
    have first := readBack_iff e plain.1 around kept
    have rest := readBackChildren_iff cs plain.2 around kept
    rw [areCleanChildren, readBackChildren, areLegibleChildren, Bool.and_eq_true, Bool.and_eq_true,
      ← first, ← rest, List.cons.injEq, Child.element.injEq]
    exact and_and_and_comm
end

/-- An element that was read, without carriage returns in texts and attributes and without tabs and
line feeds in attributes, is read back as it is from its rendering on one line if and only if it is
legible: no element without a namespace stands in one with a namespace, and what is written as an
attribute, the namespaces included, holds only characters that documents may contain, and no line
end or tab. -/
theorem rendering_reads_back {typed : Bool} {text : String} {e : Element}
    (read : read? typed text = some e) (plain : isPlainElement e) (again : Bool) :
    read? again (Markup.write .compact e) = some e ↔ isLegibleElement none e := by
  rw [read?_write (read?_sound typed text e read) plain, ← readBack_iff e plain none nofun]
  cases isCleanElement none e <;> simp

/-- A child without a namespace comes back with that of its parent. -/
theorem rendering_reads_back_prefixed :
    ∃ e, read? false "<p:a xmlns:p=\"u\"><b/></p:a>" = some e ∧ isPlainElement e ∧
      (read? false (Markup.write .compact e) = some e ↔ isLegibleElement none e) ∧
      isLegibleElement none e = false := by
  obtain ⟨e, read, same⟩ : ∃ e, read? false "<p:a xmlns:p=\"u\"><b/></p:a>" = some e ∧
      e = .mk "a" (some "u") [] [.element (.mk "b" none [] [])] := ⟨_, rfl, rfl⟩
  have plain : isPlainElement e := by
    rw [same]
    rfl
  refine ⟨e, read, plain, rendering_reads_back read plain false, ?_⟩
  rw [same]
  rfl

end DocPath.Xml
