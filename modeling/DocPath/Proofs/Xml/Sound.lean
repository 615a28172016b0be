import DocPath.Proofs.Entries
import DocPath.Proofs.Xml.Tokens
import DocPath.Xml.Tree

/-!
What reading strict markup gives, through the entities that are expanded on the way: local names,
namespaces that a declaration may bind, attributes under different names of which none reads as a
declaration, and texts that show something, between which elements stand.
-/

namespace DocPath.Xml

def IsBindable (uri : String) : Prop := uri ≠ xmlSpace ∧ uri ≠ declarationSpace

def IsShown (s : String) : Prop := s.toList.all isChar ∧ s.toList.all isSpace = false

/-- Attributes under different local names, none of which reads as a declaration. -/
structure SoundAttributes (attributes : List (String × String)) : Prop where
  keys : (attributes.map Prod.fst).Nodup
  names : ∀ p ∈ attributes, isLocalName p.1 ∧ p.1 ≠ "xmlns"

mutual
def SoundElement : Element → Prop
  | .mk name space attributes children =>
    isLocalName name ∧ (∀ uri, space = some uri → IsBindable uri) ∧ SoundAttributes attributes ∧
      SoundChildren false children
/-- Children that follow a text, or do not. No text follows another one. -/
def SoundChildren (afterText : Bool) : List Child → Prop
  | [] => True
  | .text s :: cs => afterText = false ∧ IsShown s ∧ SoundChildren true cs
  | .element e :: cs => SoundElement e ∧ SoundChildren false cs
end

theorem SoundElement.name {e : Element} (h : SoundElement e) : isLocalName e.name := by
  cases e
  rw [SoundElement] at h
  exact h.1

theorem IsShown.append {s t : String} (first : IsShown s) (second : IsShown t) :
    IsShown (s ++ t) := by
  simp only [IsShown, String.toList_append, List.all_append, first.1, second.1, first.2,
    Bool.false_and, Bool.and_self, and_self]

section
variable {afterText : Bool} {cs : List Child}

theorem SoundChildren.withText {s : String} (h : SoundChildren afterText cs) (shown : IsShown s)
    (first : cs = [] → afterText = false) : SoundChildren afterText (appendText s cs) := by
  induction cs generalizing afterText with
  | nil => exact ⟨first rfl, shown, trivial⟩
  | cons c cs ih =>
    cases c with
    | element e => exact ⟨h.1, ih h.2 fun _ => rfl⟩
    | text t =>
      obtain ⟨apart, before, behind⟩ := h
      cases cs with
      | nil => exact ⟨apart, before.append shown, trivial⟩
      | cons c cs => exact ⟨apart, before, ih behind nofun⟩

theorem SoundChildren.withChild {e : Element} (h : SoundChildren afterText cs)
    (child : SoundElement e) : SoundChildren afterText (cs ++ [.element e]) := by
  induction cs generalizing afterText with
  | nil => exact ⟨child, trivial⟩
  | cons c cs ih =>
    cases c with
    | element _ => exact ⟨h.1, ih h.2⟩
    | text t => exact ⟨h.1, h.2.1, ih h.2.2⟩

end

theorem SoundElement.withText {e : Element} {s : String} (h : SoundElement e) (shown : IsShown s) :
    SoundElement (e.withText s) := by
  obtain ⟨name, space, attributes, children⟩ := e
  rw [SoundElement] at h
  exact ⟨h.1, h.2.1, h.2.2.1, h.2.2.2.withText shown fun _ => rfl⟩

theorem SoundElement.withChild {e child : Element} (h : SoundElement e)
    (inner : SoundElement child) : SoundElement (e.withChild child) := by
  obtain ⟨name, space, attributes, children⟩ := e
  rw [SoundElement] at h
  exact ⟨h.1, h.2.1, h.2.2.1, h.2.2.2.withChild inner⟩

theorem named?_char {name : List Char} {c : Char} (named : Markup.named? name = some c) :
    isChar c := by
  unfold Markup.named? at named
  split at named <;> cases named <;> decide

theorem referenceNumber?_rest (cs : List Char) :
    Yields (fun p => p.2.Sublist cs) (referenceNumber? cs) := by
  unfold referenceNumber?
  refine (yields_true _).bind fun n _ => ?_
  split
  · refine yields_some ((List.dropWhile_sublist _).trans ?_)
    split
    · exact List.drop_sublist 1 cs
    · exact List.Sublist.refl cs
  · exact yields_none

theorem word_rest (w cs : List Char) : Yields (fun p => p.2.Sublist cs) (Scan.word w cs) := by
  unfold Scan.word
  split
  · exact yields_some (List.drop_sublist _ _)
  · exact yields_none

theorem plainName_rest (cs : List Char) : Yields (fun p => p.2.Sublist cs) (plainName cs) := by
  unfold plainName
  split
  · exact yields_none
  · split
    · exact yields_some ((List.dropWhile_sublist _).trans (List.sublist_cons_self _ _))
    · exact yields_none

/-- A character that is read by reference may stand in a document, and what follows a reference is
part of the text that it was read from. -/
theorem reference_sound (cs : List Char) :
    Yields (fun p => (∀ d, p.1 = .char d → isChar d) ∧ p.2.Sublist cs) (reference cs) := by
  unfold reference
  split
  · next rest =>
    refine (referenceNumber?_rest rest).bind fun (n, after) behind => ?_
    refine (word_rest [';'] after).bind fun ((), last) behind' => ?_
    have part : last.Sublist ('#' :: rest) :=
      (behind'.trans behind).trans (List.sublist_cons_self _ _)
    dsimp only
    split
    · next char =>
      refine yields_some ⟨?_, part⟩
      rintro _ ⟨rfl⟩
      exact char
    · exact yields_none
  · refine (plainName_rest cs).bind fun (name, after) behind => ?_
    refine (word_rest [';'] after).bind fun ((), last) behind' => ?_
    have part : last.Sublist cs := behind'.trans behind
    dsimp only
    split
    · next c named =>
      refine yields_some ⟨?_, part⟩
      rintro _ ⟨rfl⟩
      exact named?_char named
    · exact yields_some ⟨nofun, part⟩

theorem pushLineEnd_chars {read : List Char} {c : Char} (before : read.all isChar)
    (char : isChar c) (last : Bool) : (pushLineEnd read c last).all isChar := by
  have shown : isChar (if last && c = '\r' then '\n' else c) := by
    split
    · rfl
    · exact char
  have newline : isChar '\n' := rfl
  unfold pushLineEnd
  dsimp only
  generalize (if last && c = '\r' then '\n' else c) = shows at shown
  split
  · next front =>
    rw [List.all_cons, Bool.and_eq_true] at before
    split <;> simp only [List.all_cons, shown, newline, before.2, Bool.and_self]
  · simp only [List.all_cons, shown, before, Bool.and_self]

theorem lineEnds_chars {read cs : List Char} (before : read.all isChar) (chars : cs.all isChar) :
    (lineEnds read cs).all isChar := by
  induction cs generalizing read with
  | nil => simpa [lineEnds] using before
  | cons c rest ih =>
    rw [List.all_cons, Bool.and_eq_true] at chars
    exact ih (pushLineEnd_chars before chars.1 _) chars.2

theorem textUntilEntity_chars (inside : Bool) (n : Nat) (verbatim : Bool) (read : List Char)
    {cs : List Char} (before : read.all isChar) (chars : cs.all isChar) :
    Yields (fun p => p.1.all isChar ∧ ∀ name rest, p.2 = some (name, rest) → rest.all isChar)
      (textUntilEntity inside n verbatim read cs) := by
  have ends : ∀ read : List Char, read.all isChar →
      Yields (fun p : List Char × Option (List Char × List Char) => p.1.all isChar ∧
        ∀ name rest, p.2 = some (name, rest) → rest.all isChar) (some (read, none)) :=
    fun read before => yields_some ⟨before, nofun⟩
  induction n generalizing verbatim read cs with
  | zero => exact ends read before
  | succ n ih =>
    cases cs with
    | nil => exact ends read before
    | cons c rest =>
      rw [List.all_cons, Bool.and_eq_true] at chars
      unfold textUntilEntity
      split
      · refine ih _ _ ?_ chars.2
        split
        · rw [List.all_cons, chars.1, before, Bool.and_self]
        · exact pushLineEnd_chars before chars.1 _
      · have sound := reference_sound rest
        split
        · exact yields_none
        · next d after referred =>
          obtain ⟨char, part⟩ := sound _ referred
          have left : after.all isChar :=
            List.all_eq_true.mpr fun c mem => List.all_eq_true.mp chars.2 c (part.mem mem)
          split
          · exact ih _ _ (pushLineEnd_chars before (char d rfl) _) left
          · refine ih _ _ ?_ left
            rw [List.all_cons, char d rfl, before, Bool.and_self]
        · next name after referred =>
          obtain ⟨-, part⟩ := sound _ referred
          refine yields_some ⟨before, ?_⟩
          rintro _ _ ⟨rfl⟩
          exact List.all_eq_true.mpr fun c mem => List.all_eq_true.mp chars.2 c (part.mem mem)

theorem declare?_sound {own : Bindings} {a : Attribute} (bound : ∀ p ∈ own, IsBindable p.2) :
    Yields (fun r => (∀ own', r = some own' → ∀ p ∈ own', IsBindable p.2) ∧
      (r = none → a.key.name ≠ "xmlns")) (declare? own a) := by
  have more {name : String} (bindable : IsBindable a.value) :
      ∀ p ∈ own ++ [(name, a.value)], IsBindable p.2 := by
    intro p mem
    rcases List.mem_append.mp mem with old | new
    · exact bound p old
    · rw [List.mem_singleton.mp new]
      exact bindable
  have declares {own' : Bindings} (h : ∀ p ∈ own', IsBindable p.2) :
      Yields (fun r => (∀ own', r = some own' → ∀ p ∈ own', IsBindable p.2) ∧
        (r = none → a.key.name ≠ "xmlns")) (some (some own')) := by
    refine yields_some ⟨?_, nofun⟩
    rintro _ ⟨rfl⟩
    exact h
  unfold declare?
  split
  · split
    · exact yields_none
    · next reserved =>
      split
      · split
        · exact declares bound
        · exact yields_none
      · split
        · exact yields_none
        · next free =>
          rw [Bool.or_eq_true, not_or, decide_eq_true_eq] at free
          exact declares (more ⟨free.1, reserved⟩)
  · split
    · split
      · exact yields_none
      · next free =>
        rw [Bool.or_eq_true, not_or, decide_eq_true_eq, decide_eq_true_eq] at free
        exact declares (more free)
    · next plain => exact yields_some ⟨nofun, fun _ => plain⟩

theorem splitAttributes?_sound {attributes : List Attribute}
    (names : ∀ a ∈ attributes, isLocalName a.key.name) {own : Bindings}
    (bound : ∀ p ∈ own, IsBindable p.2) :
    Yields (fun p => (∀ q ∈ p.1, IsBindable q.2) ∧
      ∀ a ∈ p.2, isLocalName a.key.name ∧ a.key.name ≠ "xmlns")
      (splitAttributes? own attributes) := by
  induction attributes generalizing own with
  | nil => exact yields_some ⟨bound, nofun⟩
  | cons a as ih =>
    rw [List.forall_mem_cons] at names
    have declared := declare?_sound (a := a) bound
    unfold splitAttributes?
    split
    · exact yields_none
    · next own' same => exact ih names.2 ((declared _ same).1 own' rfl)
    · next same =>
      refine (ih names.2 bound).map fun p sound => ⟨sound.1, ?_⟩
      exact List.forall_mem_cons.mpr ⟨⟨names.1, (declared _ same).2 rfl⟩, sound.2⟩

theorem localAttributes?_sound (bindings : Bindings) {attributes : List Attribute}
    (names : ∀ a ∈ attributes, isLocalName a.key.name ∧ a.key.name ≠ "xmlns") :
    Yields SoundAttributes (localAttributes? bindings attributes) := by
  unfold localAttributes?
  refine (yields_true _).bind fun spaces _ => ?_
  dsimp only
  split
  · obtain ⟨keys, among⟩ := entriesOf_spec (attributes.map fun a => (a.key.name, a.value))
    refine yields_some ⟨keys, fun p mem => ?_⟩
    obtain ⟨a, held, rfl⟩ := List.mem_map.mp (among p mem)
    exact names a held
  · exact yields_none

theorem elementSpace?_sound {bindings : Bindings} (bound : ∀ p ∈ bindings, IsBindable p.2)
    (tag : QName) :
    Yields (fun space => ∀ uri, space = some uri → IsBindable uri)
      (elementSpace? bindings tag) := by
  unfold elementSpace?
  split
  · next uri found =>
    refine yields_some ?_
    rintro _ ⟨rfl⟩
    exact bound _ (mem_of_lookup found)
  · split
    · exact yields_some nofun
    · exact yields_none

def Frame.Sound (f : Frame) : Prop := SoundElement f.element ∧ ∀ p ∈ f.bindings, IsBindable p.2

/-- The open elements, the root element and the text since the last tag are sound. -/
structure Building.Sound (b : Building) : Prop where
  frames : ∀ f ∈ b.frames, f.Sound
  root : ∀ e, b.root? = some e → SoundElement e
  text : b.text.toList.all isChar

namespace Building

variable {b : Building} {e : Element}

theorem start_sound : start.Sound := ⟨nofun, nofun, rfl⟩

theorem Sound.bindings (h : b.Sound) : ∀ p ∈ b.bindings, IsBindable p.2 := by
  obtain ⟨frames, root, text, entities, count, tagged⟩ := b
  cases frames with
  | nil => exact nofun
  | cons f fs => exact (h.frames f List.mem_cons_self).2

theorem Sound.addText (h : b.Sound) {s : String} (chars : s.toList.all isChar) :
    (b.addText s).Sound := by
  refine ⟨h.frames, h.root, ?_⟩
  show (b.text ++ s).toList.all isChar
  rw [String.toList_append, List.all_append, h.text, chars, Bool.and_self]

theorem Sound.endText (h : b.Sound) : b.endText.Sound := by
  unfold Building.endText
  split
  · next f fs opened =>
    have frames := h.frames
    rw [opened, List.forall_mem_cons] at frames
    split
    · exact ⟨h.frames, h.root, rfl⟩
    · next shown =>
      have text := frames.1.1.withText ⟨h.text, Bool.eq_false_iff.mpr shown⟩
      exact ⟨List.forall_mem_cons.mpr ⟨⟨text, frames.1.2⟩, frames.2⟩, h.root, rfl⟩
  · exact ⟨h.frames, h.root, rfl⟩

theorem Sound.addElement (h : b.Sound) (sound : SoundElement e) : (b.addElement e).Sound := by
  unfold Building.addElement
  split
  · next f fs opened =>
    have frames := h.frames
    rw [opened, List.forall_mem_cons] at frames
    exact ⟨List.forall_mem_cons.mpr ⟨⟨frames.1.1.withChild sound, frames.1.2⟩, frames.2⟩, h.root,
      h.text⟩
  · refine ⟨h.frames, ?_, h.text⟩
    rintro _ ⟨rfl⟩
    cases root : b.root? with
    | none => exact sound
    | some first => exact h.root first root

theorem Sound.close? (h : b.Sound) (tag : QName) : Yields Sound (b.close? tag) := by
  unfold Building.close?
  split
  · next f fs opened =>
    have frames := h.frames
    rw [opened, List.forall_mem_cons] at frames
    split
    · exact yields_some (Sound.addElement ⟨frames.2, h.root, h.text⟩ frames.1.1)
    · exact yields_none
  · exact yields_none

theorem Sound.values? (h : b.Sound) (depth : Nat) {attributes : List RawAttribute}
    (names : ∀ a ∈ attributes, isLocalName a.key.name) :
    Yields (fun p => (∀ a ∈ p.1, isLocalName a.key.name) ∧ p.2.Sound)
      (b.values? depth attributes) := by
  induction attributes generalizing b with
  | nil => exact yields_some ⟨nofun, h⟩
  | cons a as ih =>
    rw [List.forall_mem_cons] at names
    unfold Building.values?
    refine (yields_true _).bind fun (value, count) _ => ?_
    have counted : Building.Sound { b with count := count } := ⟨h.frames, h.root, h.text⟩
    refine (ih counted names.2).bind fun (values, b) kept => ?_
    exact yields_some ⟨List.forall_mem_cons.mpr ⟨names.1, kept.1⟩, kept.2⟩

theorem bound_nil : ∀ p ∈ ([] : Bindings), IsBindable p.2 := fun _ mem => nomatch mem

theorem Sound.element? (h : b.Sound) {tag : QName} (name : isLocalName tag.name)
    {attributes : List Attribute} (names : ∀ a ∈ attributes, isLocalName a.key.name) :
    Yields (fun p => SoundElement p.1 ∧ ∀ q ∈ p.2, IsBindable q.2) (b.element? tag attributes) := by
  unfold Building.element?
  split
  · exact yields_none
  · refine (splitAttributes?_sound names bound_nil).bind fun (own, attributes) split => ?_
    have bound : ∀ q ∈ own ++ b.bindings, IsBindable q.2 := fun q mem =>
      (List.mem_append.mp mem).elim (split.1 q) (h.bindings q)
    refine (localAttributes?_sound _ split.2).bind fun entries sound => ?_
    refine (elementSpace?_sound bound tag).bind fun space bindable => ?_
    exact yields_some ⟨⟨name, bindable, sound, trivial⟩, bound⟩

end Building

section
variable {expand : List Char → Building → Option Building}
  (expands : ∀ text b, b.Sound → Yields Building.Sound (expand text b))
include expands

theorem addRun_sound (inside : Bool) (n : Nat) {raw : List Char} (chars : raw.all isChar)
    {b : Building} (h : b.Sound) : Yields Building.Sound (addRun expand inside n raw b) := by
  induction n generalizing raw b with
  | zero => exact yields_some h
  | succ n ih =>
    have scanned := textUntilEntity_chars inside raw.length false [] rfl chars
    unfold addRun
    split
    · exact yields_none
    · next read following same =>
      obtain ⟨before, behind⟩ := scanned _ same
      have added : (b.addText (String.ofList read.reverse)).Sound := by
        apply h.addText
        rw [String.toList_ofList, List.all_reverse]
        exact before
      dsimp only
      split
      · exact yields_some added
      · next name rest =>
        split
        · split
          · exact yields_none
          · next text count _ _ _ b' expanded =>
            have sound : b'.Sound :=
              expands text _ (by exact ⟨added.frames, added.root, added.text⟩) b' expanded
            exact ih (behind name rest rfl) ⟨sound.frames, sound.root, sound.text⟩
        · exact yields_none

theorem addToken_sound (depth : Nat) {b : Building} (h : b.Sound) {t : Token} (sound : t.Sound) :
    Yields Building.Sound (addToken expand depth b t) := by
  cases t with
  | aside => exact yields_some h.endText
  | entity name value => exact yields_some ⟨h.frames, h.root, h.text⟩
  | text raw => exact addRun_sound expands _ _ sound h
  | cdata raw =>
    refine yields_some (h.addText ?_)
    rw [String.toList_ofList]
    exact lineEnds_chars rfl sound
  | empty tag attributes =>
    refine (h.endText.values? depth sound.2).bind fun (attributes, b) kept => ?_
    refine (kept.2.element? sound.1 kept.1).bind fun (e, bindings) made => ?_
    have added := kept.2.addElement made.1
    exact yields_some ⟨added.frames, added.root, added.text⟩
  | start tag attributes =>
    refine (h.endText.values? depth sound.2).bind fun (attributes, b) kept => ?_
    refine (kept.2.element? sound.1 kept.1).bind fun (e, bindings) made => ?_
    exact yields_some ⟨List.forall_mem_cons.mpr ⟨made, kept.2.frames⟩, kept.2.root, kept.2.text⟩
  | close tag =>
    rw [addToken]
    split
    · exact h.endText.close? _
    · exact yields_none

theorem addTokens_sound (depth : Nat) {ts : List Token} (sound : ∀ t ∈ ts, t.Sound)
    {b : Building} (h : b.Sound) : Yields Building.Sound (addTokens expand depth b ts) := by
  induction ts generalizing b with
  | nil => exact yields_some h
  | cons t ts ih =>
    rw [List.forall_mem_cons] at sound
    unfold addTokens
    split
    · next b' added => exact ih sound.2 (addToken_sound expands depth h sound.1 b' added)
    · exact yields_none

end

theorem addEntity_sound (depth : Nat) (text : List Char) (b : Building) (h : b.Sound) :
    Yields Building.Sound (addEntity depth text b) := by
  induction depth generalizing text b with
  | zero => exact yields_none
  | succ depth ih =>
    unfold addEntity
    exact (contentTokens?_sound text).bind fun ts sound => addTokens_sound ih depth sound h

theorem rootOf?_sound {ts : List Token} (sound : ∀ t ∈ ts, t.Sound) :
    Yields SoundElement (rootOf? ts) := by
  unfold rootOf?
  split
  · next b added =>
    split
    · exact (addTokens_sound (addEntity_sound _) _ sound Building.start_sound b added).root
    · exact yields_none
  · exact yields_none

theorem read?_sound (typed : Bool) (text : String) : Yields SoundElement (read? typed text) := by
  unfold read?
  exact (tokens?_sound typed text).bind fun ts sound => rootOf?_sound sound

theorem read?_local (typed : Bool) (text : String) :
    Yields (fun e => isLocalName e.name) (read? typed text) :=
  fun e read => (read?_sound typed text e read).name

end DocPath.Xml
