import DocPath.Proofs.Xml.Names

/-!
The parts of strict markup that scanning gives. Tags that open elements have local names, and so
have their attributes; text between tags holds only characters that documents may contain.
-/

namespace DocPath.Xml

theorem charsUntil_chars (stop : List Char → Bool) (cs : List Char) :
    Yields (fun p => p.1.all isChar) (charsUntil stop cs) := by
  induction cs with
  | nil => exact yields_some rfl
  | cons c rest ih =>
    unfold charsUntil
    split
    · exact yields_none
    · next allowed =>
      split
      · exact yields_some rfl
      · refine ih.map fun p chars => ?_
        rw [List.all_cons, chars, Bool.and_true]
        simpa using allowed

/-- Tags that open elements have local names, as have their attributes, and text holds only
characters that documents may contain. -/
def Token.Sound : Token → Prop
  | .start tag attributes | .empty tag attributes =>
    isLocalName tag.name ∧ ∀ a ∈ attributes, isLocalName a.key.name
  | .text raw | .cdata raw => raw.all isChar
  | _ => True

def Sound (p : List Token × List Char) : Prop := ∀ t ∈ p.1, t.Sound

theorem sound_nil (cs : List Char) : Sound ([], cs) := fun _ mem => nomatch mem

theorem Sound.cons {t : Token} {ts : List Token} {cs : List Char} (first : t.Sound)
    (rest : Sound (ts, cs)) : Sound (t :: ts, cs) := by
  rintro u (_ | ⟨_, mem⟩)
  · exact first
  · exact rest u mem

theorem Sound.append {ts us : List Token} {cs ds : List Char} (first : Sound (ts, cs))
    (rest : Sound (us, ds)) : Sound (ts ++ us, ds) := by
  intro t mem
  rcases List.mem_append.mp mem with front | behind
  · exact first t front
  · exact rest t behind

theorem comment_sound (cs : List Char) : Yields (fun p => p.1.Sound) (comment cs) := by
  unfold comment
  refine (yields_true _).bind fun (body, rest) _ => (yields_true _).bind fun ((), rest) _ => ?_
  dsimp only
  split
  · exact yields_none
  · exact yields_some trivial

theorem instruction_sound (cs : List Char) : Yields (fun p => p.1.Sound) (instruction cs) := by
  unfold instruction
  split
  · exact yields_none
  · refine (yields_true _).bind fun (name, rest) _ => (yields_true _).bind fun (body, rest) _ => ?_
    exact (yields_true _).bind fun ((), rest) _ => yields_some trivial

theorem literalText_sound (cs : List Char) : Yields (fun p => p.1.Sound) (literalText cs) := by
  unfold literalText
  refine (charsUntil_chars _ _).bind fun (body, rest) chars => ?_
  exact (yields_true _).bind fun ((), rest) _ => yields_some chars

theorem endTag_sound (cs : List Char) : Yields (fun p => p.1.Sound) (endTag cs) := by
  unfold endTag
  refine (yields_true _).bind fun (tag, rest) _ => (yields_true _).bind fun ((), rest) _ => ?_
  exact yields_some trivial

theorem plainText_sound (cs : List Char) : Yields (fun p => p.1.Sound) (plainText cs) := by
  unfold plainText
  refine (charsUntil_chars _ _).bind fun (body, rest) chars => ?_
  dsimp only
  split
  · exact yields_none
  · exact yields_some chars

theorem rawAttribute_local (cs : List Char) :
    Yields (fun p => isLocalName p.1.key.name) (rawAttribute cs) := by
  unfold rawAttribute
  refine (qualifiedName_local _).bind fun (key, rest) name => (yields_true _).bind fun _ _ => ?_
  exact (yields_true _).bind fun _ _ => yields_some name

theorem tagRest_local (n : Nat) (cs : List Char) :
    Yields (fun p => ∀ a ∈ p.1.1, isLocalName a.key.name) (tagRest n cs) := by
  induction n generalizing cs with
  | zero => exact yields_none
  | succ n ih =>
    cases cs with
    | nil => exact yields_some fun a mem => nomatch mem
    | cons c cs =>
      unfold tagRest
      split
      · exact yields_some fun a mem => nomatch mem
      · exact yields_some fun a mem => nomatch mem
      · split
        · exact yields_none
        · refine (rawAttribute_local _).bind fun (a, rest) name => ?_
          refine (ih rest).bind fun ((as, ending), rest) names => ?_
          exact yields_some (List.forall_mem_cons.mpr ⟨name, names⟩)

theorem startTag_local (cs : List Char) :
    Yields (fun p => isLocalName p.1.1.name ∧ ∀ a ∈ p.1.2.1, isLocalName a.key.name)
      (startTag cs) := by
  unfold startTag
  refine (qualifiedName_local _).bind fun (tag, rest) name => ?_
  exact (tagRest_local _ _).bind fun ((attributes, ending), rest) names =>
    yields_some ⟨name, names⟩

theorem following_sound {part : Option (Token × List Char)} {more : Scan (List Token)}
    (first : Yields (fun p => p.1.Sound) part) (rest : ∀ cs, Yields Sound (more cs)) :
    Yields Sound (do
      let (token, cs) ← part
      let (tokens, cs) ← more cs
      some (token :: tokens, cs)) :=
  first.bind fun (_, cs) sound => (rest cs).bind fun (_, _) behind =>
    yields_some (.cons sound behind)

theorem content_sound (n depth : Nat) (cs : List Char) : Yields Sound (content n depth cs) := by
  induction n generalizing depth cs with
  | zero => exact yields_some (sound_nil _)
  | succ n ih =>
    have before {t : Token} (sound : t.Sound) (depth : Nat) (cs : List Char) :
        Yields Sound (do
          let (tokens, rest) ← content n depth cs
          some (t :: tokens, rest)) :=
      (ih depth cs).bind fun (tokens, rest) more => yields_some (.cons sound more)
    unfold content
    split
    · exact yields_some (sound_nil _)
    · dsimp only
      split
      · exact following_sound (comment_sound _) (ih depth)
      · split
        · exact following_sound (literalText_sound _) (ih depth)
        · exact yields_none
    · exact following_sound (instruction_sound _) (ih depth)
    · refine (endTag_sound _).bind fun (token, rest) sound => ?_
      dsimp only
      split
      · exact yields_some (.cons sound (sound_nil _))
      · exact before sound _ rest
    · exact yields_none
    · refine (startTag_local _).bind fun ((tag, attributes, ending), rest) sound => ?_
      cases ending with
      | cut => exact yields_some (sound_nil _)
      | closed => exact before (t := .empty tag attributes) sound depth rest
      | opened => exact before (t := .start tag attributes) sound (depth + 1) rest
    · exact following_sound (plainText_sound _) (ih depth)

theorem contentTokens?_sound (cs : List Char) :
    Yields (fun ts => ∀ t ∈ ts, t.Sound) (contentTokens? cs) := by
  unfold contentTokens?
  exact (content_sound _ 0 cs).map fun p sound => sound

theorem rootTokens_sound (cs : List Char) : Yields Sound (rootTokens cs) := by
  unfold rootTokens
  refine (startTag_local cs).bind fun ((tag, attributes, ending), rest) sound => ?_
  cases ending with
  | cut => exact yields_some (sound_nil _)
  | closed => exact yields_some (.cons (t := .empty tag attributes) sound (sound_nil _))
  | opened =>
    refine (content_sound _ 0 rest).bind fun (tokens, rest) inside => ?_
    exact yields_some (.cons (t := .start tag attributes) sound inside)

theorem asides_sound (n : Nat) (cs : List Char) : Yields Sound (asides n cs) := by
  induction n generalizing cs with
  | zero => exact yields_some (sound_nil _)
  | succ n ih =>
    unfold asides
    dsimp only
    split
    · exact following_sound (comment_sound _) ih
    · split
      · exact following_sound (instruction_sound _) ih
      · exact yields_some (sound_nil _)

theorem entityDeclaration_sound (cs : List Char) : Yields Sound (entityDeclaration cs) := by
  unfold entityDeclaration
  refine (yields_true _).bind fun _ _ => ?_
  dsimp only
  split
  all_goals
    refine (yields_true _).bind fun _ _ => (yields_true _).bind fun name _ => ?_
    refine (yields_true _).bind fun _ _ => (yields_true _).bind fun _ _ => ?_
    refine (yields_true _).bind fun _ _ => ?_
    split
    · next value _ => exact yields_some (.cons (t := .entity name.1 value) trivial (sound_nil _))
    · exact yields_some (sound_nil _)

theorem typeBody_sound (n : Nat) (cs : List Char) : Yields Sound (typeBody n cs) := by
  induction n generalizing cs with
  | zero => exact yields_some (sound_nil _)
  | succ n ih =>
    have following {part : Option (List Token × List Char)} (h : Yields Sound part) :
        Yields Sound (do
          let (tokens, rest) ← part
          let (more, rest) ← typeBody n rest
          some (tokens ++ more, rest)) :=
      h.bind fun (tokens, rest) sound => (ih rest).bind fun (more, rest) sound' =>
        yields_some (sound.append sound')
    have one {part : Option (Token × List Char)} (h : Yields (fun p => p.1.Sound) part) :
        Yields Sound (part.map fun p => ([p.1], p.2)) :=
      h.map fun p sound => .cons sound (sound_nil p.2)
    unfold typeBody
    dsimp only
    split
    · exact yields_some (sound_nil _)
    · split
      · exact following (entityDeclaration_sound _)
      · split
        · exact following (one (comment_sound _))
        · split
          · exact following (one (instruction_sound _))
          · split
            · exact (yields_true _).map fun p _ => sound_nil p.2
            · split
              · split
                · exact following (yields_some (sound_nil _))
                · exact yields_none
              · exact yields_none

theorem documentType_sound (cs : List Char) : Yields Sound (documentType cs) := by
  unfold documentType
  refine (yields_true _).bind fun _ _ => (yields_true _).bind fun _ _ => ?_
  dsimp only
  split
  all_goals
    refine (yields_true _).bind fun _ _ => ?_
    split
    · exact yields_some (sound_nil _)
    · exact typeBody_sound _ _
    · exact yields_none

theorem rootAfter_sound {before : List Token × List Char} (front : Sound before) (n : Nat) :
    Yields (fun ts => ∀ t ∈ ts, t.Sound) (do
      let (root, cs) ← if startsWith "<" before.2 then rootTokens before.2 else some ([], before.2)
      let (after, cs) ← asides n cs
      if cs.isEmpty then some (before.1 ++ root ++ after) else none) := by
  have ending {root : List Token × List Char} (h : Sound root) :
      Yields (fun ts => ∀ t ∈ ts, t.Sound) (do
        let (after, cs) ← asides n root.2
        if cs.isEmpty then some (before.1 ++ root.1 ++ after) else none) := by
    refine (asides_sound n root.2).bind fun (after, cs) behind => ?_
    dsimp only
    split
    · exact yields_some ((front.append h).append behind)
    · exact yields_none
  dsimp only
  split
  · exact (rootTokens_sound _).bind fun root sound => ending sound
  · exact ending (sound_nil _)

theorem tokens?_sound (typed : Bool) (text : String) :
    Yields (fun ts => ∀ t ∈ ts, t.Sound) (tokens? typed text) := by
  have types {before : List Token × List Char} (front : Sound before) (n : Nat) :
      Yields (fun ts => ∀ t ∈ ts, t.Sound) (do
        let (types, cs) ←
          if startsWith "<!DOCTYPE" before.2 then
            if typed then do
              let (types, cs) ← documentType before.2
              let (more, cs) ← asides n cs
              some (types ++ more, cs)
            else none
          else some ([], before.2)
        let (root, cs) ← if startsWith "<" cs then rootTokens cs else some ([], cs)
        let (after, cs) ← asides n cs
        if cs.isEmpty then some (before.1 ++ types ++ root ++ after) else none) := by
    dsimp only
    split
    · split
      · refine (documentType_sound _).bind fun (types, cs) inside => ?_
        refine (asides_sound n cs).bind fun (more, cs) behind => ?_
        have whole : Sound (before.1 ++ (types ++ more), cs) :=
          front.append (inside.append behind)
        exact rootAfter_sound whole n
      · exact yields_none
    · exact rootAfter_sound (front.append (sound_nil before.2)) n
  unfold tokens?
  dsimp only
  split
  all_goals
    split
    · refine (yields_true _).bind fun ((), rest) _ => (asides_sound _ rest).bind fun p front => ?_
      exact types front _
    · exact (asides_sound _ _).bind fun p front => types front _

end DocPath.Xml
