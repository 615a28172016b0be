import Mathlib.Data.List.TakeWhile
import DocPath.Markup.Basic
import DocPath.Proofs.Xml.Sound

/-!
Scanning an element that was written on one line: its parts come back as they were written, unless
an attribute holds a character that documents may not contain.
-/

namespace DocPath.Xml

open Markup

theorem escape_plain {c : Char} (left : c ≠ '<') (right : c ≠ '>') (amp : c ≠ '&')
    (apos : c ≠ '\'') (quot : c ≠ '"') : escape c = [c] := by
  simp only [escape, left, right, amp, apos, quot, if_false]

theorem mem_escape {c d : Char} (mem : d ∈ escape c) : d ≠ '<' ∧ d ≠ '>' ∧ d ≠ '"' := by
  have references : ["&lt;", "&gt;", "&amp;", "&apos;", "&quot;"].all fun w =>
      w.toList.all fun d => d != '<' && d != '>' && d != '"' := rfl
  simp only [List.all_eq_true, Bool.and_eq_true, bne_iff_ne, and_assoc] at references
  unfold escape at mem
  split at mem
  · exact references "&lt;" (by simp) d mem
  split at mem
  · exact references "&gt;" (by simp) d mem
  split at mem
  · exact references "&amp;" (by simp) d mem
  split at mem
  · exact references "&apos;" (by simp) d mem
  split at mem
  · exact references "&quot;" (by simp) d mem
  · next left right _ _ quot =>
    rw [List.mem_singleton] at mem
    subst mem
    exact ⟨left, right, quot⟩

theorem mem_escapeText {s : String} {d : Char} (mem : d ∈ escapeText s) :
    d ≠ '<' ∧ d ≠ '>' ∧ d ≠ '"' := by
  obtain ⟨c, -, mem⟩ := List.mem_flatMap.mp mem
  exact mem_escape mem

theorem all_escapeText (s : String) : (escapeText s).all isChar = s.toList.all isChar := by
  have one (c : Char) : (escape c).all isChar = isChar c := by
    unfold escape
    split_ifs <;> simp_all <;> decide
  unfold escapeText
  induction s.toList with
  | nil => rfl
  | cons c cs ih => rw [List.flatMap_cons, List.all_append, List.all_cons, one, ih]

theorem charsUntil_append (stop : List Char → Bool) (body : List Char) (c : Char)
    (rest : List Char) (on : ∀ d ∈ body, ∀ cs, stop (d :: cs) = false) (ends : stop (c :: rest))
    (char : isChar c) :
    charsUntil stop (body ++ c :: rest) =
      if body.all isChar then some (body, c :: rest) else none := by
  induction body with
  | nil => simp [charsUntil, ends, char]
  | cons d body ih =>
    rw [List.forall_mem_cons] at on
    rw [List.cons_append, charsUntil, on.1, ih on.2]
    by_cases allowed : isChar d
    · by_cases chars : body.all isChar <;> simp [allowed, chars]
    · simp [allowed]

theorem qualifiedName_append {name : String} (h : isLocalName name) {c : Char}
    (other : isNameChar c = false) (rest : List Char) :
    qualifiedName (name.toList ++ c :: rest) = some (⟨"", name⟩, c :: rest) := by
  obtain ⟨d, ds, text, start, chars⟩ := isLocalName_parts h
  rw [← text] at chars
  have starts : startsName name.toList := by simpa [startsName, text] using start
  have full : name.toList ≠ [] := by simp [text]
  have word : (name.toList ++ c :: rest).takeWhile isNameChar = name.toList := by
    rw [List.takeWhile_append_of_pos fun d mem => (chars d mem).1]
    simp [other]
  have behind : (name.toList ++ c :: rest).dropWhile isNameChar = c :: rest := by
    rw [List.dropWhile_append_of_pos fun d mem => (chars d mem).1]
    simp [other]
  have plain : ∀ d ∈ name.toList, (d != ':') = true := fun d mem => by simpa using (chars d mem).2
  have before : name.toList.takeWhile (· != ':') = name.toList :=
    List.takeWhile_eq_self_iff.mpr plain
  have after : name.toList.dropWhile (· != ':') = [] := List.dropWhile_eq_nil_iff.mpr plain
  simp [qualifiedName, word, behind, before, after, full, starts]

def writtenAttribute (p : String × String) : RawAttribute := ⟨⟨"", p.1⟩, escapeText p.2⟩

def isClean (p : String × String) : Bool := p.2.toList.all isChar

theorem startsWith_angle (d : Char) (cs : List Char) :
    startsWith "<" (d :: cs) = decide (d = '<') := by
  show ('<' == d && true) = decide (d = '<')
  rw [Bool.and_true, Bool.eq_iff_iff, beq_iff_eq, decide_eq_true_eq, eq_comm]

theorem attributeValue_append (s : String) (rest : List Char) :
    attributeValue ('"' :: (escapeText s ++ '"' :: rest)) =
      if s.toList.all isChar then some (escapeText s, rest) else none := by
  have body := charsUntil_append (fun cs => cs.head? = some '"' || startsWith "<" cs)
    (escapeText s) '"' rest
    (fun d mem cs => by
      obtain ⟨left, -, quot⟩ := mem_escapeText mem
      simp [startsWith_angle, left, quot])
    rfl rfl
  have mark : quotationMark ('"' :: (escapeText s ++ '"' :: rest)) =
      some ('"', escapeText s ++ '"' :: rest) := rfl
  rw [all_escapeText] at body
  simp only [attributeValue, mark, body, bind, Option.bind]
  by_cases chars : s.toList.all isChar
  · simp [chars, Scan.word]
  · simp [chars]

theorem rawAttribute_append {p : String × String} (name : isLocalName p.1) (rest : List Char) :
    rawAttribute (p.1.toList ++ '=' :: '"' :: (escapeText p.2 ++ '"' :: rest)) =
      if isClean p then some (writtenAttribute p, rest) else none := by
  have key (rest : List Char) : qualifiedName (p.1.toList ++ '=' :: rest) =
      some (⟨"", p.1⟩, '=' :: rest) := qualifiedName_append name rfl rest
  have equals (rest : List Char) : equalsSign ('=' :: '"' :: rest) = some ((), '"' :: rest) := rfl
  simp only [rawAttribute, key, equals, attributeValue_append, bind, Option.bind, isClean]
  by_cases chars : p.2.toList.all isChar
  · simp [chars, writtenAttribute]
  · simp [chars]

theorem tagRest_attribute {c : Char} (start : isNameStart c) (n : Nat) (cs : List Char) :
    tagRest (n + 1) (' ' :: c :: cs) = (do
      let (a, rest) ← rawAttribute (c :: cs)
      let ((as, ending), rest) ← tagRest n rest
      some ((a :: as, ending), rest)) := by
  have shows : isBlank c = false := by
    rw [Bool.eq_false_iff]
    intro blank
    simp only [isBlank, Bool.or_eq_true, decide_eq_true_eq] at blank
    rcases blank with ((rfl | rfl) | rfl) | rfl <;> exact absurd start (by decide)
  have behind : skipBlanks (' ' :: c :: cs) = c :: cs := by
    rw [skipBlanks, List.dropWhile_cons_of_pos rfl, List.dropWhile_cons_of_neg (by simp [shows])]
  rw [tagRest, behind]
  split
  · next same => cases same; exact absurd start (by decide)
  · next same => cases same; exact absurd start (by decide)
  · rfl

theorem tagRest_append {attributes : List (String × String)}
    (names : ∀ p ∈ attributes, isLocalName p.1)
    {ending : TagEnd} {tail rest : List Char}
    (last : ∀ n, tagRest (n + 1) tail = some (([], ending), rest)) {n : Nat}
    (fuel : attributes.length < n) :
    tagRest n (attributes.flatMap attributeChars ++ tail) =
      if attributes.all isClean then some ((attributes.map writtenAttribute, ending), rest)
      else none := by
  induction attributes generalizing n with
  | nil =>
    obtain ⟨n, rfl⟩ := Nat.exists_eq_succ_of_ne_zero (Nat.ne_of_gt fuel)
    exact last n
  | cons p attributes ih =>
    rw [List.forall_mem_cons] at names
    obtain ⟨n, rfl⟩ := Nat.exists_eq_succ_of_ne_zero (Nat.ne_zero_of_lt fuel)
    obtain ⟨c, cs, text, start, -⟩ := isLocalName_parts names.1
    have chars : (p :: attributes).flatMap attributeChars ++ tail =
        ' ' :: (p.1.toList ++ '=' :: '"' :: (escapeText p.2 ++ '"' ::
          (attributes.flatMap attributeChars ++ tail))) := by
      simp [attributeChars]
    have first := rawAttribute_append names.1 (attributes.flatMap attributeChars ++ tail)
    have others := ih names.2 (Nat.lt_of_succ_lt_succ fuel)
    rw [chars, text, List.cons_append, tagRest_attribute start, ← List.cons_append, ← text, first]
    by_cases clean : isClean p
    · by_cases rest : attributes.all isClean <;> simp [clean, rest, others]
    · simp [clean]

theorem length_attributeChars (attributes : List (String × String)) :
    attributes.length ≤ (attributes.flatMap attributeChars).length := by
  induction attributes with
  | nil => exact Nat.le_refl 0
  | cons p attributes ih =>
    rw [List.flatMap_cons, List.length_append, List.length_cons, attributeChars, List.length_cons]
    omega

theorem startTag_append {name : String} (plain : isLocalName name)
    {attributes : List (String × String)} (names : ∀ p ∈ attributes, isLocalName p.1)
    {ending : TagEnd} (c : Char) (tail : List Char) {rest : List Char}
    (other : isNameChar c = false)
    (last : ∀ n, tagRest (n + 1) (c :: tail) = some (([], ending), rest)) :
    startTag ('<' :: (name.toList ++ (attributes.flatMap attributeChars ++ c :: tail))) =
      if attributes.all isClean then
        some ((⟨"", name⟩, attributes.map writtenAttribute, ending), rest)
      else none := by
  have tag : qualifiedName (name.toList ++ (attributes.flatMap attributeChars ++ c :: tail)) =
      some (⟨"", name⟩, attributes.flatMap attributeChars ++ c :: tail) := by
    cases attributes with
    | nil => exact qualifiedName_append plain other tail
    | cons p attributes =>
      rw [List.flatMap_cons, List.append_assoc]
      exact qualifiedName_append plain rfl _
  have long : attributes.length < (attributes.flatMap attributeChars ++ c :: tail).length + 1 := by
    have chars := length_attributeChars attributes
    rw [List.length_append]
    omega
  have inside := tagRest_append names last long
  simp only [startTag, List.drop_succ_cons, List.drop_zero, tag, bind, Option.bind, inside]
  by_cases clean : attributes.all isClean <;> simp [clean]

def inFront (ts : List Token) (o : Option (List Token × List Char)) :
    Option (List Token × List Char) :=
  o.map fun p => (ts ++ p.1, p.2)

theorem inFront_inFront (ts us : List Token) (o : Option (List Token × List Char)) :
    inFront ts (inFront us o) = inFront (ts ++ us) o := by
  simp [inFront, Function.comp_def]

theorem inFront_if (ts us : List Token) (clean : Bool) (o : Option (List Token × List Char)) :
    inFront ts (if clean then inFront us o else none) =
      if clean then inFront (ts ++ us) o else none := by
  cases clean with
  | true => exact inFront_inFront ts us o
  | false => rfl

@[simp] theorem inFront_nil (o : Option (List Token × List Char)) : inFront [] o = o := by
  cases o <;> rfl

theorem content_start {c : Char} (start : isNameStart c) (n depth : Nat) (cs : List Char) :
    content (n + 1) depth ('<' :: c :: cs) = (startTag ('<' :: c :: cs)).bind fun p =>
      match p.1.2.2 with
      | .cut => some ([], [])
      | .closed => inFront [.empty p.1.1 p.1.2.1] (content n depth p.2)
      | .opened => inFront [.start p.1.1 p.1.2.1] (content n (depth + 1) p.2) := by
  rw [content]
  · cases startTag ('<' :: c :: cs) with
    | none => rfl
    | some p =>
      obtain ⟨⟨tag, attributes, ending⟩, rest⟩ := p
      cases ending with
      | cut => rfl
      | closed =>
        simp only [bind, Option.bind]
        cases content n depth rest <;> rfl
      | opened =>
        simp only [bind, Option.bind]
        cases content n (depth + 1) rest <;> rfl
  -- The text starts with none of the other marks.
  · rintro tail ⟨⟩
    exact absurd start (by decide)
  · rintro tail ⟨⟩
    exact absurd start (by decide)
  · rintro tail ⟨⟩
    exact absurd start (by decide)
  · rintro ⟨⟩

theorem content_close {name : String} (plain : isLocalName name) (n depth : Nat)
    (rest : List Char) :
    content (n + 1) depth ('<' :: '/' :: (name.toList ++ '>' :: rest)) =
      match depth with
      | 0 => some ([.close ⟨"", name⟩], rest)
      | depth + 1 => inFront [.close ⟨"", name⟩] (content n depth rest) := by
  have tag := qualifiedName_append plain (c := '>') rfl rest
  have closes : endTag ('<' :: '/' :: (name.toList ++ '>' :: rest)) =
      some (.close ⟨"", name⟩, rest) := by
    simp only [endTag, List.drop_succ_cons, List.drop_zero, tag, bind, Option.bind]
    rfl
  rw [content]
  simp only [closes, bind, Option.bind]
  cases depth with
  | zero => rfl
  | succ depth =>
    dsimp only
    cases content n depth rest <;> rfl

theorem hasInfix_false {w cs : List Char} {c : Char} (mem : c ∈ w) (out : c ∉ cs) :
    hasInfix w cs = false := by
  induction cs with
  | nil =>
    cases w with
    | nil => cases mem
    | cons => rfl
  | cons d cs ih =>
    have here : w.isPrefixOf (d :: cs) = false := by
      rw [Bool.eq_false_iff, Ne, List.isPrefixOf_iff_prefix]
      exact fun front => out (front.subset mem)
    rw [hasInfix, here, ih fun later => out (List.mem_cons_of_mem d later), Bool.or_self]

theorem escapeText_cons {s : String} (shown : IsShown s) : ∃ c cs, escapeText s = c :: cs := by
  have full : s.toList ≠ [] := by
    intro none
    have blank := shown.2
    rw [none] at blank
    cases blank
  obtain ⟨c, cs, text⟩ := List.exists_cons_of_ne_nil full
  have written : escape c ≠ [] := by
    unfold escape
    split_ifs <;> exact List.cons_ne_nil _ _
  obtain ⟨d, ds, first⟩ := List.exists_cons_of_ne_nil written
  refine ⟨d, ds ++ cs.flatMap escape, ?_⟩
  rw [escapeText, text, List.flatMap_cons, first, List.cons_append]

theorem content_text {s : String} (shown : IsShown s) (n depth : Nat) (rest : List Char) :
    content (n + 1) depth (escapeText s ++ '<' :: rest) =
      inFront [.text (escapeText s)] (content n depth ('<' :: rest)) := by
  have body := charsUntil_append (startsWith "<") (escapeText s) '<' rest
    (fun d mem cs => by simp [startsWith_angle, (mem_escapeText mem).1]) rfl rfl
  rw [all_escapeText, shown.1, if_pos rfl] at body
  have noEnd : hasInfix "]]>".toList (escapeText s) = false :=
    hasInfix_false (c := '>') (by decide) fun mem => (mem_escapeText mem).2.1 rfl
  have scanned : plainText (escapeText s ++ '<' :: rest) =
      some (.text (escapeText s), '<' :: rest) := by
    simp only [plainText, body, bind, Option.bind, noEnd]
    rfl
  obtain ⟨c, cs, text⟩ := escapeText_cons shown
  have other : c ≠ '<' := (mem_escapeText (text ▸ List.mem_cons_self)).1
  rw [text, List.cons_append] at scanned ⊢
  rw [content]
  · simp only [scanned, bind, Option.bind]
    cases content n depth ('<' :: rest) <;> rfl
  all_goals
    intros
    simp_all

mutual
def elementTokens (around : Option String) : Element → List Token
  | .mk name space attributes children =>
    let written := (tagAttributes around (.mk name space attributes [])).map writtenAttribute
    if children.isEmpty then [.empty ⟨"", name⟩ written]
    else .start ⟨"", name⟩ written :: (childTokens space children ++ [.close ⟨"", name⟩])
def childTokens (around : Option String) : List Child → List Token
  | [] => []
  | .text s :: cs => .text (escapeText s) :: childTokens around cs
  | .element e :: cs => elementTokens around e ++ childTokens around cs
end

mutual
def isCleanElement (around : Option String) : Element → Bool
  | .mk name space attributes children =>
    (tagAttributes around (.mk name space attributes [])).all isClean &&
      areCleanChildren space children
def areCleanChildren (around : Option String) : List Child → Bool
  | [] => true
  | .text _ :: cs => areCleanChildren around cs
  | .element e :: cs => isCleanElement around e && areCleanChildren around cs
end

section
variable (around space : Option String) (name : String) {attributes : List (String × String)}
  (children : List Child)

/-- A tag declares the namespace of its element, unless there is none or it is the one around. -/
theorem tagAttributes_cases (attributes : List (String × String)) :
    tagAttributes around (.mk name space attributes children) = attributes ∧
        (space = none ∨ space = around) ∨
      ∃ uri, space = some uri ∧ space ≠ around ∧
        tagAttributes around (.mk name space attributes children) = ("xmlns", uri) :: attributes := by
  cases space with
  | none => exact .inl ⟨rfl, .inl rfl⟩
  | some uri =>
    unfold tagAttributes
    simp only [Element.space, Element.attributes]
    split
    · next same => exact .inl ⟨rfl, .inr same.symm⟩
    · next other => exact .inr ⟨uri, rfl, Ne.symm other, rfl⟩

theorem tagAttributes_local (sound : SoundAttributes attributes) :
    ∀ p ∈ tagAttributes around (.mk name space attributes []), isLocalName p.1 := by
  have own : ∀ p ∈ attributes, isLocalName p.1 := fun p mem => (sound.names p mem).1
  obtain ⟨written, -⟩ | ⟨uri, -, -, written⟩ := tagAttributes_cases around space name [] attributes
  · rwa [written]
  · rw [written]
    exact List.forall_mem_cons.mpr ⟨(rfl : isLocalName "xmlns" = true), own⟩

theorem elementChars_compact (depth : Nat) (broken : Bool) :
    elementChars .compact depth broken around (.mk name space attributes children) =
      '<' :: (name.toList ++
        ((tagAttributes around (.mk name space attributes [])).flatMap attributeChars ++
          if children.isEmpty then ['/', '>']
          else '>' :: (childChars .compact (depth + 1) true space children ++
            '<' :: '/' :: (name.toList ++ ['>'])))) := by
  simp [elementChars, beforeTag]

theorem childChars_tag (sound : SoundChildren true children) (depth : Nat) (broken : Bool)
    (rest : List Char) :
    ∃ tail, childChars .compact depth broken around children ++ '<' :: rest = '<' :: tail := by
  cases children with
  | nil => exact ⟨rest, rfl⟩
  | cons c cs =>
    cases c with
    | text s => cases sound.1
    | element e =>
      obtain ⟨name, space, attributes, children⟩ := e
      rw [childChars, elementChars_compact]
      exact ⟨_, rfl⟩

end

theorem content_tag {name : String} (plain : isLocalName name)
    {attributes : List (String × String)} (names : ∀ p ∈ attributes, isLocalName p.1)
    {ending : TagEnd} (c : Char) (tail : List Char) {rest : List Char}
    (other : isNameChar c = false)
    (last : ∀ n, tagRest (n + 1) (c :: tail) = some (([], ending), rest)) (n d : Nat) :
    content (n + 1) d ('<' :: (name.toList ++ (attributes.flatMap attributeChars ++ c :: tail))) =
      if attributes.all isClean then
        match ending with
        | .cut => some ([], [])
        | .closed =>
          inFront [.empty ⟨"", name⟩ (attributes.map writtenAttribute)] (content n d rest)
        | .opened =>
          inFront [.start ⟨"", name⟩ (attributes.map writtenAttribute)] (content n (d + 1) rest)
      else none := by
  have tag := startTag_append plain names c tail other last
  obtain ⟨letter, letters, text, start, -⟩ := isLocalName_parts plain
  rw [text, List.cons_append] at tag ⊢
  rw [content_start start, tag]
  by_cases clean : attributes.all isClean
  · rw [if_pos clean, if_pos clean]
    rfl
  · rw [if_neg clean, if_neg clean]
    rfl

mutual
theorem content_element : ∀ e : Element, SoundElement e → ∀ (around : Option String)
    (depth n d : Nat) (broken : Bool) (rest : List Char),
    (elementChars .compact depth broken around e ++ rest).length ≤ n →
    ∃ m, rest.length ≤ m ∧ content n d (elementChars .compact depth broken around e ++ rest) =
      if isCleanElement around e then inFront (elementTokens around e) (content m d rest) else none
  | .mk name space attributes children, sound, around, depth, n, d, broken, rest, fuel => by
    obtain ⟨plain, -, own, inner⟩ := sound
    have names := tagAttributes_local around space name own
    rw [elementChars_compact] at fuel ⊢
    rw [isCleanElement, elementTokens]
    generalize tagAttributes around (.mk name space attributes []) = written at names fuel ⊢
    rw [List.cons_append, List.length_cons] at fuel
    obtain ⟨n, rfl⟩ := Nat.exists_eq_succ_of_ne_zero (Nat.ne_zero_of_lt fuel)
    cases children with
    | nil =>
      have tag := content_tag plain names '/' ('>' :: rest) rfl (fun _ => rfl) n d
      have chars : '<' :: (name.toList ++ (written.flatMap attributeChars ++ ['/', '>'])) ++ rest =
          '<' :: (name.toList ++ (written.flatMap attributeChars ++ '/' :: '>' :: rest)) := by
        simp
      refine ⟨n, by simp at fuel; omega, ?_⟩
      simp only [List.isEmpty_nil, if_true, areCleanChildren, Bool.and_true]
      rw [chars, tag]
    | cons child children =>
      have chars : '<' :: (name.toList ++ (written.flatMap attributeChars ++ '>' ::
            (childChars .compact (depth + 1) true space (child :: children) ++
              '<' :: '/' :: (name.toList ++ ['>'])))) ++ rest =
          '<' :: (name.toList ++ (written.flatMap attributeChars ++ '>' ::
            (childChars .compact (depth + 1) true space (child :: children) ++
              '<' :: '/' :: (name.toList ++ '>' :: rest)))) := by
        simp
      have tag := content_tag plain names '>'
        (childChars .compact (depth + 1) true space (child :: children) ++
          '<' :: '/' :: (name.toList ++ '>' :: rest)) rfl (fun _ => rfl) n d
      obtain ⟨m, left, inside⟩ := content_children (child :: children) inner space (depth + 1) n
        (d + 1) true ('/' :: (name.toList ++ '>' :: rest)) (by simp at fuel ⊢; omega)
      obtain ⟨m, rfl⟩ := Nat.exists_eq_succ_of_ne_zero (Nat.ne_zero_of_lt left)
      refine ⟨m, by simp at left; omega, ?_⟩
      simp only [List.isEmpty_cons, Bool.false_eq_true, if_false]
      rw [chars, tag, inside, content_close plain]
      dsimp only
      rw [inFront_inFront, inFront_if, ← List.singleton_append]
      cases written.all isClean <;> rfl
theorem content_children : ∀ (cs : List Child) {afterText : Bool}, SoundChildren afterText cs →
    ∀ (around : Option String) (depth n d : Nat) (broken : Bool) (rest : List Char),
    (childChars .compact depth broken around cs ++ '<' :: rest).length ≤ n →
    ∃ m, ('<' :: rest).length ≤ m ∧
      content n d (childChars .compact depth broken around cs ++ '<' :: rest) =
        if areCleanChildren around cs then
          inFront (childTokens around cs) (content m d ('<' :: rest))
        else none
  | [], _, _, around, depth, n, d, broken, rest, fuel => by
    refine ⟨n, fuel, ?_⟩
    simp [childChars, areCleanChildren, childTokens]
  | .text s :: cs, _, sound, around, depth, n, d, broken, rest, fuel => by
    obtain ⟨-, shown, behind⟩ := sound
    obtain ⟨tail, tag⟩ := childChars_tag around cs behind depth false rest
    obtain ⟨c, chars, text⟩ := escapeText_cons shown
    rw [childChars, List.append_assoc, List.length_append, text, List.length_cons] at fuel
    obtain ⟨n, rfl⟩ := Nat.exists_eq_succ_of_ne_zero (n := n) (by omega)
    obtain ⟨m, left, inside⟩ := content_children cs behind around depth n d false rest (by omega)
    refine ⟨m, left, ?_⟩
    rw [childChars, List.append_assoc, tag, content_text shown, ← tag, inside, areCleanChildren,
      childTokens, inFront_if, List.singleton_append]
  | .element e :: cs, _, sound, around, depth, n, d, broken, rest, fuel => by
    rw [childChars, List.append_assoc] at fuel
    obtain ⟨k, most, first⟩ := content_element e sound.1 around depth n d broken _ fuel
    obtain ⟨m, left, others⟩ := content_children cs sound.2 around depth k d true rest most
    refine ⟨m, left, ?_⟩
    rw [childChars, List.append_assoc, first, others, areCleanChildren, childTokens, inFront_if]
    cases isCleanElement around e <;> rfl
end

theorem rootTokens_element {e : Element} (sound : SoundElement e) :
    rootTokens (elementChars .compact 0 false none e) =
      if isCleanElement none e then some (elementTokens none e, []) else none := by
  obtain ⟨name, space, attributes, children⟩ := e
  obtain ⟨plain, -, own, inner⟩ := sound
  have names := tagAttributes_local none space name own
  rw [elementChars_compact, isCleanElement, elementTokens]
  generalize tagAttributes none (.mk name space attributes []) = written at names ⊢
  cases children with
  | nil =>
    have tag := startTag_append plain names '/' ['>'] rfl (fun _ => rfl)
    simp only [List.isEmpty_nil, if_true, areCleanChildren, Bool.and_true, rootTokens, tag]
    cases written.all isClean <;> rfl
  | cons child children =>
    have tag := startTag_append plain names '>'
      (childChars .compact 1 true space (child :: children) ++
        '<' :: '/' :: (name.toList ++ ['>'])) rfl (fun _ => rfl)
    obtain ⟨m, left, inside⟩ := content_children (child :: children) inner space 1 _ 0 true
      ('/' :: (name.toList ++ ['>'])) (Nat.le_refl _)
    obtain ⟨m, rfl⟩ := Nat.exists_eq_succ_of_ne_zero (Nat.ne_zero_of_lt left)
    simp only [List.isEmpty_cons, Bool.false_eq_true, if_false, rootTokens, tag]
    cases written.all isClean with
    | false => rfl
    | true =>
      simp only [if_true, bind, Option.bind, inside, content_close plain, Bool.true_and]
      cases areCleanChildren space (child :: children) <;> rfl

theorem tokens?_write {e : Element} (sound : SoundElement e) (typed : Bool) :
    tokens? typed (Markup.write .compact e) =
      if isCleanElement none e then some (elementTokens none e) else none := by
  have root := rootTokens_element sound
  obtain ⟨c, cs, chars, start⟩ : ∃ c cs, elementChars .compact 0 false none e = '<' :: c :: cs ∧
      isNameStart c := by
    obtain ⟨name, space, attributes, children⟩ := e
    obtain ⟨letter, letters, text, start, -⟩ := isLocalName_parts sound.name
    rw [elementChars_compact, show name.toList = letter :: letters from text]
    exact ⟨letter, _, rfl, start⟩
  rw [Markup.write, chars]
  rw [chars] at root
  -- What may stand before the root element starts with another mark behind its angle bracket.
  have unlike (w : String) (mark : Char) (ws : List Char) (word : w.toList = '<' :: mark :: ws)
      (other : isNameStart mark = false) : startsWith w ('<' :: c :: cs) = false := by
    have apart : mark ≠ c := by
      rintro rfl
      rw [start] at other
      cases other
    have other : (mark == c) = false := beq_false_of_ne apart
    simp [startsWith, word, List.isPrefixOf, other]
  have before (n : Nat) : asides n ('<' :: c :: cs) = some ([], '<' :: c :: cs) := by
    have same : skipBlanks ('<' :: c :: cs) = '<' :: c :: cs := rfl
    cases n with
    | zero => rfl
    | succ n =>
      simp only [asides, same, unlike "<!--" '!' ['-', '-'] rfl rfl, unlike "<?" '?' [] rfl rfl,
        Bool.false_eq_true, if_false]
  have after (n : Nat) : asides n [] = some ([], []) := by
    cases n <;> rfl
  have opens : startsWith "<" ('<' :: c :: cs) = true := startsWith_angle '<' _
  unfold tokens?
  rw [String.toList_ofList]
  split
  · next same => cases same
  simp only [unlike "<?xml " '?' ['x', 'm', 'l', ' '] rfl rfl,
    unlike "<!DOCTYPE" '!' ['D', 'O', 'C', 'T', 'Y', 'P', 'E'] rfl rfl, Bool.false_eq_true,
    if_false, before, opens, if_true, root, bind, Option.bind]
  cases isCleanElement none e with
  | true => simp [after]
  | false => rfl

end DocPath.Xml
