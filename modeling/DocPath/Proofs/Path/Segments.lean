import DocPath.Proofs.Path.Lists

/-!
Written segments are read one after another: subscripts, keys, stars and calls. A segment ends
where the next one or the end of the path shows.
-/

namespace DocPath

open Reader

variable {s t : List Char}

theorem isKeyStart_ne {c d : Char} (h : isKeyStart c) (other : isKeyStart d = false) : c ≠ d := by
  rintro rfl
  rw [other] at h
  cases h

theorem isKeyStart_of_isIdentStart {c : Char} (h : isIdentStart c) : isKeyStart c := by
  simp [isKeyStart, isIdentChar_of_isIdentStart h]

theorem isDigit_of_isIdentStart {c : Char} (h : isIdentStart c) : isDigit c = false := by
  cases digit : isDigit c with
  | false => rfl
  | true =>
    rw [isIdentStart_of_isDigit digit] at h
    cases h

/-- A segment that takes a point starts with a star, a quote or the first sign of a name, and
with a digit only if it says so. -/
theorem detached_head {g : Segment} (formed : g.wellFormed) (detached : g.isAttached = false) :
    ∃ c t, g.written = c :: t ∧ (c = '*' ∨ c = '\'' ∨ isKeyStart c) ∧
      (isDigit c → g.startsInDigit) := by
  cases g with
  | field name =>
    simp only [Segment.written, Segment.startsInDigit]
    cases bare : isBare name with
    | true =>
      obtain ⟨c, cs, text, start, -⟩ := isBare_parts bare
      exact ⟨c, cs, by simp [text], .inr (.inr start), fun digit => by simp [text, digit]⟩
    | false => exact ⟨'\'', _, rfl, .inr (.inl rfl), fun digit => absurd digit (by decide)⟩
  | wildcard =>
    exact ⟨'*', [], by simp [Segment.written], .inl rfl, fun digit => absurd digit (by decide)⟩
  | descent =>
    exact ⟨'*', ['*'], by simp [Segment.written], .inl rfl, fun digit => absurd digit (by decide)⟩
  | call name args =>
    simp only [Segment.wellFormed, Bool.and_eq_true] at formed
    obtain ⟨-, -, -, word⟩ := isKnownCall_parts formed.1
    obtain ⟨c, cs, text, start, -⟩ := isIdentifier_parts word
    refine ⟨c, _, by simp only [Segment.written, text]; rfl,
      .inr (.inr (isKeyStart_of_isIdentStart start)), fun digit => ?_⟩
    rw [isDigit_of_isIdentStart start] at digit
    cases digit
  | index selector => cases detached
  | spread inner => cases detached

namespace Reader

theorem selector_key {k : String} (plain : isPlain k) :
    selector (singleQuoted k ++ s) = .done (.key k) s := by
  have quote : Ends (fun c => c = '-' || isDigit c) (singleQuoted k ++ s) :=
    .cons (by decide) _
  have noIndex := index_misses quote
  have noRange : Misses rangeSelector (singleQuoted k ++ s) := noIndex.bind
  unfold selector
  rw [orElse_next noRange, orElse_next noIndex.bind,
    bind_done (stringLiteral_singleQuoted plain)]
  rfl

theorem selector_single (i : Int64) :
    selector (integerChars i.toInt ++ ']' :: s) = .done (.single i) (']' :: s) := by
  have read := index_append i (s := ']' :: s) (.cons (by decide) _)
  have noRange : Misses rangeSelector (integerChars i.toInt ++ ']' :: s) := by
    refine .bind_after read (.bind_after (blanks_apply _) (Misses.bind ?_))
    rw [skipBlanks_of_not_blank (by decide)]
    refine word_misses ?_
    rintro ⟨t, text⟩
    cases text
  unfold selector
  rw [orElse_next noRange]
  refine orElse_done ?_
  rw [bind_done read]
  rfl

theorem integerChars_head (i : Int) :
    ∃ c t, integerChars i = c :: t ∧ (c = '-' ∨ isDigit c) := by
  unfold integerChars
  split
  · exact ⟨'-', _, rfl, .inl rfl⟩
  · have digits := all_isDigit_decimalDigits i.natAbs
    cases text : decimalDigits i.natAbs with
    | nil => exact absurd text (decimalDigits_ne_nil _)
    | cons d ds =>
      rw [text, List.all_cons, Bool.and_eq_true] at digits
      exact ⟨d, ds, rfl, .inr digits.1⟩

theorem integerChars_skipBlanks (i : Int) (s : List Char) :
    skipBlanks (integerChars i ++ s) = integerChars i ++ s := by
  obtain ⟨c, t, text, rfl | digit⟩ := integerChars_head i
  · rw [text]
    exact skipBlanks_of_not_blank (by decide) _
  · rw [text]
    refine skipBlanks_of_not_blank ?_ _
    exact isOperandHead_not_blank (by simp [isOperandHead, isIdentChar_of_isDigit digit])

theorem selector_range (a b : Int64) (inclusive : Bool) :
    selector (integerChars a.toInt ++ (if inclusive then ['.', '.'] else ['.', '.', '<']) ++
      integerChars b.toInt ++ ']' :: s) = .done (.range a b inclusive) (']' :: s) := by
  have last := index_append b (s := ']' :: s) (.cons (by decide) _)
  unfold selector
  refine orElse_done ?_
  cases inclusive with
  | true =>
    have dots : word ".." ('.' :: '.' :: (integerChars b.toInt ++ ']' :: s)) =
        .done () (integerChars b.toInt ++ ']' :: s) := word_append ".." _
    have none : Misses (char '<') (integerChars b.toInt ++ ']' :: s) := by
      obtain ⟨c, t, text, rfl | digit⟩ := integerChars_head b.toInt
      · rw [text]
        exact char_misses (by simp)
      · rw [text]
        exact char_misses (by simpa using digit_ne digit (by decide))
    simp only [if_true, List.append_assoc, List.cons_append, List.nil_append]
    rw [rangeSelector, bind_done (index_append a (.cons (by decide) _)),
      bind_done (blanks_apply _), skipBlanks_of_not_blank (by decide), bind_done dots,
      bind_done (optional_none none), bind_done (blanks_apply _), integerChars_skipBlanks,
      bind_done (commit_done last)]
    rfl
  | false =>
    have dots : word ".." ('.' :: '.' :: '<' :: (integerChars b.toInt ++ ']' :: s)) =
        .done () ('<' :: (integerChars b.toInt ++ ']' :: s)) := word_append ".." _
    simp only [Bool.false_eq_true, if_false, List.append_assoc, List.cons_append, List.nil_append]
    rw [rangeSelector, bind_done (index_append a (.cons (by decide) _)),
      bind_done (blanks_apply _), skipBlanks_of_not_blank (by decide), bind_done dots,
      bind_done (optional_done (char_cons _ _)), bind_done (blanks_apply _),
      integerChars_skipBlanks, bind_done (commit_done last)]
    rfl

theorem subscript_read {selector : Selector} {hyphens : Bool}
    (legible : (Segment.index selector).legible hyphens) :
    subscript (selector.chars ++ s) = .done (.index selector) s := by
  have inner : ∃ cs, selector.chars ++ s = '[' :: (cs ++ ']' :: s) ∧
      skipBlanks (cs ++ ']' :: s) = cs ++ ']' :: s ∧
      Reader.selector (cs ++ ']' :: s) = .done selector (']' :: s) := by
    cases selector with
    | single i =>
      exact ⟨integerChars i.toInt, by simp [Selector.chars], integerChars_skipBlanks _ _,
        selector_single i⟩
    | range a b inclusive =>
      refine ⟨integerChars a.toInt ++ (if inclusive then ['.', '.'] else ['.', '.', '<']) ++
        integerChars b.toInt, by simp [Selector.chars], ?_, selector_range a b inclusive⟩
      rw [List.append_assoc, List.append_assoc]
      exact integerChars_skipBlanks _ _
    | key k =>
      simp only [Segment.legible] at legible
      exact ⟨singleQuoted k, by simp [Selector.chars], skipBlanks_of_not_blank (by decide) _,
        selector_key legible⟩
  obtain ⟨cs, text, start, read⟩ := inner
  rw [text]
  refine within_done _ ?_
  have close : (do
      blanks
      let _ ← char ']'
      pure ()) (']' :: s) = .done () s := by
    rw [bind_done (blanks_apply _), skipBlanks_of_not_blank (by decide),
      bind_done (char_cons _ _)]
    rfl
  rw [bind_done (char_cons _ _), bind_done (blanks_apply _), start, bind_done (commit_done read),
    bind_done (commit_done close)]
  rfl

section
variable {expr : Reader Expr} {n : Nat}

theorem closure_misses (h : s.head? ≠ some '{') : Misses (closure expr n) s :=
  (char_misses h).bind.within _

theorem Settles.argument (h : Settles false expr n) : Settles true (argument expr n) n where
  reads e s formed legible stop short := by
    rcases e.wellFormed_cases formed with plain | ⟨c, rfl, formed⟩
    · have other : ((e.written ++ s).head? ≠ some '{') := by
        obtain ⟨c, t, text, -, brace, -⟩ := (expr_start plain legible .nil).head
        rw [List.append_nil] at text
        rw [text]
        simpa using brace
      exact (orElse_next (closure_misses other).bind).trans (h.reads e s plain legible stop short)
    · simp only [Expr.legible] at legible
      simp only [Expr.written] at short ⊢
      refine orElse_done ?_
      rw [bind_done (h.closure_read formed legible (by omega))]
      rfl
  misses c s closer := by
    refine .orElse (closure_misses ?_).bind (h.misses c s closer)
    intro head
    cases head
    exact absurd closer (by decide)

theorem callArguments_read (h : Settles false expr n) {args : List Expr}
    (formed : wellFormedItems true args) (legible : legibleItems args) (none : NoClosure s)
    (short : (writtenItems args ++ ')' :: s).length < n) :
    callArguments expr n ('(' :: (writtenItems args ++ ')' :: s)) = .done args s := by
  have items : parenthesizedArguments expr n ('(' :: (writtenItems args ++ ')' :: s)) =
      .done args s := by
    refine within_done _ ?_
    rw [bind_done (char_cons _ _)]
    exact h.argument.items_read formed legible (by decide) (by decide) short
  have trailing : Misses (do
      blanks
      closure expr n) s := .bind_after (blanks_apply s) (closure_misses none)
  refine orElse_done ?_
  rw [bind_done items, bind_done (optional_none trailing)]
  simp only [Option.map_none, Option.toList_none, List.append_nil]
  rfl

theorem call_read (h : Settles false expr n) {name : String} {args : List Expr}
    (formed : (Segment.call name args).wellFormed) (legible : legibleItems args)
    (none : NoClosure s) (short : ((Segment.call name args).written ++ s).length ≤ n) :
    call expr n ((Segment.call name args).written ++ s) = .done (.call name args) s := by
  simp only [Segment.wellFormed, Bool.and_eq_true] at formed
  obtain ⟨m, named, accepts, word⟩ := isKnownCall_parts formed.1
  have some : 0 < name.toList.length := by
    obtain ⟨c, cs, text, -⟩ := isIdentifier_parts word
    simp [text]
  have text : (Segment.call name args).written ++ s =
      name.toList ++ '(' :: (writtenItems args ++ ')' :: s) := by
    simp only [Segment.written, List.append_assoc, List.cons_append, List.nil_append]
  rw [text] at short ⊢
  simp only [List.length_append, List.length_cons] at short
  have paren : ((do
        let _ ← char '('
        pure ()) <|> (do
        blanks
        let _ ← char '{'
        pure ())) ('(' :: (writtenItems args ++ ')' :: s)) =
      .done () (writtenItems args ++ ')' :: s) := by
    refine orElse_done ?_
    rw [bind_done (char_cons _ _)]
    rfl
  have head : methodName (name.toList ++ '(' :: (writtenItems args ++ ')' :: s)) =
      .done name ('(' :: (writtenItems args ++ ')' :: s)) := by
    rw [methodName, bind_done (identifier_append word (.cons (by decide) _)),
      bind_done (ahead_done paren)]
    rfl
  have tail := callArguments_read h formed.2 legible none (by
    simp only [List.length_append, List.length_cons]
    omega)
  simp only [call, head, named, tail, accepts, if_true]

theorem key_parts {cs : List Char} (run : cs.all (isKeyChar true)) :
    ∃ ds es, cs = ds ++ es ∧ ds.all isIdentChar ∧ (es = [] ∨ ∃ u, es = '-' :: u) := by
  induction cs with
  | nil => exact ⟨[], [], rfl, rfl, .inl rfl⟩
  | cons c cs ih =>
    rw [List.all_cons, Bool.and_eq_true] at run
    cases word : isIdentChar c with
    | true =>
      obtain ⟨ds, es, rfl, letters, rest⟩ := ih run.2
      exact ⟨c :: ds, es, rfl, by simp [word, letters], rest⟩
    | false =>
      have hyphen : c = '-' := by simpa [isKeyChar, word] using run.1
      exact ⟨[], c :: cs, rfl, rfl, .inr ⟨cs, by rw [hyphen]⟩⟩

theorem methodName_misses {name : String} (bare : isBare name) (seam : Seam s) :
    Misses methodName (name.toList ++ s) := by
  obtain ⟨c, cs, text, start, run⟩ := isBare_parts bare
  rw [text, List.cons_append]
  cases first : isIdentStart c with
  | false => exact (identifier_misses (.cons first _)).bind
  | true =>
    obtain ⟨ds, es, rfl, letters, tail⟩ := key_parts run
    have rest : es ++ s = s ∨ ∃ t, es ++ s = '-' :: t := by
      rcases tail with rfl | ⟨u, rfl⟩
      · exact .inl rfl
      · exact .inr ⟨u ++ s, rfl⟩
    have ends : Ends isIdentChar (es ++ s) := by
      rcases rest with same | ⟨t, same⟩
      · rw [same]
        exact seam.ends_word
      · rw [same]
        exact .cons (by decide) t
    have read : identifier (c :: (ds ++ es ++ s)) = .done (String.ofList (c :: ds)) (es ++ s) := by
      have word : (String.ofList (c :: ds)).toList = c :: ds := String.toList_ofList
      have all := firstAndRun_append word first letters ends
      rwa [word, List.cons_append, ← List.append_assoc] at all
    refine .bind_after read (Misses.bind (ahead_misses (.orElse (Misses.bind ?_)
      (.bind_after (blanks_apply _) (Misses.bind ?_)))))
    · refine char_misses ?_
      rcases rest with same | ⟨t, same⟩
      · rw [same]
        exact seam.no_paren
      · rw [same]
        simp
    · refine char_misses ?_
      rcases rest with same | ⟨t, same⟩
      · rw [same]
        exact seam.closure
      · rw [same, skipBlanks_of_not_blank (by decide)]
        simp

theorem call_misses {s : List Char} (h : Misses methodName s) : Misses (call expr n) s := by
  obtain ⟨e, h⟩ := h
  exact ⟨e, by simp only [call, h]⟩

theorem segment_unstarred (hyphens : Bool) (star : s.head? ≠ some '*') :
    segment expr n hyphens s = (call expr n <|> (do let k ← stringLiteral; pure (.field k)) <|>
      (do let k ← bareKey hyphens; pure (.field k)) : Reader Segment) s := by
  have double : Misses (word "**") s := word_misses_head rfl star
  have single : Misses (word "*") s := word_misses_head rfl star
  unfold segment
  rw [orElse_next double.bind, orElse_next single.bind]

theorem segment_key (hyphens : Bool) (star : s.head? ≠ some '*') (method : Misses methodName s) :
    segment expr n hyphens s =
      ((do let k ← stringLiteral; pure (.field k)) <|>
        (do let k ← bareKey hyphens; pure (.field k)) : Reader Segment) s := by
  rw [segment_unstarred hyphens star, orElse_next (call_misses method)]

theorem field_read {hyphens : Bool} {name : String} (legible : isLegibleKey hyphens name)
    (seam : Seam s) :
    segment expr n hyphens ((Segment.field name).written ++ s) = .done (.field name) s := by
  simp only [Segment.written]
  unfold isLegibleKey at legible
  cases bare : isBare name with
  | true =>
    obtain ⟨c, cs, text, start, run⟩ := isBare_parts bare
    simp only [bare, if_true, Bool.or_eq_true, Bool.not_eq_true'] at legible ⊢
    have first : (name.toList ++ s).head? = some c := by simp [text]
    have star : (name.toList ++ s).head? ≠ some '*' := by
      rw [first]
      simpa using isKeyStart_ne start (d := '*') (by decide)
    have keys : cs.all (isKeyChar hyphens) := by
      rcases legible with with_ | without
      · rw [with_]
        exact run
      · rw [List.all_eq_true] at run ⊢
        intro d mem
        have other : d ≠ '-' := by
          rintro rfl
          rw [text, List.contains_cons] at without
          simp [mem] at without
        have key := run d mem
        simp only [isKeyChar, other, decide_false, Bool.and_false, Bool.or_false] at key ⊢
        exact key
    have noString : Misses stringLiteral (name.toList ++ s) := by
      refine stringLiteral_misses fun d head => ?_
      rw [first] at head
      cases head
      have single := isKeyStart_ne start (d := '\'') (by decide)
      have double := isKeyStart_ne start (d := '"') (by decide)
      simp [single, double]
    rw [segment_key hyphens star (methodName_misses bare seam), orElse_next noString.bind,
      bareKey, bind_done (firstAndRun_append text start keys (seam.ends_key hyphens))]
    rfl
  | false =>
    simp only [bare, Bool.false_eq_true, if_false] at legible ⊢
    have quote : (singleQuoted name ++ s).head? ≠ some '*' := by simp [singleQuoted]
    have method : Misses methodName (singleQuoted name ++ s) :=
      (identifier_misses (.cons (by decide) _)).bind
    rw [segment_key hyphens quote method]
    refine orElse_done ?_
    rw [bind_done (stringLiteral_singleQuoted legible)]
    rfl

theorem segment_read (h : Settles false expr n) {hyphens : Bool} {g : Segment}
    (detached : g.isAttached = false) (formed : g.wellFormed) (legible : g.legible hyphens)
    (seam : Seam s) (star : g.endsInStar = true → s.head? ≠ some '*')
    (short : (g.written ++ s).length ≤ n) :
    segment expr n hyphens (g.written ++ s) = .done g s := by
  cases g with
  | field name => exact field_read legible seam
  | index selector => cases detached
  | wildcard =>
    have double : Misses (word "**") ('*' :: s) := by
      refine word_misses ?_
      rintro ⟨t, text⟩
      cases text
      exact star rfl rfl
    have single : word "*" ('*' :: s) = .done () s := word_append "*" s
    simp only [Segment.written, List.cons_append, List.nil_append]
    unfold segment
    rw [orElse_next double.bind]
    refine orElse_done ?_
    rw [bind_done single]
    rfl
  | descent =>
    have double : word "**" ('*' :: '*' :: s) = .done () s := word_append "**" s
    simp only [Segment.written, List.cons_append, List.nil_append]
    unfold segment
    refine orElse_done ?_
    rw [bind_done double]
    rfl
  | call name args =>
    have read := call_read h formed (by simpa only [Segment.legible] using legible)
      seam.closure short
    have word : isIdentifier name := by
      simp only [Segment.wellFormed, Bool.and_eq_true] at formed
      obtain ⟨-, -, -, word⟩ := isKnownCall_parts formed.1
      exact word
    have star : ((Segment.call name args).written ++ s).head? ≠ some '*' := by
      simp only [Segment.written, List.append_assoc]
      exact isIdentifier_head word (by decide) _
    rw [segment_unstarred hyphens star]
    exact orElse_done read
  | spread inner => cases detached

def joined (g : Segment) : List Char := if g.isAttached then g.written else '.' :: g.written

theorem joined_detached {g : Segment} (detached : g.isAttached = false) :
    joined g = '.' :: g.written := by
  rw [joined, detached]
  rfl

theorem spread_misses (h : s.head? ≠ some '*') (hyphens : Bool) :
    Misses (do
      word "*."
      let g ← commit (within .spreadSegment (segment expr n hyphens))
      pure (Segment.spread g)) s :=
  (word_misses_head rfl h).bind

theorem subsequent_point {hyphens : Bool} {g : Segment} {d : List Char}
    (read : segment expr n hyphens d = .done g s) :
    subsequent expr n hyphens ('.' :: d) = .done g s := by
  have question : Misses (word "?.") ('.' :: d) := by
    refine word_misses ?_
    rintro ⟨t, text⟩
    cases text
  have separator : (word "?." <|> word ".") ('.' :: d) = .done () d :=
    (orElse_next question).trans (word_append "." d)
  unfold subsequent
  rw [orElse_next (spread_misses (by simp) hyphens)]
  refine orElse_done ?_
  rw [bind_done separator]
  exact commit_done (within_done _ read)

theorem subsequent_read (h : Settles false expr n) {hyphens : Bool} {g : Segment}
    (formed : g.wellFormed) (legible : g.legible hyphens) (seam : Seam s)
    (star : g.endsInStar = true → s.head? ≠ some '*') (short : (joined g ++ s).length ≤ n) :
    subsequent expr n hyphens (joined g ++ s) = .done g s := by
  have detachedRead (detached : g.isAttached = false) :
      subsequent expr n hyphens (joined g ++ s) = .done g s := by
    have text : joined g ++ s = '.' :: (g.written ++ s) := by
      rw [joined_detached detached, List.cons_append]
    rw [text] at short ⊢
    simp only [List.length_cons] at short
    exact subsequent_point (segment_read h detached formed legible seam star (by omega))
  cases g with
  | field name => exact detachedRead rfl
  | wildcard => exact detachedRead rfl
  | descent => exact detachedRead rfl
  | call name args => exact detachedRead rfl
  | index selector =>
    have text : joined (.index selector) ++ s = selector.chars ++ s := by
      simp [joined, Segment.isAttached, Segment.written]
    have first : (selector.chars ++ s).head? = some '[' := by
      cases selector <;> rfl
    have other (c : Char) (ne : c ≠ '[') : (selector.chars ++ s).head? ≠ some c := by
      rw [first]
      rintro ⟨⟩
      exact ne rfl
    -- A bracket starts neither a spread nor a separator, so a subscript is left to be read.
    have noSeparator : Misses (word "?." <|> word ".") (selector.chars ++ s) :=
      .orElse (word_misses_head rfl (other '?' (by decide)))
        (word_misses_head rfl (other '.' (by decide)))
    rw [text]
    unfold subsequent
    rw [orElse_next (spread_misses (other '*' (by decide)) hyphens),
      orElse_next noSeparator.bind]
    exact subscript_read legible
  | spread inner =>
    simp only [Segment.wellFormed, Bool.and_eq_true] at formed
    simp only [Segment.legible] at legible
    have text : joined (.spread inner) ++ s = '*' :: '.' :: (inner.written ++ s) := by
      simp [joined, Segment.isAttached, Segment.written]
    rw [text] at short ⊢
    simp only [List.length_cons] at short
    have detached : inner.isAttached = false := by
      cases inner <;> first | rfl | cases formed.1
    have starred : inner.endsInStar = true → s.head? ≠ some '*' := by
      intro ends
      refine star ?_
      cases inner <;> first | rfl | cases ends | cases formed.1
    have sign : word "*." ('*' :: '.' :: (inner.written ++ s)) = .done () (inner.written ++ s) :=
      word_append "*." _
    unfold subsequent
    refine orElse_done ?_
    rw [bind_done sign, bind_done (commit_done (within_done _
      (segment_read h detached formed.2 legible seam starred (by omega))))]
    rfl

theorem subsequent_misses (loose : Loose s) (hyphens : Bool) :
    Misses (subsequent expr n hyphens) s := by
  have other (c : Char) (joint : isJoint c || c = '?') : s.head? ≠ some c := by
    intro head
    rcases loose.head c head with blank | closer
    · refine absurd joint ?_
      refine isBlank_cases (p := fun c => ¬ (isJoint c || decide (c = '?')) = true) blank
        ?_ ?_ ?_ ?_ <;> decide
    · refine absurd joint ?_
      refine isCloser_cases (p := fun c => ¬ (isJoint c || decide (c = '?')) = true) closer
        ?_ ?_ ?_ ?_ ?_ ?_ <;> decide
  refine .orElse (word_misses_head rfl (other '*' (by decide))).bind
    (.orElse (Misses.bind ?_) ?_)
  · exact .orElse (word_misses_head rfl (other '?' (by decide)))
      (word_misses_head rfl (other '.' (by decide)))
  · exact (char_misses (other '[' (by decide))).bind.within _

theorem writtenSegments_cons (g : Segment) (segments : List Segment) :
    writtenSegments (g :: segments) = joined g ++ writtenSegments segments := by
  simp only [writtenSegments, joined]

theorem length_joined (g : Segment) : 0 < (joined g).length := by
  have start := writtenSegments_start [g] (by simp)
  obtain ⟨c, t, text, -⟩ := start
  rw [writtenSegments_cons, writtenSegments, List.append_nil] at text
  simp [text]

theorem seam_segments (segments : List Segment) (loose : Loose s) :
    Seam (writtenSegments segments ++ s) := by
  cases segments with
  | nil =>
    rw [writtenSegments, List.nil_append]
    exact loose.seam
  | cons g gs =>
    obtain ⟨c, t, text, joint⟩ := writtenSegments_start (g :: gs) (by simp)
    rw [text]
    exact .joint joint _

theorem noStar_segments {segments : List Segment}
    (other : segments.head?.any Segment.isSpread = false) (loose : Loose s) :
    (writtenSegments segments ++ s).head? ≠ some '*' := by
  cases segments with
  | nil =>
    rw [writtenSegments, List.nil_append]
    intro head
    rcases loose.head _ head with h | h <;> exact absurd h (by decide)
  | cons g gs =>
    rw [writtenSegments_cons, List.append_assoc]
    cases g with
    | index selector =>
      cases selector <;> simp [joined, Segment.isAttached, Segment.written, Selector.chars]
    | spread inner => cases other
    | field name => simp [joined, Segment.isAttached]
    | wildcard => simp [joined, Segment.isAttached]
    | descent => simp [joined, Segment.isAttached]
    | call name args => simp [joined, Segment.isAttached]

theorem star_segments {g : Segment} {gs : List Segment} (formed : wellFormedSegments (g :: gs))
    (loose : Loose s) (ends : g.endsInStar = true) :
    (writtenSegments gs ++ s).head? ≠ some '*' := by
  simp only [wellFormedSegments, Bool.and_eq_true, Bool.not_eq_true', Bool.and_eq_false_iff]
    at formed
  rcases formed.1.2 with no | other
  · rw [ends] at no
    cases no
  · exact noStar_segments other loose

theorem segments_read (h : Settles false expr n) {hyphens : Bool} {segments : List Segment}
    (formed : wellFormedSegments segments) (legible : legibleSegments hyphens segments)
    (loose : Loose s) {m : Nat} (room : (writtenSegments segments ++ s).length ≤ m)
    (short : m ≤ n) :
    many (subsequent expr n hyphens) m (writtenSegments segments ++ s) = .done segments s := by
  induction segments generalizing m with
  | nil => exact many_none (subsequent_misses loose hyphens) m
  | cons g gs ih =>
    have whole := formed
    simp only [wellFormedSegments, Bool.and_eq_true] at formed
    simp only [legibleSegments, Bool.and_eq_true] at legible
    have some := length_joined g
    rw [writtenSegments_cons, List.append_assoc] at room ⊢
    rw [List.length_append] at room
    obtain ⟨m, rfl⟩ : ∃ k, m = k + 1 := ⟨m - 1, by omega⟩
    have first := subsequent_read h formed.1.1 legible.1 (seam_segments gs loose)
      (star_segments whole loose) (by rw [List.length_append]; omega)
    exact many_cons first (ih formed.2 legible.2 (by omega) (by omega))

end

end Reader

end DocPath
