import DocPath.Path.Literal
import DocPath.Path.Render
import DocPath.Proofs.Number.Literal
import DocPath.Proofs.Reader.Outcome

/-!
The words of path text are read from their own characters: identifiers and keywords up to the
next character that is no part of them, quoted texts, numbers and indices.
-/

namespace DocPath

open Reader

def isPlainChar (c : Char) : Bool := c ≠ '\'' && c ≠ '\\'

def isPlain (s : String) : Bool := s.toList.all isPlainChar

def isIdentifier (name : String) : Bool :=
  match name.toList with
  | c :: cs => isIdentStart c && cs.all isIdentChar
  | [] => false

def isName (name : String) : Bool := isIdentifier name && !reserved.contains name

namespace Reader

variable {s : List Char}

theorem isIdentChar_of_isIdentStart {c : Char} (h : isIdentStart c) : isIdentChar c := by
  simp only [isIdentStart, Bool.or_eq_true, decide_eq_true_eq] at h
  simp only [isIdentChar, Bool.or_eq_true, decide_eq_true_eq]
  rcases h with (h | h) | h
  · exact .inl (.inl (isAlphanumeric_of_isAlphabetic h))
  · exact .inl (.inr h)
  · exact .inr h

theorem isIdentChar_of_isDigit {c : Char} (h : isDigit c) : isIdentChar c := by
  simp [isIdentChar, isAlphanumeric, isNumeric, h]

theorem isIdentStart_of_isDigit {c : Char} (h : isDigit c) : isIdentStart c = false := by
  have under : c ≠ '_' := digit_ne h (by decide)
  have dollar : c ≠ '$' := digit_ne h (by decide)
  simp only [isDigit, Bool.and_eq_true, decide_eq_true_eq] at h
  have letter : isAlphabetic c = false := by
    simp only [isAlphabetic, isAsciiLetter, Bool.or_eq_false_iff, Bool.and_eq_false_iff,
      decide_eq_false_iff_not]
    omega
  simp [isIdentStart, under, dollar, letter]

theorem isKeyChar_isIdentChar {hyphens : Bool} {c : Char} (h : isIdentChar c) :
    isKeyChar hyphens c := by
  simp [isKeyChar, h]

theorem isIdentifier_parts {name : String} (h : isIdentifier name) :
    ∃ c cs, name.toList = c :: cs ∧ isIdentStart c ∧ cs.all isIdentChar := by
  unfold isIdentifier at h
  split at h
  · next c cs chars =>
    rw [Bool.and_eq_true] at h
    exact ⟨c, cs, chars, h.1, h.2⟩
  · cases h

theorem isIdentifier_head {name : String} (h : isIdentifier name) {c : Char}
    (other : isIdentStart c = false) (s : List Char) : (name.toList ++ s).head? ≠ some c := by
  obtain ⟨d, cs, chars, start, -⟩ := isIdentifier_parts h
  rw [chars]
  rintro ⟨⟩
  rw [other] at start
  cases start

theorem isIdentifier_all {name : String} (h : isIdentifier name) :
    name.toList.all isIdentChar := by
  obtain ⟨c, cs, chars, start, run⟩ := isIdentifier_parts h
  rw [chars, List.all_cons, isIdentChar_of_isIdentStart start, run]
  rfl

theorem isBare_parts {name : String} (h : isBare name) :
    ∃ c cs, name.toList = c :: cs ∧ isKeyStart c ∧ cs.all (isKeyChar true) := by
  unfold isBare at h
  split at h
  · next c cs chars =>
    rw [Bool.and_eq_true] at h
    refine ⟨c, cs, chars, ?_, ?_⟩
    · have start := h.1
      simp only [isKeyStart, isIdentChar, Bool.or_eq_true, decide_eq_true_eq] at start ⊢
      grind
    · rw [List.all_eq_true] at h ⊢
      intro d mem
      have key := h.2 d mem
      simp only [isKeyChar, isIdentChar, Bool.or_eq_true, Bool.and_eq_true,
        decide_eq_true_eq] at key ⊢
      grind
  · cases h

theorem firstAndRun_append {start continues : Char → Bool} {name : String} {c : Char}
    {cs : List Char} (chars : name.toList = c :: cs) (first : start c) (run : cs.all continues)
    (stop : Ends continues s) :
    firstAndRun start continues (name.toList ++ s) = .done name s := by
  rw [chars, firstAndRun, List.cons_append, bind_done (satisfy_done first _),
    bind_done (takeWhile_append run stop), ← chars, String.ofList_toList]
  rfl

theorem identifier_append {name : String} (h : isIdentifier name) (stop : Ends isIdentChar s) :
    identifier (name.toList ++ s) = .done name s := by
  obtain ⟨c, cs, chars, start, run⟩ := isIdentifier_parts h
  exact firstAndRun_append chars start run stop

theorem identifier_misses (h : Ends isIdentStart s) : Misses identifier s :=
  (satisfy_misses h).bind

theorem isName_iff {name : String} :
    isName name = true ↔ isIdentifier name = true ∧ name ∉ reserved := by
  simp [isName]

theorem binder_append {name : String} (h : isName name) (stop : Ends isIdentChar s) :
    binder (name.toList ++ s) = .done name s := by
  obtain ⟨word, free⟩ := isName_iff.mp h
  exact check_done (identifier_append word stop) (if_neg free)

theorem binder_reserved (name : String) (h : isIdentifier name) (taken : name ∈ reserved)
    (stop : Ends isIdentChar s) : Misses binder (name.toList ++ s) :=
  .check_error (identifier_append h stop) (if_pos taken)

theorem binder_misses (h : Ends isIdentStart s) : Misses binder s := (identifier_misses h).check _

theorem keyword_append (w : String) (stop : Ends isIdentChar s) :
    keyword w (w.toList ++ s) = .done () s := by
  rw [keyword, bind_done (word_append w s), notAhead_done (satisfy_misses stop)]

/-- Another identifier is not read as a keyword, not even one that starts with it. -/
theorem keyword_misses {w name : String} (word : isIdentifier w) (h : isIdentifier name)
    (other : name ≠ w) (stop : Ends isIdentChar s) : Misses (keyword w) (name.toList ++ s) := by
  by_cases front : w.toList <+: name.toList ++ s
  -- The keyword does not reach beyond the name, and what follows it there goes on with the name.
  · have short : w.toList.length < name.toList.length := by
      by_contra long
      have back : name.toList <+: w.toList :=
        List.prefix_of_prefix_length_le (List.prefix_append ..) front (by omega)
      obtain ⟨cs, rest⟩ := back
      rw [← rest, List.prefix_append_right_inj] at front
      cases cs with
      | nil =>
        rw [List.append_nil] at rest
        exact other (String.toList_inj.mp rest)
      | cons c cs =>
        obtain ⟨t, rfl⟩ := front
        have no := stop c rfl
        have yes := isIdentifier_all word
        rw [← rest] at yes
        simp [no] at yes
    have inside : w.toList <+: name.toList :=
      List.prefix_of_prefix_length_le front (List.prefix_append ..) (by omega)
    obtain ⟨cs, rest⟩ := inside
    rw [← rest, List.append_assoc]
    refine .bind_after (word_append w (cs ++ s)) ?_
    cases cs with
    | nil =>
      rw [List.append_nil] at rest
      rw [rest] at short
      exact absurd short (Nat.lt_irrefl _)
    | cons c cs =>
      have all := isIdentifier_all h
      rw [← rest] at all
      simp only [List.all_append, List.all_cons, Bool.and_eq_true] at all
      exact notAhead_misses (satisfy_done all.2.1 (cs ++ s))
  · exact (word_misses front).bind

theorem keyword_misses_start {w : String} (word : isIdentifier w) (stop : Ends isIdentStart s) :
    Misses (keyword w) s := by
  obtain ⟨c, cs, chars, start, -⟩ := isIdentifier_parts word
  refine (word_misses ?_).bind
  rw [chars]
  rintro ⟨t, rfl⟩
  have no := stop c rfl
  rw [start] at no
  cases no

theorem quotedChars_append {cs : List Char} (plain : cs.all isPlainChar) (n : Nat)
    (room : cs.length ≤ n) :
    many (quotedChar .single) n (cs ++ '\'' :: s) = .done cs ('\'' :: s) := by
  induction cs generalizing n with
  | nil =>
    refine many_none ?_ n
    refine .orElse (satisfy_misses (.cons (by decide) s)) (.within _ ?_)
    exact (char_misses (by simp)).bind
  | cons c cs ih =>
    cases n with
    | zero => simp at room
    | succ n =>
      simp only [List.all_cons, Bool.and_eq_true] at plain
      have first : quotedChar .single (c :: (cs ++ '\'' :: s)) = .done c (cs ++ '\'' :: s) :=
        orElse_done (satisfy_done plain.1 _)
      exact many_cons first (ih plain.2 n (by simpa using room))

theorem stringLiteral_singleQuoted {k : String} (plain : isPlain k) :
    stringLiteral (singleQuoted k ++ s) = .done k s := by
  refine within_done _ (orElse_done ?_)
  have text : singleQuoted k ++ s = '\'' :: (k.toList ++ '\'' :: s) := by simp [singleQuoted]
  rw [text]
  simp only [quotedWith, Quote.char]
  rw [bind_done (char_cons _ _), bind_done (quotedChars_append plain _ (by simp; omega)),
    bind_apply]
  simp only [commitWith, char_cons, String.ofList_toList]
  rfl

theorem stringLiteral_misses (h : Ends (fun c => c = '\'' || c = '"') s) :
    Misses stringLiteral s := by
  have quote (q : Quote) : Misses (quotedWith q) s := by
    refine (char_misses fun head => ?_).bind
    have no := h _ head
    cases q <;> simp [Quote.char] at no
  exact (Misses.orElse (quote .single) (quote .double)).within _

theorem fraction_append {fs : List Char} (digits : fs.all isDigit) (full : fs ≠ [])
    (stop : Ends isDigit s) : fraction ('.' :: (fs ++ s)) = .done ('.' :: fs) s := by
  rw [fraction, bind_done (char_cons _ _), digits1, bind_done (takeWhile1_append digits full stop)]
  rfl

/-- No fraction begins: there is no point, or no digit after it. -/
def NoFraction (s : List Char) : Prop := ∀ t, s = '.' :: t → Ends isDigit t

theorem fraction_misses (h : NoFraction s) : Misses fraction s := by
  by_cases point : s.head? = some '.'
  · cases s with
    | nil => cases point
    | cons c t =>
      cases point
      exact .bind_after (char_cons _ _) (takeWhile1_misses (h t rfl)).bind
  · exact (char_misses point).bind

theorem exponent_misses (stop : Ends isIdentChar s) : Misses exponent s := by
  refine (satisfy_misses (stop.mono fun c mark => ?_)).bind
  simp only [Bool.or_eq_true, decide_eq_true_eq] at mark
  rcases mark with mark | mark <;> subst mark <;> decide

theorem Ends.isDigit (stop : Ends isIdentChar s) : Ends isDigit s :=
  stop.mono fun _ => isIdentChar_of_isDigit

/-- A legible number is read from its own text; a whole one must not meet a fraction. -/
theorem number_append {x : Number} (literal : x.isLiteral) (legible : x.isLegible)
    (stop : Ends isIdentChar s) (whole : x.isWhole = true → NoFraction s) :
    number (x.toText.toList ++ s) = .done x s := by
  cases kind : x.isWhole with
  | true =>
    obtain ⟨digits, full, read⟩ := Number.toText_of_isWhole literal kind
    have parts : numberOf x.toText.toList none = .ok x := by
      have point : '.' ∉ x.toText.toList := by
        intro mem
        exact absurd (List.all_eq_true.mp digits '.' mem) (by decide)
      simp [numberOf, point, read]
    refine check_done (a := (x.toText.toList, none)) ?_ parts
    rw [digits1, bind_done (takeWhile1_append digits full stop.isDigit),
      bind_done (optional_none (fraction_misses (whole kind))),
      bind_done (optional_none (exponent_misses stop)), Option.getD_none, List.append_nil]
    rfl
  | false =>
    cases x with
    | bigDecimal d =>
      simp only [Number.isLiteral, Bool.not_eq_true'] at literal
      simp only [Number.isLegible, decide_eq_true_eq] at legible
      obtain ⟨ds, fs, chars, digits, full, places, some, read⟩ :=
        Decimal.toText_fraction literal legible
      have text : (Number.bigDecimal d).toText = d.toText := rfl
      have parts : numberOf (ds ++ '.' :: fs) none = .ok (.bigDecimal d) := by
        have whole : String.ofList (ds ++ '.' :: fs) = d.toText := by
          rw [← chars, String.ofList_toList]
        simp [numberOf, whole, read]
      refine check_done (a := (ds ++ '.' :: fs, none)) ?_ parts
      rw [text, chars, List.append_assoc, List.cons_append, digits1,
        bind_done (takeWhile1_append digits full (.cons (by decide) _)),
        bind_done (optional_done (fraction_append places some stop.isDigit)),
        bind_done (optional_none (exponent_misses stop))]
      rfl
    | double x => cases legible
    | float x => cases literal
    | exact t => cases literal
    | int n => cases kind
    | long n => cases kind
    | bigInteger d => cases kind

theorem signedDigits_append (i : Int) (stop : Ends isDigit s) :
    signedDigits (integerChars i ++ s) = .done (integerChars i) s := by
  have digits := all_isDigit_decimalDigits i.natAbs
  have full := decimalDigits_ne_nil i.natAbs
  unfold signedDigits integerChars
  split
  · rw [List.cons_append, bind_done (optional_done (char_cons _ _)), digits1,
      bind_done (takeWhile1_append digits full stop)]
    rfl
  · have plain : Misses (char '-') (decimalDigits i.natAbs ++ s) := by
      refine char_misses fun head => ?_
      cases text : decimalDigits i.natAbs with
      | nil => exact full text
      | cons d ds =>
        rw [text] at head digits
        cases head
        simp only [List.all_cons, Bool.and_eq_true] at digits
        exact absurd digits.1 (by decide)
    rw [bind_done (optional_none plain), digits1, bind_done (takeWhile1_append digits full stop)]
    rfl

theorem index_append (i : Int64) (stop : Ends isDigit s) :
    index (integerChars i.toInt ++ s) = .done i s := by
  have above := i.toInt_lt
  have below := i.le_toInt
  refine check_done (signedDigits_append i.toInt stop) ?_
  simp only [readInteger?_integerChars]
  rw [if_neg (by omega), if_neg (by omega), Int64.ofInt_toInt]

theorem index_misses (stop : Ends (fun c => c = '-' || isDigit c) s) : Misses index s := by
  refine .check _ ?_
  have plain : Misses (char '-') s := char_misses fun head => by simpa using stop _ head
  refine .bind_after (optional_none plain) (Misses.bind ?_)
  exact takeWhile1_misses (stop.mono fun c digit => by simp [digit])

end Reader
end DocPath
