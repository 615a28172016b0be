import DocPath.Proofs.Path.Operators
import DocPath.Proofs.Path.Segments

/-!
Reading undoes writing. A reader of expressions that settles on short texts gives one that
settles on longer texts, level by level, so the reader of every depth settles.
-/

namespace DocPath

open Reader

variable {s t : List Char}

theorem noFraction_segments {segments : List Segment} (formed : wellFormedSegments segments)
    (plain : segments.head?.any (·.startsInDigit) = false) (some : segments ≠ []) :
    NoFraction (writtenSegments segments ++ s) := by
  cases segments with
  | nil => exact absurd rfl some
  | cons g gs =>
    intro t text
    rw [writtenSegments_cons, List.append_assoc] at text
    simp only [wellFormedSegments, Bool.and_eq_true] at formed
    simp only [List.head?_cons, Option.any_some] at plain
    cases attached : g.isAttached with
    | true =>
      -- a subscript and a spread take no point
      cases g with
      | index selector =>
        cases selector <;>
          simp [joined, Segment.isAttached, Segment.written, Selector.chars] at text
      | spread inner => simp [joined, Segment.isAttached, Segment.written] at text
      | field name => cases attached
      | wildcard => cases attached
      | descent => cases attached
      | call name args => cases attached
    | false =>
      obtain ⟨c, u, start, -, digit⟩ := detached_head formed.1.1 attached
      rw [joined_detached attached, start] at text
      cases text
      refine .cons ?_ _
      cases first : isDigit c with
      | false => rfl
      | true =>
        rw [digit first] at plain
        cases plain

namespace Reader

theorem NoFraction.of_loose (loose : Loose s) : NoFraction s := by
  rintro t rfl
  rcases loose.head _ rfl with h | h <;> exact absurd h (by decide)

theorem stringLiteral_misses_word {c : Char} (h : isIdentChar c) (t : List Char) :
    Misses stringLiteral (c :: t) := by
  refine stringLiteral_misses (.cons ?_ t)
  have single : c ≠ '\'' := by
    rintro rfl
    exact absurd h (by decide)
  have double : c ≠ '"' := by
    rintro rfl
    exact absurd h (by decide)
  simp [single, double]

theorem number_misses (h : Ends isDigit s) : Misses number s :=
  ((takeWhile1_misses h).bind).check _

theorem literal_misses (string : Misses stringLiteral s) (number : Misses number s)
    (word : ∀ w ∈ ["true", "false", "null"], Misses (keyword w) s) : Misses literal s := by
  refine .orElse string.bind (.orElse number.bind (.orElse (Misses.bind ?_) ?_))
  · exact .orElse (word "true" (by simp)).bind (word "false" (by simp)).bind
  · exact (word "null" (by simp)).bind

theorem word_is_no_constant {w : String} (word : isIdentifier w) (s : List Char) :
    Misses stringLiteral (w.toList ++ s) ∧ Misses number (w.toList ++ s) := by
  obtain ⟨c, cs, text, start, -⟩ := isIdentifier_parts word
  rw [text]
  exact ⟨stringLiteral_misses_word (isIdentChar_of_isIdentStart start) _,
    number_misses (.cons (isDigit_of_isIdentStart start) _)⟩

theorem boolean_read (b : Bool) (stop : Ends isIdentChar s) :
    boolean (literalChars (.bool b) ++ s) = .done b s := by
  cases b with
  | true =>
    refine orElse_done ?_
    rw [show literalChars (.bool true) = "true".toList from rfl,
      bind_done (keyword_append "true" stop)]
    rfl
  | false =>
    have other : Misses (keyword "true") ("false".toList ++ s) :=
      keyword_misses (by decide) (by decide) (by decide) stop
    refine (orElse_next other.bind).trans ?_
    rw [bind_done (keyword_append "false" stop)]
    rfl

theorem literal_read {v : Value} (formed : isLiteralValue v) (legible : isLegibleValue v)
    (stop : Ends isIdentChar s) (whole : (Expr.literal v).endsInWhole = true → NoFraction s) :
    literal (literalChars v ++ s) = .done (.literal v) s := by
  unfold literal
  cases v with
  | string k =>
    refine orElse_done ?_
    have read := stringLiteral_singleQuoted (s := s) legible
    rw [show literalChars (.string k) = singleQuoted k from rfl, bind_done read]
    rfl
  | number x =>
    obtain ⟨d, ds, text, digit⟩ := Number.toText_start formed legible
    have read := number_append formed legible stop whole
    have string : Misses stringLiteral (x.toText.toList ++ s) := by
      rw [text]
      exact stringLiteral_misses_word (isIdentChar_of_isDigit digit) _
    rw [show literalChars (.number x) = x.toText.toList from rfl, orElse_next string.bind]
    refine orElse_done ?_
    rw [bind_done read]
    rfl
  | bool b =>
    obtain ⟨string, number⟩ : Misses stringLiteral (literalChars (.bool b) ++ s) ∧
        Misses number (literalChars (.bool b) ++ s) := by
      cases b with
      | true => exact word_is_no_constant (w := "true") (by decide) s
      | false => exact word_is_no_constant (w := "false") (by decide) s
    rw [orElse_next string.bind, orElse_next number.bind]
    refine orElse_done ?_
    rw [bind_done (boolean_read b stop)]
    rfl
  | null =>
    obtain ⟨string, number⟩ := word_is_no_constant (w := "null") (by decide) s
    have other {w : String} (word : isIdentifier w) (different : "null" ≠ w) :
        Misses (keyword w) ("null".toList ++ s) := keyword_misses word (by decide) different stop
    have noBoolean : Misses boolean ("null".toList ++ s) :=
      .orElse (other (by decide) (by decide)).bind (other (by decide) (by decide)).bind
    rw [show literalChars .null = "null".toList from rfl, orElse_next string.bind,
      orElse_next number.bind, orElse_next noBoolean.bind, bind_done (keyword_append "null" stop)]
    rfl
  | list vs => cases formed
  | map es => cases formed
  | node e => cases formed

theorem literalChars_head {v : Value} (formed : isLiteralValue v) (legible : isLegibleValue v) :
    ∃ c t, literalChars v = c :: t ∧ c ≠ '(' := by
  cases v with
  | string k => exact ⟨'\'', _, rfl, by decide⟩
  | number x =>
    obtain ⟨d, ds, text, digit⟩ := Number.toText_start formed legible
    exact ⟨d, ds, by simp [literalChars, Value.display, text], digit_ne digit (by decide)⟩
  | bool b => cases b <;> exact ⟨_, _, rfl, by decide⟩
  | null => exact ⟨_, _, rfl, by decide⟩
  | list vs => cases formed
  | map es => cases formed
  | node e => cases formed

section
variable {expr : Reader Expr} {n : Nat}

theorem constant_misses {c : Char} (h : isIdentChar c = false) (t : List Char) (w : String)
    (word : isIdentifier w) : Misses (keyword w) (c :: t) := by
  refine keyword_misses_start word (.cons ?_ t)
  cases start : isIdentStart c with
  | false => rfl
  | true =>
    rw [isIdentChar_of_isIdentStart start] at h
    cases h

theorem literal_misses_sign {c : Char} (h : isIdentChar c = false) (single : c ≠ '\'')
    (double : c ≠ '"') (t : List Char) : Misses literal (c :: t) := by
  refine literal_misses (stringLiteral_misses (.cons (by simp [single, double]) t))
    (number_misses (.cons ?_ t)) ?_
  · cases digit : isDigit c with
    | false => rfl
    | true =>
      rw [isIdentChar_of_isDigit digit] at h
      cases h
  · intro w mem
    refine constant_misses h t w ?_
    simp only [List.mem_cons, List.not_mem_nil, or_false] at mem
    rcases mem with rfl | rfl | rfl <;> decide

theorem primary_misses_sign {c : Char} (h : isOperandHead c = false) (double : c ≠ '"')
    (t : List Char) : Misses (primary expr n) (c :: t) := by
  simp only [isOperandHead, Bool.or_eq_false_iff, decide_eq_false_iff_not] at h
  obtain ⟨⟨⟨single, bracket⟩, paren⟩, word⟩ := h
  have noName : Misses binder (c :: t) := by
    refine binder_misses (.cons ?_ t)
    cases start : isIdentStart c with
    | false => rfl
    | true =>
      rw [isIdentChar_of_isIdentStart start] at word
      cases word
  refine .orElse (char_misses (by simpa using paren)).bind
    (.orElse (literal_misses_sign word single double t) (.orElse ?_ noName.bind))
  exact (char_misses (by simpa using bracket)).bind.within _

theorem parenthesized_misses {c : Char} (other : c ≠ '(') (t : List Char) :
    Misses (parenthesized expr) (c :: t) := (char_misses (by simpa using other)).bind

theorem name_read {name : String} (free : isName name) (stop : Ends isIdentChar s) :
    primary expr n (name.toList ++ s) = .done (.ident name) s := by
  obtain ⟨word, unreserved⟩ := isName_iff.mp free
  obtain ⟨string, number⟩ := word_is_no_constant word s
  obtain ⟨c, cs, text, start, -⟩ := isIdentifier_parts word
  have other (w : String) (taken : w ∈ reserved ∧ isIdentifier w) :
      Misses (keyword w) (name.toList ++ s) := by
    refine keyword_misses taken.2 word ?_ stop
    rintro rfl
    exact unreserved taken.1
  have noOpen : Misses (parenthesized expr) (name.toList ++ s) := by
    rw [text]
    refine parenthesized_misses ?_ _
    rintro rfl
    exact absurd start (by decide)
  have constants : ∀ w ∈ ["true", "false", "null"], w ∈ reserved ∧ isIdentifier w := by decide
  have noConstant : Misses literal (name.toList ++ s) :=
    literal_misses string number fun w mem => other w (constants w mem)
  have noList : Misses (listLiteral expr n) (name.toList ++ s) := by
    refine (char_misses ?_).bind.within _
    rw [text]
    rintro ⟨⟩
    exact absurd start (by decide)
  unfold primary
  rw [orElse_next noOpen, orElse_next noConstant, orElse_next noList,
    bind_done (binder_append free stop)]
  rfl

theorem atomic_read (h : Settles false expr n) {e : Expr} (atomic : e.isAtomic)
    (formed : e.wellFormed false) (legible : e.legible) (stop : Ends isIdentChar s)
    (whole : e.endsInWhole = true → NoFraction s) (short : (e.written ++ s).length ≤ n) :
    primary expr n (e.written ++ s) = .done e s := by
  cases e with
  | literal v =>
    simp only [Expr.wellFormed] at formed
    simp only [Expr.legible] at legible
    obtain ⟨c, t, text, other⟩ := literalChars_head formed legible
    have read := literal_read formed legible stop whole
    simp only [Expr.written]
    rw [text, List.cons_append] at read ⊢
    unfold primary
    rw [orElse_next (parenthesized_misses other _)]
    exact orElse_done read
  | list items =>
    simp only [Expr.wellFormed] at formed
    simp only [Expr.legible] at legible
    simp only [Expr.written, List.cons_append, List.append_assoc, List.nil_append,
      List.length_cons] at short ⊢
    unfold primary
    rw [orElse_next (parenthesized_misses (by decide) _),
      orElse_next (literal_misses_sign (by decide) (by decide) (by decide) _)]
    refine orElse_done (within_done _ ?_)
    rw [bind_done (char_cons _ _),
      bind_done (h.items_read formed legible (by decide) (by decide) (by omega))]
    rfl
  | ident name =>
    simp only [Expr.wellFormed] at formed
    simp only [Expr.written]
    exact name_read formed stop
  | path base segments => cases atomic
  | unary op operand => cases atomic
  | binary op left right => cases atomic
  | ternary condition yes no => cases atomic
  | elvis value fallback => cases atomic
  | closure c => cases atomic

theorem parenthesized_read (h : Settles false expr n) {e : Expr} (formed : e.wellFormed false)
    (legible : e.legible) (short : (parenthesize true e.written ++ s).length ≤ n) :
    primary expr n (parenthesize true e.written ++ s) = .done e s := by
  have text : parenthesize true e.written ++ s = '(' :: (e.written ++ ')' :: s) := by
    simp [parenthesize]
  rw [text] at short ⊢
  simp only [List.length_cons] at short
  have inner : padded expr (e.written ++ ')' :: s) = .done e (')' :: s) := by
    rw [padded, bind_done (blanks_apply _), expr_skipBlanks formed legible,
      bind_done (h.reads e _ formed legible (.closer (by decide) s) (by omega)),
      bind_done (blanks_apply _), skipBlanks_of_not_blank (by decide)]
    rfl
  refine orElse_done ?_
  rw [parenthesized, bind_done (char_cons _ _)]
  refine commit_done ?_
  rw [bind_done inner, bind_done (char_cons _ _)]
  rfl

theorem postfixed_alone {e : Expr} (read : primary expr n s = .done e t) (loose : Loose t) :
    postfixed expr n s = .done e t := by
  rw [postfixed, bind_done read, bind_done (many_none (subsequent_misses loose false) n)]
  rfl

theorem operand_read (h : Settles false expr n) {e : Expr} (formed : e.wellFormed false)
    (legible : e.legible) (loose : Loose s) (short : (e.operandText ++ s).length ≤ n) :
    postfixed expr n (e.operandText ++ s) = .done e s := by
  have alone (atomic : e.isAtomic) (text : e.operandText = e.written) :
      postfixed expr n (e.operandText ++ s) = .done e s := by
    rw [text] at short ⊢
    exact postfixed_alone (atomic_read h atomic formed legible loose.seam.ends_word
      (fun _ => .of_loose loose) short) loose
  have compound (text : e.operandText = parenthesize true e.written) :
      postfixed expr n (e.operandText ++ s) = .done e s := by
    rw [text] at short ⊢
    exact postfixed_alone (parenthesized_read h formed legible short) loose
  cases e with
  | literal v => exact alone rfl rfl
  | list items => exact alone rfl rfl
  | ident name => exact alone rfl rfl
  | unary op operand => exact compound rfl
  | binary op left right => exact compound rfl
  | ternary condition yes no => exact compound rfl
  | elvis value fallback => exact compound rfl
  | closure c => simp [Expr.wellFormed] at formed
  | path base segments =>
    simp only [Expr.wellFormed, Bool.and_eq_true, Bool.not_eq_true', List.isEmpty_eq_false_iff]
      at formed
    simp only [Expr.legible, Bool.and_eq_true] at legible
    obtain ⟨⟨formedBase, some⟩, formedSegments⟩ := formed
    -- The base stands in parentheses unless it is atomic; a whole number must not meet a fraction.
    have text : (Expr.path base segments).operandText ++ s =
        parenthesize (!base.isAtomic) base.written ++
          (writtenSegments segments ++ s) := by
      simp only [Expr.operandText, Expr.isCompound, Expr.written, parenthesize, Bool.false_eq_true,
        if_false, List.append_assoc]
    rw [text] at short ⊢
    have room : (writtenSegments segments ++ s).length ≤ n := by
      rw [List.length_append] at short
      omega
    have first : primary expr n (parenthesize (!base.isAtomic) base.written ++
        (writtenSegments segments ++ s)) = .done base (writtenSegments segments ++ s) := by
      cases atomic : base.isAtomic with
      | true =>
        rw [atomic] at short
        refine atomic_read h atomic formedBase legible.1.1 (seam_segments _ loose).ends_word ?_
          short
        intro whole
        have plain := legible.2
        simp only [keepsPoint, whole, Bool.true_and, Bool.not_eq_true'] at plain
        exact noFraction_segments formedSegments plain some
      | false =>
        rw [atomic] at short
        exact parenthesized_read h formedBase legible.1.1 short
    have full : segments.isEmpty = false := by simpa using some
    rw [postfixed, bind_done first,
      bind_done (segments_read h formedSegments legible.1.2 loose room (Nat.le_refl n)), full]
    rfl

theorem operand_head {e : Expr} (formed : e.wellFormed false) (legible : e.legible)
    (s : List Char) : ∃ c t, e.operandText ++ s = c :: t ∧ isOperandHead c := by
  obtain ⟨c, t, text, head⟩ := (operand_start formed legible .nil).head
  rw [List.append_nil] at text
  exact ⟨c, t ++ s, by rw [text, List.cons_append], head⟩

theorem prefix_misses {c : Char} (head : isOperandHead c) (t : List Char) :
    Misses prefixOperator (c :: t) := by
  have bang : c ≠ '!' := by
    rintro rfl
    exact absurd head (by decide)
  have minus : c ≠ '-' := by
    rintro rfl
    exact absurd head (by decide)
  exact .orElse (char_misses (by simpa using bang)).bind (char_misses (by simpa using minus)).bind

theorem prefix_read (op : UnaryOp) {c : Char} (head : isOperandHead c) (t : List Char) :
    prefixOperator (op.chars ++ c :: t) = .done op (c :: t) := by
  cases op with
  | not =>
    have other : c ≠ '=' := by
      rintro rfl
      exact absurd head (by decide)
    have read : char '!' (UnaryOp.not.chars ++ c :: t) = .done '!' (c :: t) := char_cons _ _
    refine orElse_done ?_
    rw [bind_done read, bind_done (notAhead_done (char_misses (by simpa using other)))]
    rfl
  | neg =>
    have read : char '-' (UnaryOp.neg.chars ++ c :: t) = .done '-' (c :: t) := char_cons _ _
    have noBang : Misses (char '!') (UnaryOp.neg.chars ++ c :: t) :=
      char_misses (by simp [UnaryOp.chars])
    refine (orElse_next noBang.bind).trans ?_
    rw [bind_done read]
    rfl

theorem unary_operand (h : Settles false expr n) {e : Expr} (formed : e.wellFormed false)
    (legible : e.legible) (loose : Loose s) (short : (e.operandText ++ s).length ≤ n)
    (depth : Nat) : unary expr n depth (e.operandText ++ s) = .done e s := by
  have read := operand_read h formed legible loose short
  cases depth with
  | zero => exact read
  | succ depth =>
    obtain ⟨c, t, text, head⟩ := operand_head formed legible s
    rw [text] at read ⊢
    exact (orElse_next (prefix_misses head t).bind).trans read

theorem unary_prefixed (h : Settles false expr n) (op : UnaryOp) {e : Expr}
    (formed : e.wellFormed false) (legible : e.legible) (loose : Loose s)
    (short : ((Expr.unary op e).written ++ s).length ≤ n) :
    unary expr n n ((Expr.unary op e).written ++ s) = .done (.unary op e) s := by
  have text : (Expr.unary op e).written ++ s = op.chars ++ (e.operandText ++ s) := by
    simp only [Expr.written, Expr.operandText, List.append_assoc]
  have some : 0 < op.chars.length := by
    cases op <;> decide
  rw [text] at short ⊢
  rw [List.length_append] at short
  obtain ⟨m, size⟩ : ∃ m, n = m + 1 := ⟨n - 1, by omega⟩
  have operand : unary expr n m (e.operandText ++ s) = .done e s :=
    unary_operand h formed legible loose (by omega) m
  have unfolded : unary expr n n = unary expr n (m + 1) := by rw [← size]
  obtain ⟨c, t, start, head⟩ := operand_head formed legible s
  rw [start] at operand
  rw [unfolded, start]
  refine orElse_done ?_
  rw [bind_done (prefix_read op head t), bind_done (blanks_apply _),
    skipBlanks_of_not_blank (isOperandHead_not_blank head), bind_done (commit_done operand)]
  rfl

theorem no_choice (stop : Stop s) : (skipBlanks s).head? ≠ some '?' := by
  intro head
  exact absurd (stop _ head) (by decide)

theorem choice_misses (stop : Stop s) : Misses (choice expr) s := by
  have none := no_choice stop
  refine .bind_after (blanks_apply s) (.orElse (Misses.bind (word_misses ?_))
    (char_misses none).bind)
  rintro ⟨t, text⟩
  rw [← text] at none
  exact none rfl

theorem choice_elvis (h : Settles false expr n) {fallback : Expr}
    (formed : fallback.wellFormed false) (legible : fallback.legible) (stop : Stop s)
    (short : (fallback.written ++ s).length < n) :
    ∃ f : Expr → Expr, (∀ value, f value = .elvis value fallback) ∧
      choice expr (' ' :: '?' :: ':' :: ' ' :: (fallback.written ++ s)) = .done f s := by
  refine ⟨_, fun value => rfl, ?_⟩
  have sign : word "?:" ('?' :: ':' :: ' ' :: (fallback.written ++ s)) =
      .done () (' ' :: (fallback.written ++ s)) := word_append "?:" _
  rw [choice, bind_done (blanks_apply _), skipBlanks_blank, skipBlanks_of_not_blank (by decide)]
  refine orElse_done ?_
  rw [bind_done sign, bind_done (blanks_apply _), skipBlanks_blank, expr_skipBlanks formed legible,
    bind_done (commit_done (h.reads _ _ formed legible stop short))]
  rfl

theorem choice_ternary (h : Settles false expr n) {yes no : Expr}
    (formedYes : yes.wellFormed false) (legibleYes : yes.legible)
    (formedNo : no.wellFormed false) (legibleNo : no.legible) (stop : Stop s)
    (short : (yes.written ++ ' ' :: ':' :: ' ' :: (no.written ++ s)).length < n) :
    ∃ f : Expr → Expr, (∀ condition, f condition = .ternary condition yes no) ∧
      choice expr (' ' :: '?' :: ' ' :: (yes.written ++ ' ' :: ':' :: ' ' :: (no.written ++ s))) =
        .done f s := by
  refine ⟨_, fun condition => rfl, ?_⟩
  have noElvis : Misses (word "?:")
      ('?' :: ' ' :: (yes.written ++ ' ' :: ':' :: ' ' :: (no.written ++ s))) := by
    refine word_misses ?_
    rintro ⟨t, text⟩
    cases text
  have between : Stop (' ' :: ':' :: ' ' :: (no.written ++ s)) := .blank (.closer (by decide) _)
  rw [choice, bind_done (blanks_apply _), skipBlanks_blank, skipBlanks_of_not_blank (by decide),
    orElse_next noElvis.bind, bind_done (char_cons _ _)]
  refine commit_done ?_
  rw [bind_done (blanks_apply _), skipBlanks_blank, expr_skipBlanks formedYes legibleYes,
    bind_done (h.reads _ _ formedYes legibleYes between short), bind_done (blanks_apply _),
    skipBlanks_blank, skipBlanks_of_not_blank (by decide), bind_done (char_cons _ _),
    bind_done (blanks_apply _), skipBlanks_blank, expr_skipBlanks formedNo legibleNo,
    bind_done (h.reads _ _ formedNo legibleNo stop (by
      simp only [List.length_append, List.length_cons] at short ⊢
      omega))]
  rfl

theorem expressionWith_plain {e : Expr} (read : unary expr n n s = .done e t) (stop : Stop t) :
    expressionWith expr n s = .done e t := by
  rw [expressionWith, bind_done (ladder_reads read (noOperator_of_stop stop)),
    bind_done (optional_none (choice_misses stop))]
  rfl

theorem expressionWith_choice {e : Expr} {f : Expr → Expr} {r : List Char}
    (read : unary expr n n s = .done e (' ' :: '?' :: t))
    (tail : choice expr (' ' :: '?' :: t) = .done f r) :
    expressionWith expr n s = .done (f e) r := by
  have none : NoOperator (skipBlanks (' ' :: '?' :: t)) := by
    rw [skipBlanks_blank, skipBlanks_of_not_blank (by decide)]
    intro c head
    cases head
    exact .inr rfl
  rw [expressionWith, bind_done (ladder_reads read none), bind_done (optional_done tail)]
  rfl

theorem binary_read (h : Settles false expr n) (op : BinaryOp) {left right : Expr}
    (formedLeft : left.wellFormed false) (legibleLeft : left.legible)
    (formedRight : right.wellFormed false) (legibleRight : right.legible) (stop : Stop s)
    (short : ((Expr.binary op left right).written ++ s).length ≤ n) :
    expressionWith expr n ((Expr.binary op left right).written ++ s) =
      .done (.binary op left right) s := by
  have text : (Expr.binary op left right).written ++ s =
      left.operandText ++ ' ' :: (op.chars ++ ' ' :: (right.operandText ++ s)) := by
    simp only [Expr.written, Expr.operandText, List.append_assoc, List.cons_append]
  rw [text] at short ⊢
  simp only [List.length_append, List.length_cons] at short
  have between : Loose (' ' :: (op.chars ++ ' ' :: (right.operandText ++ s))) := by
    obtain ⟨c, d, t, shape, blank, -, brace, -⟩ := op.chars_start (right.operandText ++ s)
    rw [shape]
    exact .blank_cons blank brace _
  have solid : skipBlanks (right.operandText ++ s) = right.operandText ++ s := by
    obtain ⟨c, t, start, head⟩ := operand_head formedRight legibleRight s
    rw [start]
    exact skipBlanks_of_not_blank (isOperandHead_not_blank head) t
  have first := unary_operand h formedLeft legibleLeft between (by
    simp only [List.length_append, List.length_cons]
    omega) n
  have second := unary_operand h formedRight legibleRight stop.loose (by
    simp only [List.length_append]
    omega) n
  rw [expressionWith,
    bind_done (ladder_binary (by omega) first second solid (noOperator_of_stop stop)),
    bind_done (optional_none (choice_misses stop))]
  rfl

theorem expressionWith_read (h : Settles false expr n) {e : Expr} (formed : e.wellFormed false)
    (legible : e.legible) (stop : Stop s) (short : (e.written ++ s).length ≤ n) :
    expressionWith expr n (e.written ++ s) = .done e s := by
  have alone (text : e.operandText = e.written) :
      expressionWith expr n (e.written ++ s) = .done e s := by
    rw [← text] at short ⊢
    exact expressionWith_plain (unary_operand h formed legible stop.loose short n) stop
  cases e with
  | literal v => exact alone rfl
  | list items => exact alone rfl
  | ident name => exact alone rfl
  | path base segments => exact alone rfl
  | closure c => simp [Expr.wellFormed] at formed
  | unary op operand =>
    simp only [Expr.wellFormed] at formed
    simp only [Expr.legible] at legible
    exact expressionWith_plain (unary_prefixed h op formed legible stop.loose short) stop
  | binary op left right =>
    simp only [Expr.wellFormed, Bool.and_eq_true] at formed
    simp only [Expr.legible, Bool.and_eq_true] at legible
    exact binary_read h op formed.1 legible.1 formed.2 legible.2 stop short
  | ternary condition yes no =>
    simp only [Expr.wellFormed, Bool.and_eq_true] at formed
    simp only [Expr.legible, Bool.and_eq_true] at legible
    have text : (Expr.ternary condition yes no).written ++ s = condition.operandText ++
        ' ' :: '?' :: ' ' :: (yes.written ++ ' ' :: ':' :: ' ' :: (no.written ++ s)) := by
      simp only [Expr.written, Expr.operandText, List.append_assoc, List.cons_append]
    rw [text] at short ⊢
    have first := unary_operand h formed.1.1 legible.1.1
      (.blank_cons (by decide) (by decide) _) short n
    simp only [List.length_append, List.length_cons] at short
    obtain ⟨f, value, tail⟩ := choice_ternary h formed.1.2 legible.1.2 formed.2 legible.2 stop (by
      simp only [List.length_append, List.length_cons]
      omega)
    rw [expressionWith_choice first tail, value]
  | elvis value fallback =>
    simp only [Expr.wellFormed, Bool.and_eq_true] at formed
    simp only [Expr.legible, Bool.and_eq_true] at legible
    have text : (Expr.elvis value fallback).written ++ s = value.operandText ++
        ' ' :: '?' :: ':' :: ' ' :: (fallback.written ++ s) := by
      simp only [Expr.written, Expr.operandText, List.append_assoc, List.cons_append]
    rw [text] at short ⊢
    have first := unary_operand h formed.1 legible.1 (.blank_cons (by decide) (by decide) _) short n
    simp only [List.length_append, List.length_cons] at short
    obtain ⟨f, result, tail⟩ := choice_elvis h formed.2 legible.2 stop (by
      simp only [List.length_append]
      omega)
    rw [expressionWith_choice first tail, result]

theorem expressionWith_misses_sign {c : Char} (h : isOperandHead c = false)
    (other : c ∉ ['"', '!', '-']) (t : List Char) : Misses (expressionWith expr n) (c :: t) := by
  simp only [List.mem_cons, List.not_mem_nil, or_false, not_or] at other
  obtain ⟨double, bang, minus⟩ := other
  have noPrimary : Misses (primary expr n) (c :: t) := primary_misses_sign h double t
  have noPrefix : Misses prefixOperator (c :: t) :=
    .orElse (char_misses (by simpa using bang)).bind (char_misses (by simpa using minus)).bind
  have noUnary : Misses (unary expr n n) (c :: t) := by
    cases n with
    | zero => exact noPrimary.bind
    | succ n => exact .orElse noPrefix.bind noPrimary.bind
  have noLevel (k : Nat) : Misses (ladder expr n k) (c :: t) := by
    induction k with
    | zero => exact noUnary
    | succ k ih => exact ih.bind
  exact (noLevel 6).bind

theorem expressionWith_misses {c : Char} (closer : isCloser c) (t : List Char) :
    Misses (expressionWith expr n) (c :: t) := by
  have sign : isOperandHead c = false ∧ c ∉ ['"', '!', '-'] := by
    refine isCloser_cases (p := fun c => isOperandHead c = false ∧ c ∉ ['"', '!', '-']) closer
      ?_ ?_ ?_ ?_ ?_ ?_ <;> decide
  exact expressionWith_misses_sign sign.1 sign.2 t

end

theorem expression_settles (n : Nat) : Settles false (expression n) n := by
  induction n with
  | zero => exact ⟨fun e s _ _ _ short => absurd short (Nat.not_lt_zero _), fun c s _ => ⟨_, rfl⟩⟩
  | succ n ih =>
    exact ⟨fun e s formed legible stop short =>
      expressionWith_read ih formed legible stop (by omega),
      fun c s closer => expressionWith_misses closer s⟩

end Reader

/-- The text of a path with parentheses around the bases that need them. -/
def Path.written (p : Path) : List Char :=
  match p.segments with
  | [] => []
  | g :: gs => g.written ++ writtenSegments gs

namespace Reader

theorem isKeyChar_not_blank {c : Char} (h : isKeyChar true c) : isBlank c = false := by
  cases blank : isBlank c with
  | false => rfl
  | true =>
    refine absurd h ?_
    refine isBlank_cases (p := fun c => ¬ isKeyChar true c) blank ?_ ?_ ?_ ?_ <;> decide

theorem isJoint_not_blank {c : Char} (h : isJoint c) : isBlank c = false :=
  isJoint_cases (p := fun c => isBlank c = false) h (by decide) (by decide) (by decide)

theorem written_head {g : Segment} (formed : g.wellFormed) (first : g.isSpread = false) :
    ∃ c t, g.written = c :: t ∧ isBlank c = false ∧
      (c = '$' → (∃ name, g = .field name ∧ name.toList = ['$']) ∨
        ∃ d u, t = d :: u ∧ isBlank d = false) := by
  cases g with
  | field name =>
    simp only [Segment.written]
    cases bare : isBare name with
    | true =>
      obtain ⟨c, cs, text, start, run⟩ := isBare_parts bare
      rw [if_pos rfl, text]
      refine ⟨c, cs, rfl, ?_, ?_⟩
      · cases blank : isBlank c with
        | false => rfl
        | true =>
          refine absurd start ?_
          refine isBlank_cases (p := fun c => ¬ isKeyStart c) blank ?_ ?_ ?_ ?_ <;> decide
      · rintro rfl
        cases cs with
        | nil => exact .inl ⟨name, rfl, text⟩
        | cons d u =>
          rw [List.all_cons, Bool.and_eq_true] at run
          exact .inr ⟨d, u, rfl, isKeyChar_not_blank run.1⟩
    | false => exact ⟨'\'', _, rfl, by decide, by simp⟩
  | index selector =>
    cases selector <;> exact ⟨'[', _, by simp only [Segment.written, Selector.chars]; rfl,
      by decide, by simp⟩
  | wildcard => exact ⟨'*', [], by simp only [Segment.written], by decide, by simp⟩
  | descent => exact ⟨'*', ['*'], by simp only [Segment.written], by decide, by simp⟩
  | call name args =>
    simp only [Segment.wellFormed, Bool.and_eq_true] at formed
    obtain ⟨-, -, -, word⟩ := isKnownCall_parts formed.1
    obtain ⟨c, cs, text, start, run⟩ := isIdentifier_parts word
    simp only [Segment.written, text, List.cons_append]
    refine ⟨c, _, rfl, ?_, fun _ => .inr ?_⟩
    · exact isKeyChar_not_blank (isKeyChar_isIdentChar (isIdentChar_of_isIdentStart start))
    · cases cs with
      | nil => exact ⟨'(', _, rfl, by decide⟩
      | cons d u =>
        rw [List.all_cons, Bool.and_eq_true] at run
        exact ⟨d, _, rfl, isKeyChar_not_blank (isKeyChar_isIdentChar run.1)⟩
  | spread inner => cases first

theorem root_misses {g : Segment} {gs : List Segment} (formed : g.wellFormed)
    (first : g.isSpread = false) (legible : (Path.mk (g :: gs)).legible) :
    Misses root (g.written ++ writtenSegments gs) := by
  obtain ⟨c, t, text, -, dollar⟩ := written_head formed first
  rw [text, List.cons_append]
  refine .orElse ?_ (atEnd_misses (by simp)).bind
  by_cases sign : c = '$'
  · subst sign
    refine .bind_after (char_cons _ _) (Misses.bind (ahead_misses (.bind_after (blanks_apply _)
      (atEnd_misses ?_))))
    rcases dollar rfl with ⟨name, rfl, chars⟩ | ⟨d, u, rfl, blank⟩
    · have spelled : name = "$" := String.toList_inj.mp chars
      subst spelled
      have bare : isBare "$" = true := by decide
      simp only [Segment.written, bare, if_true, chars, List.cons.injEq, true_and] at text
      subst text
      cases gs with
      | nil => simp [Path.legible] at legible
      | cons f fs =>
        obtain ⟨d, u, rest, joint⟩ := writtenSegments_start (f :: fs) (by simp)
        rw [rest, List.nil_append, skipBlanks_of_not_blank (isJoint_not_blank joint)]
        simp
    · rw [List.cons_append, skipBlanks_of_not_blank blank]
      simp
  · exact (char_misses (by simpa using sign)).bind

theorem first_read {expr : Reader Expr} {n : Nat} (h : Settles false expr n) {g : Segment}
    {gs : List Segment} (formed : wellFormedSegments (g :: gs)) (first : g.isSpread = false)
    (legible : g.legible true) (short : (g.written ++ writtenSegments gs).length ≤ n) :
    (subscript <|> segment expr n true) (g.written ++ writtenSegments gs) =
      .done g (writtenSegments gs) := by
  have whole := formed
  simp only [wellFormedSegments, Bool.and_eq_true] at formed
  have detachedRead (detached : g.isAttached = false) : (subscript <|> segment expr n true)
      (g.written ++ writtenSegments gs) = .done g (writtenSegments gs) := by
    have seam : Seam (writtenSegments gs ++ []) := seam_segments gs .nil
    have star := star_segments (s := []) whole .nil
    rw [List.append_nil] at seam star
    have none : Misses subscript (g.written ++ writtenSegments gs) := by
      obtain ⟨c, t, text, sign, -⟩ := detached_head formed.1.1 detached
      have other : c ≠ '[' := by
        rcases sign with rfl | rfl | start
        · decide
        · decide
        · exact isKeyStart_ne start (by decide)
      rw [text, List.cons_append]
      exact (char_misses (by simpa using other)).bind.within _
    rw [orElse_next none]
    exact segment_read h detached formed.1.1 legible seam star short
  cases g with
  | index selector =>
    refine orElse_done ?_
    simp only [Segment.written]
    exact subscript_read legible
  | spread inner => cases first
  | wildcard => exact detachedRead rfl
  | descent => exact detachedRead rfl
  | field name => exact detachedRead rfl
  | call name args => exact detachedRead rfl

theorem path_read {n : Nat} {p : Path} (formed : p.wellFormed) (legible : p.legible)
    (short : p.written.length ≤ n) : path n p.written = .done p [] := by
  obtain ⟨segments⟩ := p
  cases segments with
  | nil => rfl
  | cons g gs =>
    simp only [Path.wellFormed, List.head?_cons, Option.any_some, Bool.and_eq_true,
      Bool.not_eq_true'] at formed
    obtain ⟨first, formed⟩ := formed
    have h := expression_settles n
    have whole := legible
    simp only [Path.legible, legibleSegments, Bool.and_eq_true] at legible
    have parts := formed
    simp only [wellFormedSegments, Bool.and_eq_true] at parts
    simp only [Path.written] at short ⊢
    have rest := segments_read h (s := []) parts.2 legible.1.2 .nil (m := n) (by
      rw [List.length_append] at short
      rw [List.append_nil]
      omega) (Nat.le_refl n)
    rw [List.append_nil] at rest
    have all : Reader.segments (expression n) n (g.written ++ writtenSegments gs) =
        .done (g :: gs) [] := by
      rw [Reader.segments, bind_done (first_read h formed first legible.1.1 short), bind_done rest]
      rfl
    rw [path, orElse_next (root_misses parts.1.1 first whole), bind_done all]
    rfl

end Reader

theorem Path.written_skipBlanks {p : Path} (formed : p.wellFormed) :
    skipBlanks p.written = p.written := by
  obtain ⟨segments⟩ := p
  cases segments with
  | nil => rfl
  | cons g gs =>
    simp only [Path.wellFormed, List.head?_cons, Option.any_some, Bool.and_eq_true,
      Bool.not_eq_true', wellFormedSegments] at formed
    obtain ⟨c, t, text, blank, -⟩ := written_head formed.2.1.1 formed.1
    simp only [Path.written, text, List.cons_append]
    exact skipBlanks_of_not_blank blank _

theorem Path.readChars_written {p : Path} (formed : p.wellFormed) (legible : p.legible) :
    Path.readChars p.written = .ok p := by
  have inner : padded (path (p.written.length + 1)) p.written = .done p [] := by
    rw [padded, bind_done (blanks_apply _), written_skipBlanks formed,
      bind_done (path_read formed legible (Nat.le_succ _)), bind_done (blanks_apply _)]
    rfl
  have whole : wholePath (p.written.length + 1) p.written = .done p [] := by
    rw [wholePath, bind_done inner]
    rfl
  simp only [Path.readChars, whole]

end DocPath
