import DocPath.Path.Grammar
import DocPath.Proofs.Path.Written

/-!
What may follow a part of a written path, and what a written expression starts with. A reader
stops where the next part begins, so these facts stand between the readers and the text.
-/

namespace DocPath

open Reader

variable {s : List Char}

def isCloser (c : Char) : Bool :=
  c = ',' || c = ']' || c = ')' || c = ';' || c = ':' || c = '}'

def isJoint (c : Char) : Bool := c = '.' || c = '[' || c = '*'

def NoClosure (s : List Char) : Prop := (skipBlanks s).head? ≠ some '{'

structure Seam (s : List Char) : Prop where
  head : ∀ c, s.head? = some c → isBlank c ∨ isCloser c ∨ isJoint c
  closure : NoClosure s

structure Loose (s : List Char) : Prop where
  head : ∀ c, s.head? = some c → isBlank c ∨ isCloser c
  closure : NoClosure s

def Stop (s : List Char) : Prop := ∀ c, (skipBlanks s).head? = some c → isCloser c

@[simp] theorem skipBlanks_blank (s : List Char) : skipBlanks (' ' :: s) = skipBlanks s := by
  simp [skipBlanks, isBlank]

theorem skipBlanks_of_not_blank {c : Char} (h : isBlank c = false) (s : List Char) :
    skipBlanks (c :: s) = c :: s := by
  simp [skipBlanks, h]

theorem isCloser_cases {p : Char → Prop} {c : Char} (h : isCloser c) (comma : p ',')
    (bracket : p ']') (paren : p ')') (semicolon : p ';') (colon : p ':') (brace : p '}') :
    p c := by
  simp only [isCloser, Bool.or_eq_true, decide_eq_true_eq] at h
  rcases h with ((((h | h) | h) | h) | h) | h <;> subst h <;> assumption

theorem isJoint_cases {p : Char → Prop} {c : Char} (h : isJoint c) (point : p '.')
    (bracket : p '[') (star : p '*') : p c := by
  simp only [isJoint, Bool.or_eq_true, decide_eq_true_eq] at h
  rcases h with (h | h) | h <;> subst h <;> assumption

theorem isBlank_cases {p : Char → Prop} {c : Char} (h : isBlank c) (space : p ' ')
    (line : p '\n') (tab : p '\t') (ret : p '\r') : p c := by
  simp only [isBlank, Bool.or_eq_true, decide_eq_true_eq] at h
  rcases h with ((h | h) | h) | h <;> subst h <;> assumption

theorem not_blank {g : Char → Bool} {c : Char} (h : g c) (space : g ' ' = false)
    (line : g '\n' = false) (tab : g '\t' = false) (ret : g '\r' = false) :
    isBlank c = false := by
  cases blank : isBlank c with
  | false => rfl
  | true =>
    have no := isBlank_cases (p := fun c => g c = false) blank space line tab ret
    rw [h] at no
    cases no

theorem isCloser_not_blank {c : Char} (h : isCloser c) : isBlank c = false :=
  not_blank h (by decide) (by decide) (by decide) (by decide)

theorem isJoint_not_blank {c : Char} (h : isJoint c) : isBlank c = false :=
  not_blank h (by decide) (by decide) (by decide) (by decide)

theorem Stop.closer {c : Char} (h : isCloser c) (s : List Char) : Stop (c :: s) := by
  intro d head
  rw [skipBlanks_of_not_blank (isCloser_not_blank h)] at head
  cases head
  exact h

theorem Stop.blank (h : Stop s) : Stop (' ' :: s) := by
  intro c head
  rw [skipBlanks_blank] at head
  exact h c head

theorem Stop.loose (h : Stop s) : Loose s := by
  constructor
  · intro c head
    cases s with
    | nil => cases head
    | cons d t =>
      cases head
      cases blank : isBlank c with
      | true => exact .inl rfl
      | false => exact .inr (h c (by rw [skipBlanks_of_not_blank blank]; rfl))
  · intro head
    exact absurd (h _ head) (by decide)

theorem Loose.seam (h : Loose s) : Seam s :=
  ⟨fun c head => (h.head c head).elim .inl (fun closer => .inr (.inl closer)), h.closure⟩

theorem Loose.nil : Loose [] := by
  constructor
  · intro c head
    cases head
  · simp [NoClosure, skipBlanks]

theorem Loose.blank_cons {c : Char} (h : isBlank c = false) (other : c ≠ '{') (s : List Char) :
    Loose (' ' :: c :: s) := by
  constructor
  · intro d head
    cases head
    exact .inl rfl
  · rw [NoClosure, skipBlanks_blank, skipBlanks_of_not_blank h]
    simpa using other

theorem Seam.joint {c : Char} (h : isJoint c) (s : List Char) : Seam (c :: s) := by
  constructor
  · intro d head
    cases head
    exact .inr (.inr h)
  · rw [NoClosure, skipBlanks_of_not_blank (isJoint_not_blank h)]
    intro head
    cases head
    exact absurd h (by decide)

theorem Seam.ends (h : Seam s) {g : Char → Bool} (blank : ∀ c, isBlank c → g c = false)
    (closer : ∀ c, isCloser c → g c = false) (joint : ∀ c, isJoint c → g c = false) :
    Ends g s := by
  intro c head
  rcases h.head c head with h | h | h
  · exact blank c h
  · exact closer c h
  · exact joint c h

theorem Seam.ends_key (h : Seam s) (hyphens : Bool) : Ends (isKeyChar hyphens) s := by
  refine h.ends (fun c blank => ?_) (fun c closer => ?_) (fun c joint => ?_)
  · refine isBlank_cases (p := fun c => isKeyChar hyphens c = false) blank ?_ ?_ ?_ ?_ <;>
      cases hyphens <;> decide
  · refine isCloser_cases (p := fun c => isKeyChar hyphens c = false) closer ?_ ?_ ?_ ?_ ?_ ?_ <;>
      cases hyphens <;> decide
  · refine isJoint_cases (p := fun c => isKeyChar hyphens c = false) joint ?_ ?_ ?_ <;>
      cases hyphens <;> decide

theorem Seam.ends_word (h : Seam s) : Ends isIdentChar s :=
  (h.ends_key false).mono fun _ => isKeyChar_isIdentChar

theorem Seam.no_paren (h : Seam s) : s.head? ≠ some '(' := by
  intro head
  rcases h.head _ head with h | h | h <;> exact absurd h (by decide)

/-- After a word at the start of an expression: nothing that would make it a parameter. -/
structure AfterWord (s : List Char) : Prop where
  word : Ends isIdentChar s
  comma : (skipBlanks s).head? ≠ some ','
  arrow : ¬ "->".toList <+: skipBlanks s

theorem AfterWord.nil : AfterWord [] :=
  ⟨.nil _, by simp [skipBlanks], by simp [skipBlanks]⟩

theorem AfterWord.joint {c : Char} (h : isJoint c) (s : List Char) : AfterWord (c :: s) := by
  refine ⟨(Seam.joint h s).ends_word, ?_, ?_⟩ <;>
    rw [skipBlanks_of_not_blank (isJoint_not_blank h)]
  · intro head
    cases head
    exact absurd h (by decide)
  · rintro ⟨t, text⟩
    cases text
    exact absurd h (by decide)

theorem AfterWord.blank_cons {c d : Char} (h : isBlank c = false) (comma : c ≠ ',')
    (arrow : c ≠ '-' ∨ d ≠ '>') (s : List Char) : AfterWord (' ' :: c :: d :: s) := by
  refine ⟨.cons (by decide) _, ?_, ?_⟩ <;>
    rw [skipBlanks_blank, skipBlanks_of_not_blank h]
  · simpa using comma
  · rintro ⟨t, text⟩
    cases text
    rcases arrow with h | h <;> exact h rfl

theorem AfterWord.brace (s : List Char) : AfterWord (' ' :: '}' :: s) := by
  refine ⟨.cons (by decide) _, ?_, ?_⟩ <;>
    rw [skipBlanks_blank, skipBlanks_of_not_blank (by decide)]
  · simp
  · rintro ⟨t, text⟩
    cases text

/-- The start of an operand: a sign, a digit, or a word. -/
inductive OperandStart : List Char → Prop where
  | symbol (c : Char) (s : List Char) (h : c = '\'' ∨ c = '[' ∨ c = '(' ∨ isDigit c) :
    OperandStart (c :: s)
  | word (name : String) (s : List Char) (h : isIdentifier name)
    (known : isName name ∨ name ∈ ["true", "false", "null"]) (after : AfterWord s) :
    OperandStart (name.toList ++ s)

inductive ExprStart : List Char → Prop where
  | operand {t : List Char} (h : OperandStart t) : ExprStart t
  | prefixed {t : List Char} (op : UnaryOp) (h : OperandStart t) : ExprStart (op.chars ++ t)

theorem literal_start {v : Value} (h : isLiteralValue v) (legible : isLegibleValue v)
    (after : AfterWord s) : OperandStart (literalChars v ++ s) := by
  cases v with
  | null => exact .word "null" s (by decide) (by decide) after
  | bool b => cases b <;> exact .word _ s (by decide) (by decide) after
  | string t => exact .symbol '\'' _ (.inl rfl)
  | number x =>
    obtain ⟨d, ds, text, digit⟩ := Number.toText_start h legible
    have chars : literalChars (.number x) = d :: ds := text
    rw [chars]
    exact .symbol d _ (.inr (.inr (.inr digit)))
  | list vs => cases h
  | map es => cases h
  | node e => cases h

theorem writtenSegments_start (segments : List Segment) (some : segments ≠ []) :
    ∃ c t, writtenSegments segments = c :: t ∧ isJoint c := by
  cases segments with
  | nil => exact absurd rfl some
  | cons g ss =>
    rw [writtenSegments]
    cases g with
    | index selector =>
      cases selector <;> exact ⟨'[', _, rfl, by decide⟩
    | spread inner =>
      refine ⟨'*', '.' :: inner.written ++ writtenSegments ss, ?_, by decide⟩
      simp only [Segment.isAttached, if_true, Segment.written, List.cons_append]
    | field name => exact ⟨'.', _, rfl, by decide⟩
    | wildcard => exact ⟨'.', _, rfl, by decide⟩
    | descent => exact ⟨'.', _, rfl, by decide⟩
    | call name args => exact ⟨'.', _, rfl, by decide⟩

theorem AfterWord.segments {segments : List Segment} (some : segments ≠ []) (s : List Char) :
    AfterWord (writtenSegments segments ++ s) := by
  obtain ⟨c, t, text, joint⟩ := writtenSegments_start _ some
  rw [text]
  exact .joint joint _

theorem isAtomic_start {e : Expr} (atomic : e.isAtomic) (formed : e.wellFormed false)
    (legible : e.legible) (after : AfterWord s) : OperandStart (e.written ++ s) := by
  cases e with
  | literal v =>
    simp only [Expr.wellFormed] at formed
    simp only [Expr.legible] at legible
    simpa only [Expr.written] using literal_start formed legible after
  | list items => simpa only [Expr.written] using .symbol '[' _ (.inr (.inl rfl))
  | ident name =>
    simp only [Expr.wellFormed] at formed
    simp only [Expr.written]
    exact .word name s (isName_iff.mp formed).1 (.inl formed) after
  | path base segments => cases atomic
  | unary op operand => cases atomic
  | binary op left right => cases atomic
  | ternary condition yes no => cases atomic
  | elvis value fallback => cases atomic
  | closure c => cases atomic

theorem operand_start {e : Expr} (formed : e.wellFormed false) (legible : e.legible)
    (after : AfterWord s) : OperandStart (e.operandText ++ s) := by
  have paren (cs t : List Char) : OperandStart (parenthesize true cs ++ t) :=
    .symbol '(' _ (.inr (.inr (.inl rfl)))
  cases e with
  | literal v => exact isAtomic_start rfl formed legible after
  | list items => exact isAtomic_start rfl formed legible after
  | ident name => exact isAtomic_start rfl formed legible after
  | path base segments =>
    simp only [Expr.wellFormed, Bool.and_eq_true, Bool.not_eq_true', List.isEmpty_eq_false_iff]
      at formed
    simp only [Expr.legible, Bool.and_eq_true] at legible
    have text : (Expr.path base segments).operandText =
        parenthesize (!base.isAtomic) base.written ++ writtenSegments segments := by
      simp only [Expr.operandText, Expr.isCompound, Expr.written, parenthesize, Bool.false_eq_true,
        if_false]
    rw [text, List.append_assoc]
    cases atomic : base.isAtomic with
    | true => exact isAtomic_start atomic formed.1.1 legible.1.1 (.segments formed.1.2 s)
    | false => exact paren _ _
  | unary op operand => exact paren _ _
  | binary op left right => exact paren _ _
  | ternary condition yes no => exact paren _ _
  | elvis value fallback => exact paren _ _
  | closure c => simp [Expr.wellFormed] at formed

theorem BinaryOp.chars_start (op : BinaryOp) (s : List Char) :
    ∃ c d t, op.chars ++ ' ' :: s = c :: d :: t ∧ isBlank c = false ∧ c ≠ ',' ∧ c ≠ '{' ∧
      (c ≠ '-' ∨ d ≠ '>') := by
  cases op <;> exact ⟨_, _, _, rfl, by decide⟩

theorem expr_start {e : Expr} (formed : e.wellFormed false) (legible : e.legible)
    (after : AfterWord s) : ExprStart (e.written ++ s) := by
  cases e with
  | literal v => exact .operand (operand_start formed legible after)
  | list items => exact .operand (operand_start formed legible after)
  | ident name => exact .operand (operand_start formed legible after)
  | path base segments => exact .operand (operand_start formed legible after)
  | unary op operand =>
    simp only [Expr.wellFormed] at formed
    simp only [Expr.legible] at legible
    have start := operand_start formed legible after
    simpa only [Expr.written, List.append_assoc] using .prefixed op start
  | binary op left right =>
    simp only [Expr.wellFormed, Bool.and_eq_true] at formed
    simp only [Expr.legible, Bool.and_eq_true] at legible
    obtain ⟨c, d, t, text, blank, comma, -, arrow⟩ := op.chars_start (right.operandText ++ s)
    have start := operand_start formed.1 legible.1
      (AfterWord.blank_cons blank comma arrow t)
    rw [← text] at start
    refine .operand ?_
    simpa only [Expr.written, Expr.operandText, List.append_assoc, List.cons_append] using start
  | ternary condition yes no =>
    simp only [Expr.wellFormed, Bool.and_eq_true] at formed
    simp only [Expr.legible, Bool.and_eq_true] at legible
    have start := operand_start formed.1.1 legible.1.1
      (AfterWord.blank_cons (c := '?') (d := ' ') (by decide) (by decide) (by decide)
        (yes.written ++ ' ' :: ':' :: ' ' :: (no.written ++ s)))
    refine .operand ?_
    simpa only [Expr.written, Expr.operandText, List.append_assoc, List.cons_append] using start
  | elvis value fallback =>
    simp only [Expr.wellFormed, Bool.and_eq_true] at formed
    simp only [Expr.legible, Bool.and_eq_true] at legible
    have start := operand_start formed.1 legible.1
      (AfterWord.blank_cons (c := '?') (d := ':') (by decide) (by decide) (by decide)
        (' ' :: (fallback.written ++ s)))
    refine .operand ?_
    simpa only [Expr.written, Expr.operandText, List.append_assoc, List.cons_append] using start
  | closure c => simp [Expr.wellFormed] at formed

def isOperandHead (c : Char) : Bool := c = '\'' || c = '[' || c = '(' || isIdentChar c

theorem OperandStart.head (h : OperandStart s) : ∃ c t, s = c :: t ∧ isOperandHead c := by
  cases h with
  | symbol c t sign =>
    refine ⟨c, t, rfl, ?_⟩
    rcases sign with rfl | rfl | rfl | digit
    · decide
    · decide
    · decide
    · simp [isOperandHead, isIdentChar_of_isDigit digit]
  | word name t word known after =>
    obtain ⟨c, cs, text, start, -⟩ := isIdentifier_parts word
    exact ⟨c, cs ++ t, by rw [text, List.cons_append],
      by simp [isOperandHead, isIdentChar_of_isIdentStart start]⟩

theorem isOperandHead_not_blank {c : Char} (h : isOperandHead c) : isBlank c = false :=
  not_blank h (by decide) (by decide) (by decide) (by decide)

theorem ExprStart.head (h : ExprStart s) :
    ∃ c t, s = c :: t ∧ isBlank c = false ∧ c ≠ '{' ∧ ¬ "->".toList <+: s := by
  cases h with
  | operand h =>
    obtain ⟨c, t, rfl, head⟩ := h.head
    refine ⟨c, t, rfl, isOperandHead_not_blank head, ?_, ?_⟩
    · rintro rfl
      exact absurd head (by decide)
    · rintro ⟨u, text⟩
      cases text
      exact absurd head (by decide)
  | prefixed op h =>
    obtain ⟨c, t, rfl, head⟩ := h.head
    cases op with
    | not =>
      refine ⟨'!', c :: t, rfl, by decide, by decide, ?_⟩
      rintro ⟨u, text⟩
      cases text
    | neg =>
      refine ⟨'-', c :: t, rfl, by decide, by decide, ?_⟩
      rintro ⟨u, text⟩
      cases text
      exact absurd head (by decide)

theorem ExprStart.skipBlanks (h : ExprStart s) : skipBlanks s = s := by
  obtain ⟨c, t, rfl, blank, -⟩ := h.head
  exact skipBlanks_of_not_blank blank t

theorem ExprStart.cases_word (h : ExprStart s) :
    Ends isIdentStart s ∨ ∃ name t, s = name.toList ++ t ∧ isIdentifier name ∧
      (isName name ∨ name ∈ ["true", "false", "null"]) ∧ AfterWord t := by
  cases h with
  | operand h =>
    cases h with
    | symbol c t sign =>
      refine .inl (.cons ?_ t)
      rcases sign with rfl | rfl | rfl | digit
      · decide
      · decide
      · decide
      · exact isIdentStart_of_isDigit digit
    | word name t word known after => exact .inr ⟨name, t, rfl, word, known, after⟩
  | prefixed op h => cases op <;> exact .inl (.cons (by decide) _)

theorem keyword_misses_expr {w : String} (word : isIdentifier w) (taken : w ∈ reserved)
    (other : w ∉ ["true", "false", "null"]) (h : ExprStart s) : Misses (keyword w) s := by
  rcases h.cases_word with none | ⟨name, t, rfl, identifier, known, after⟩
  · exact keyword_misses_start word none
  · refine keyword_misses word identifier ?_ after.word
    rintro rfl
    rcases known with free | constant
    · exact (isName_iff.mp free).2 taken
    · exact other constant

theorem parameters_misses (h : ExprStart s) (n : Nat) : Misses (parameters n) s := by
  obtain ⟨c, u, text, blank, -, arrow⟩ := h.head
  have noArrow : Misses (word "->") (skipBlanks s) := by
    rw [h.skipBlanks]
    exact word_misses arrow
  have unnamed (no : Misses binder s) : Misses (parameters n) s :=
    .bind_after (separated_none no n) (.bind_after (blanks_apply s) noArrow.bind)
  rcases h.cases_word with none | ⟨name, t, same, identifier, known, after⟩
  · exact unnamed (binder_misses none)
  · cases free : isName name with
    | true =>
      have single : separated (padded (char ',')) binder n s = .done [name] t := by
        rw [same]
        refine separated_cons (binder_append free after.word) (many_none ?_ n)
        exact (Misses.bind_after (blanks_apply t) (char_misses after.comma).bind).bind
      exact .bind_after single
        (.bind_after (blanks_apply t) (word_misses after.arrow).bind)
    | false =>
      rw [free] at known
      refine unnamed ?_
      rw [same]
      refine binder_reserved _ identifier ?_ after.word
      rcases known with no | constant
      · cases no
      · revert constant
        simp only [List.mem_cons, List.not_mem_nil, or_false]
        rintro (rfl | rfl | rfl) <;> decide

theorem Expr.wellFormed_cases {a : Bool} {e : Expr} (formed : e.wellFormed a) :
    e.wellFormed false = true ∨ ∃ c, e = .closure c ∧ c.wellFormed := by
  cases e with
  | closure c =>
    simp only [Expr.wellFormed, Bool.and_eq_true] at formed
    exact .inr ⟨c, rfl, formed.2⟩
  | _ =>
    left
    simpa only [Expr.wellFormed] using formed

theorem Closure.written_start (c : Closure) : ∃ t, c.written = '{' :: ' ' :: t := by
  obtain ⟨params, locals, body⟩ := c
  simp only [Closure.written]
  exact ⟨_, rfl⟩

theorem expr_skipBlanks {a : Bool} {e : Expr} (formed : e.wellFormed a) (legible : e.legible)
    (s : List Char) : skipBlanks (e.written ++ s) = e.written ++ s := by
  have head : ∃ c t, e.written = c :: t ∧ isBlank c = false := by
    rcases e.wellFormed_cases formed with plain | ⟨c, rfl, -⟩
    · obtain ⟨c, t, text, blank, -⟩ := (expr_start plain legible .nil).head
      rw [List.append_nil] at text
      exact ⟨c, t, text, blank⟩
    · obtain ⟨t, text⟩ := c.written_start
      exact ⟨'{', ' ' :: t, by rw [Expr.written, text], by decide⟩
  obtain ⟨c, t, text, blank⟩ := head
  rw [text]
  exact skipBlanks_of_not_blank blank _

end DocPath
