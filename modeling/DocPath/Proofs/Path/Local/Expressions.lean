import DocPath.Proofs.Path.Local.Segments
import DocPath.Proofs.Path.Operators

/-!
Expressions are read alike in front of what closes them, by readers whose bounds are more than the
length of the text. The induction is on that length: what stands in brackets or behind an operator
is shorter than the whole.
-/

namespace DocPath.Reader

variable {expr expr' : Reader Expr} {n m k : Nat}

theorem literal_mirrors : Mirrors Loose Loose k literal literal := by
  have quoted : Mirrors Loose Loose k stringLiteral stringLiteral :=
    stringLiteral_mirrors (clear_loose (by decide))
  have number : Local Loose Loose k number := number_local (clear_loose (by decide))
  have boolean : Local Loose Loose k boolean := boolean_local (clear_loose (by decide))
  have null : Local Loose Loose k (keyword "null") :=
    keyword_local (clear_loose (by decide)) (by decide)
  refine .orElse ?_ ((number.bind fun x => .pure _).toMirrors.orElse
    ((boolean.bind fun b => .pure _).toMirrors.orElse (null.bind fun _ => .pure _).toMirrors))
  exact quoted.bind_sure (quoted.toCarries.bind fun s => .pure _) fun s => .pure _

theorem literal_advances : Advances literal := by
  have number : Advances number := (Advances.takeWhile1 isDigit).bind (fun ds =>
    fraction_takes.optional.bind_any fun part => exponent_takes.optional.bind_any fun e =>
      (Takes.pure _).any) |>.check
  have boolean : Advances boolean :=
    ((keyword_advances (by decide)).bind fun _ => (Takes.pure true).any).orElse
      ((keyword_advances (by decide)).bind fun _ => (Takes.pure false).any)
  refine .orElse (stringLiteral_advances.bind fun s => (Takes.pure _).any) (.orElse
    (number.bind fun x => (Takes.pure _).any)
    (.orElse (boolean.bind fun b => (Takes.pure _).any) ?_))
  exact (keyword_advances (by decide)).bind fun _ => (Takes.pure _).any

theorem prefixOperator_local : Local Loose Loose k prefixOperator :=
  ((Local.char (clear_loose (by decide))).bind fun _ =>
    (Local.notAhead (.char (clear_loose (by decide)))).bind fun _ => .pure _).orElse
      ((Local.char (clear_loose (by decide))).bind fun _ => .pure _)

theorem prefixOperator_advances : Advances prefixOperator :=
  ((Advances.char '!').bind fun _ => (Takes.notAhead _).bind_any fun _ => (Takes.pure _).any).orElse
    ((Advances.char '-').bind fun _ => (Takes.pure _).any)

theorem unary_end {t : List Char} (last : Loose t) (depth : Nat) :
    unary expr n depth t = postfixed expr n t := by
  cases depth with
  | zero => rfl
  | succ depth =>
    have none : Misses prefixOperator t :=
      .orElse (char_misses fun head => absurd (last.heads _ head) (by decide)).bind
        (char_misses fun head => absurd (last.heads _ head) (by decide)).bind
    exact orElse_next none.bind

section
variable (first : k ≤ n) (second : k ≤ m) (inner : Mirrors Closed Closed k expr expr')
  (some : Advances expr)
include first second inner some

theorem primary_mirrors :
    Mirrors Loose Loose (k + 1) (primary expr n) (primary expr' m) := by
  have group : Mirrors Loose Loose (k + 1) (parenthesized expr) (parenthesized expr') :=
    (parenthesized_encloses inner).mirrors parenthesized_opens parenthesized_opens
      (clear_loose (by decide)).right
  have list : Mirrors Loose Loose (k + 1) (listLiteral expr n) (listLiteral expr' m) :=
    (listLiteral_encloses first second inner some).mirrors listLiteral_opens listLiteral_opens
      (clear_loose (by decide)).right
  have name : Local Loose Loose (k + 1) binder := binder_local (clear_loose (by decide))
  exact group.orElse (literal_mirrors.orElse (list.orElse (name.bind fun x => .pure _).toMirrors))

theorem primary_advances : Advances (primary expr n) :=
  (parenthesized_encloses inner).advances.orElse (literal_advances.orElse
    ((listLiteral_encloses first second inner some).advances.orElse
      ((firstAndRun_advances _ _).check.bind fun _ => (Takes.pure _).any)))

theorem links_carries :
    Carries Loose Loose k (many (subsequent expr n false) n) (many (subsequent expr' m false) m) :=
  .many ((subsequent_mirrors first second inner some false).mono (fun _ last => last)
    (fun _ last => last) (Nat.le_succ k)) (subsequent_advances first second inner some false) first
    second

theorem postfixed_mirrors :
    Mirrors Loose Loose (k + 1) (postfixed expr n) (postfixed expr' m) := by
  have base := primary_mirrors first second inner some
  have links := links_carries first second inner some
  exact base.bind_sure (base.toCarries.step (primary_advances first second inner some) fun base =>
    links.bind fun rest => .pure _) fun base => (Sure.many _ n).bind fun rest => .pure _

theorem postfixed_advances : Advances (postfixed expr n) :=
  (primary_advances first second inner some).bind fun _ =>
    (links_carries first second inner some).takes.bind_any fun _ => (Takes.pure _).any

theorem unary_advances (depth : Nat) : Advances (unary expr n depth) := by
  induction depth with
  | zero => exact postfixed_advances first second inner some
  | succ depth ih =>
    refine .orElse ?_ (postfixed_advances first second inner some)
    exact prefixOperator_advances.bind fun op => Takes.blanks.bind_any fun _ =>
      ih.any.commit.bind_any fun operand => (Takes.pure _).any

theorem unary_mirrors_of {j depth depth' : Nat} (less : j ≤ k) (enough : j ≤ depth)
    (enough' : j ≤ depth') :
    Mirrors Loose Loose (j + 1) (unary expr n depth) (unary expr' m depth') := by
  have operand := postfixed_mirrors first second inner some
  -- Each prefix operator takes a character, so the induction is on the length of the text.
  induction j generalizing depth depth' with
  | zero =>
    have empty {c : List Char} (short : c.length < 0 + 1) : c = [] :=
      List.length_eq_zero_iff.mp (by omega)
    refine ⟨⟨(unary_advances first second inner some depth).any, ?_⟩, ?_⟩
    · intro c r t t' a left right short read
      obtain rfl := empty short
      rw [List.nil_append, unary_end left] at read
      rw [List.nil_append, unary_end right]
      exact operand.done (c := []) left right (Nat.succ_pos k) read
    · intro c t t' left right short missed
      obtain rfl := empty short
      unfold Misses at missed ⊢
      rw [List.nil_append, unary_end left] at missed
      rw [List.nil_append, unary_end right]
      exact operand.misses (c := []) left right (Nat.succ_pos k) missed
  | succ j ih =>
    obtain ⟨d, rfl⟩ : ∃ d, depth = d + 1 := ⟨depth - 1, by omega⟩
    obtain ⟨d', rfl⟩ : ∃ d, depth' = d + 1 := ⟨depth' - 1, by omega⟩
    have below : Mirrors Loose Loose (j + 1) (unary expr n d) (unary expr' m d') :=
      ih (by omega) (by omega) (by omega)
    have rest (op : UnaryOp) := (Mirrors.commit below.toCarries).toCarries.bind fun operand =>
      Carries.pure (Expr.unary op operand)
    have more (op : UnaryOp) : Advances (do
        let operand ← commit (unary expr n d)
        Reader.pure (Expr.unary op operand)) :=
      Advances.bind (Takes.commit (unary_advances first second inner some d)) fun _ =>
        (Takes.pure _).any
    refine .orElse (prefixOperator_local.toMirrors.bind_sure ?_ fun op => ?_)
      (operand.mono (fun _ last => last) (fun _ last => last) (by omega))
    · exact prefixOperator_local.toCarries.step prefixOperator_advances fun op =>
        (rest op).spaced (more op)
    · exact Sure.blanks.bind fun _ => (Sure.commit _).bind fun operand => .pure _

theorem unary_mirrors : Mirrors Loose Loose (k + 1) (unary expr n n) (unary expr' m m) :=
  unary_mirrors_of first second inner some (Nat.le_refl k) first second

end

theorem clear_signs : Clear (fun c => !([')', ']', '}', ','].contains c)) Closed Closed :=
  clear_heads (by decide)

theorem operatorWord_local {w : String} (letters : w.toList.all fun c =>
    !([')', ']', '}', ','].contains c)) (op : BinaryOp) :
    Local Closed Closed k (operatorWord w op) :=
  (Local.word clear_signs letters).bind fun _ => .pure op

theorem guardedWord_local {w : String} (letters : w.toList.all fun c =>
    !([')', ']', '}', ','].contains c)) {x : Char} (other : x ∉ [')', ']', '}', ','])
    (op : BinaryOp) : Local Closed Closed k (do word w; notAhead (char x); pure op) := by
  refine (Local.word clear_signs letters).bind fun _ => (Local.notAhead (.char ?_)).bind fun _ =>
    .pure op
  refine clear_heads (List.all_eq_true.mpr fun c mem => ?_)
  have : c ≠ x := fun same => other (same ▸ mem)
  simpa using this

theorem operator_local (i : Nat) : Local Closed Closed k (operatorOf i) := by
  have sign (w : String) (op : BinaryOp) (letters : w.toList.all fun c =>
      !([')', ']', '}', ','].contains c)) : Local Closed Closed k (operatorWord w op) :=
    operatorWord_local letters op
  match i with
  | 0 =>
    exact (guardedWord_local (w := "*") (x := '.') (by decide) (by decide) .mul).orElse
      ((sign "/" .div (by decide)).orElse (sign "%" .rem (by decide)))
  | 1 =>
    exact (sign "+" .add (by decide)).orElse
      (guardedWord_local (w := "-") (x := '>') (by decide) (by decide) .sub)
  | 2 =>
    have member : Local Closed Closed k (do keyword "in"; pure BinaryOp.isIn) :=
      (keyword_local (clear_heads (by decide)) (by decide)).bind fun _ => .pure _
    exact (sign "<=" .le (by decide)).orElse ((sign ">=" .ge (by decide)).orElse
      ((sign "<" .lt (by decide)).orElse ((sign ">" .gt (by decide)).orElse member)))
  | 3 =>
    exact (sign "==~" .matches (by decide)).orElse ((sign "==" .eq (by decide)).orElse
      ((sign "!=" .ne (by decide)).orElse (sign "=~" .find (by decide))))
  | 4 => exact sign "&&" .and (by decide)
  | _ + 5 => exact sign "||" .or (by decide)

theorem operator_takes (i : Nat) : Takes (operatorOf i) fun c op => c = op.chars := by
  match i with
  | 0 => exact multiplicativeOperator_takes
  | 1 => exact additiveOperator_takes
  | 2 => exact relationalOperator_takes
  | 3 => exact equalityOperator_takes
  | 4 => exact operatorWord_takes .and
  | _ + 5 => exact operatorWord_takes .or

theorem operator_advances (i : Nat) : Advances (operatorOf i) :=
  (operator_takes i).mono fun c op same => by
    rw [same]
    cases op <;> decide

section
variable (inner : Mirrors Closed Closed k expr expr')
include inner

/-- The part of a choice after its question mark is in no danger of being another one. -/
theorem choice_mirrors : Mirrors Closed Closed k (choice expr) (choice expr') := by
  have blanks : Local Closed Closed k blanks := .blanks (clear_heads (by decide))
  have elvis : Local Closed Closed k (word "?:") := .word clear_signs (by decide)
  have mark : Local Closed Closed k (char '?') := .char (clear_heads (by decide))
  have colon : Local Closed Closed k (char ':') := .char (clear_heads (by decide))
  have part := inner.toCarries
  refine blanks.before fun _ => .orElse (elvis.before fun _ => .of_sure ?_ ?_)
    (mark.before fun _ => .commit ?_)
  · exact blanks.toCarries.bind fun _ =>
      (Mirrors.commit part).toCarries.bind fun fallback => .pure _
  · exact Sure.blanks.bind fun _ => (Sure.commit _).bind fun fallback => .pure _
  · exact blanks.toCarries.bind fun _ => part.bind fun yes => blanks.toCarries.bind fun _ =>
      colon.toCarries.bind fun _ => blanks.toCarries.bind fun _ => part.bind fun no => .pure _

end

section
variable {operand operand' : Reader Expr} (first : k ≤ n) (second : k ≤ m)
  (part : Mirrors Closed Closed (k + 1) operand operand') (some : Advances operand)
include first second part some

omit some in
theorem rightOperands_carries (i : Nat) :
    Carries Closed Closed k
      (many (do
        Reader.blanks
        let op ← operatorOf i
        Reader.blanks
        let right ← commit operand
        Reader.pure (op, right)) n)
      (many (do
        Reader.blanks
        let op ← operatorOf i
        Reader.blanks
        let right ← commit operand'
        Reader.pure (op, right)) m) := by
  have blanks : Local Closed Closed k blanks := .blanks (clear_heads (by decide))
  have operator : Local Closed Closed k (operatorOf i) := operator_local i
  have right : Carries Closed Closed k operand operand' :=
    part.toCarries.mono (fun _ last => last) (fun _ last => last) (Nat.le_succ k)
  refine .many (blanks.before fun _ => operator.before fun op => blanks.before fun _ =>
    (Mirrors.commit right).bind_sure ((Mirrors.commit right).toCarries.bind fun e => .pure (op, e))
      fun e => .pure (op, e)) (.after Takes.blanks.any fun _ => ?_) first second
  exact (operator_advances i).bind fun op => Takes.blanks.bind_any fun _ =>
    right.takes.commit.bind_any fun e => (Takes.pure (op, e)).any

theorem leftOperators_advances (i : Nat) : Advances (leftOperators (operatorOf i) operand n) :=
  some.bind fun _ => (rightOperands_carries first second part i).takes.bind_any fun _ =>
    (Takes.pure _).any

theorem leftOperators_mirrors (i : Nat) :
    Mirrors Closed Closed (k + 1) (leftOperators (operatorOf i) operand n)
      (leftOperators (operatorOf i) operand' m) :=
  part.bind_sure (part.toCarries.step some fun _ =>
    (rightOperands_carries first second part i).bind fun _ => .pure _) fun _ =>
      (Sure.many _ n).bind fun _ => .pure _

end

section
variable (first : k ≤ n) (second : k ≤ m) (inner : Mirrors Closed Closed k expr expr')
  (some : Advances expr)
include first second inner some

/-- What one level of operators preserves, from the tightest one on. -/
theorem ladder_mirrors (i : Nat) :
    Mirrors Closed Closed (k + 1) (ladder expr n i) (ladder expr' m i) ∧
      Advances (ladder expr n i) := by
  induction i with
  | zero =>
    exact ⟨(unary_mirrors first second inner some).mono (fun _ last => last.loose)
      (fun _ last => last.loose) (Nat.le_refl _), unary_advances first second inner some n⟩
  | succ i ih =>
    exact ⟨leftOperators_mirrors first second ih.1 ih.2 i,
      leftOperators_advances first second ih.1 ih.2 i⟩

theorem expressionWith_mirrors :
    Mirrors Closed Closed (k + 1) (expressionWith expr n) (expressionWith expr' m) ∧
      Advances (expressionWith expr n) := by
  obtain ⟨operators, some'⟩ := ladder_mirrors first second inner some 6
  have tail := (choice_mirrors inner).optional.toCarries
  refine ⟨operators.bind_sure (operators.toCarries.step some' fun _ => tail.bind fun _ => .pure _)
    fun _ => (Sure.optional _).bind fun _ => .pure _, ?_⟩
  exact some'.bind fun _ => tail.takes.bind_any fun _ => (Takes.pure _).any

end

theorem expression_advances (n : Nat) : Advances (expression n) := by
  induction n with
  | zero => exact Takes.fail _
  | succ n ih =>
    have none : Mirrors Closed Closed 0 (expression n) (expression n) := .none ih.any
    exact (expressionWith_mirrors (Nat.zero_le n) (Nat.zero_le n) none ih).2

/-- By induction on the length of the text: with a greater bound, an expression is read alike in
front of what closes it. -/
theorem expression_mirrors (first : k ≤ n) (second : k ≤ m) :
    Mirrors Closed Closed k (expression n) (expression m) := by
  induction k generalizing n m with
  | zero => exact .none (expression_advances n).any
  | succ k ih =>
    obtain ⟨n, rfl⟩ : ∃ j, n = j + 1 := ⟨n - 1, by omega⟩
    obtain ⟨m, rfl⟩ : ∃ j, m = j + 1 := ⟨m - 1, by omega⟩
    exact (expressionWith_mirrors (by omega) (by omega) (ih (by omega) (by omega))
      (expression_advances n)).1

end DocPath.Reader
