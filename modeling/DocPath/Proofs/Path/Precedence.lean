import DocPath.Proofs.Path.Local.Expressions
import DocPath.Proofs.Path.Reading

/-!
Chains of operands and infix operators. Whatever operators a chain mixes, it is read as one tree: at
the root is the last of its loosest operators, and so on both sides of it.
-/

namespace DocPath

open Reader

/-- A text that is read as one operand: a literal, a list, a name or an expression in parentheses,
and the segments after it. -/
structure Operand where
  text : List Char
  expr : Expr
  reads : postfixed (expression text.length) text.length text = .done expr []

def tailText : List (BinaryOp × Operand) → List Char
  | [] => []
  | (op, x) :: rest => ' ' :: (op.chars ++ ' ' :: (x.text ++ tailText rest))

def chainText (first : Operand) (rest : List (BinaryOp × Operand)) : List Char :=
  first.text ++ tailText rest

/-- The tree of a chain. No operator is looser than the one at its root, and those behind that one
are tighter. -/
inductive Binds : Operand → List (BinaryOp × Operand) → Expr → Prop where
  | operand (x : Operand) : Binds x [] x.expr
  | split {x y : Operand} {before after : List (BinaryOp × Operand)} {op : BinaryOp}
    {left right : Expr} (loosest : ∀ q ∈ before, levelOf q.1 ≤ levelOf op)
    (last : ∀ q ∈ after, levelOf q.1 < levelOf op) (l : Binds x before left)
    (r : Binds y after right) : Binds x (before ++ (op, y) :: after) (.binary op left right)

section
variable {x : Operand} {rest before before' after after' : List (BinaryOp × Operand)}

theorem split_unique {p p' : BinaryOp × Operand}
    (same : before ++ p :: after = before' ++ p' :: after')
    (loosest : ∀ q ∈ before, levelOf q.1 ≤ levelOf p.1)
    (last : ∀ q ∈ after, levelOf q.1 < levelOf p.1)
    (loosest' : ∀ q ∈ before', levelOf q.1 ≤ levelOf p'.1)
    (last' : ∀ q ∈ after', levelOf q.1 < levelOf p'.1) :
    before = before' ∧ p = p' ∧ after = after' := by
  rcases List.append_eq_append_iff.mp same with ⟨m, rfl, tail⟩ | ⟨m, rfl, tail⟩
  · cases m with
    | nil =>
      obtain ⟨rfl, rfl⟩ := List.cons.inj tail
      exact ⟨(List.append_nil _).symm, rfl, rfl⟩
    | cons q m =>
      obtain ⟨rfl, rfl⟩ := List.cons.inj tail
      have below := last p' (by simp)
      have above := loosest' p (by simp)
      omega
  · cases m with
    | nil =>
      obtain ⟨rfl, rfl⟩ := List.cons.inj tail
      exact ⟨List.append_nil _, rfl, rfl⟩
    | cons q m =>
      obtain ⟨rfl, rfl⟩ := List.cons.inj tail
      have below := last' p (by simp)
      have above := loosest p' (by simp)
      omega

theorem Binds.unique {e e' : Expr} (h : Binds x rest e) (h' : Binds x rest e') : e = e' := by
  induction h generalizing e' with
  | operand x =>
    generalize none : [] = rest at h'
    cases h' with
    | operand => rfl
    | split => simp at none
  | @split x y before after op left right loosest last l r ihl ihr =>
    generalize same : before ++ (op, y) :: after = rest at h'
    cases h' with
    | operand => simp at same
    | split loosest' last' l' r' =>
      obtain ⟨rfl, head, rfl⟩ := split_unique same loosest last loosest' last'
      obtain ⟨rfl, rfl⟩ := Prod.mk.inj head
      rw [ihl l', ihr r']

end

theorem tailText_loose (rest : List (BinaryOp × Operand)) : Loose (tailText rest) := by
  cases rest with
  | nil => exact Loose.nil
  | cons p rest =>
    obtain ⟨op, x⟩ := p
    obtain ⟨c, d, t, text, blank, -, brace, -⟩ := op.chars_start (x.text ++ tailText rest)
    rw [tailText, text]
    exact .blank_cons blank brace _

theorem length_le_tailText (rest : List (BinaryOp × Operand)) :
    rest.length ≤ (tailText rest).length := by
  induction rest with
  | nil => exact Nat.le_refl 0
  | cons p rest ih =>
    obtain ⟨op, x⟩ := p
    simp only [tailText, List.length_cons, List.length_append]
    omega

theorem tailText_append (before after : List (BinaryOp × Operand)) :
    tailText (before ++ after) = tailText before ++ tailText after := by
  induction before with
  | nil => rfl
  | cons p before ih =>
    obtain ⟨op, x⟩ := p
    simp only [tailText, List.cons_append, ih, List.append_assoc]

namespace Operand

variable (x : Operand) {n : Nat}

theorem start : ∃ c t, x.text = c :: t ∧ isBlank c = false ∧ c ≠ '!' ∧ c ≠ '-' := by
  have reads := x.reads
  cases text : x.text with
  | nil =>
    rw [text] at reads
    have none : Mirrors Closed Closed 0 (expression 0) (expression 0) :=
      .none (expression_advances 0).any
    obtain ⟨c, same, full⟩ := postfixed_advances (Nat.zero_le 0) (Nat.zero_le 0) none
      (expression_advances 0) _ _ _ reads
    exact absurd (List.append_eq_nil_iff.mp same.symm).1 full
  | cons c t =>
    have other (head : isOperandHead c = false) (double : c ≠ '"') : False := by
      have missed : Misses (postfixed (expression x.text.length) x.text.length) x.text := by
        rw [text]
        exact (primary_misses_sign head double t).bind
      obtain ⟨e, missed⟩ := missed
      rw [reads] at missed
      cases missed
    refine ⟨c, t, rfl, ?_, ?_, ?_⟩
    · cases blank : isBlank c with
      | false => rfl
      | true =>
        have sign : isOperandHead c = false ∧ c ≠ '"' := by
          refine isBlank_cases (p := fun c => isOperandHead c = false ∧ c ≠ '"') blank
            ?_ ?_ ?_ ?_ <;> decide
        exact (other sign.1 sign.2).elim
    · rintro rfl
      exact other (by decide) (by decide)
    · rintro rfl
      exact other (by decide) (by decide)

theorem skipBlanks_text (t : List Char) : skipBlanks (x.text ++ t) = x.text ++ t := by
  obtain ⟨c, u, text, blank, -⟩ := x.start
  rw [text]
  exact skipBlanks_of_not_blank blank _

theorem unary_reads (enough : x.text.length ≤ n) {t : List Char} (last : Loose t) :
    unary (expression n) n n (x.text ++ t) = .done x.expr t := by
  have inner : Mirrors Closed Closed x.text.length (expression x.text.length) (expression n) :=
    expression_mirrors (Nat.le_refl _) enough
  have alone : postfixed (expression x.text.length) x.text.length (x.text ++ []) =
      .done x.expr ([] ++ []) := by
    rw [List.append_nil]
    exact x.reads
  have read : postfixed (expression n) n (x.text ++ t) = .done x.expr t :=
    (postfixed_mirrors (Nat.le_refl _) enough inner (expression_advances _)).done Loose.nil last
      (Nat.lt_succ_self _) alone
  cases n with
  | zero => exact read
  | succ n =>
    obtain ⟨c, u, text, -, bang, minus⟩ := x.start
    have none : Misses prefixOperator (x.text ++ t) := by
      rw [text]
      exact .orElse (char_misses (by simpa using bang)).bind
        (char_misses (by simpa using minus)).bind
    exact (orElse_next none.bind).trans read

end Operand

theorem expression_skipBlanks {n : Nat} {t r : List Char} {e : Expr}
    (read : expression n t = .done e r) : skipBlanks t = t := by
  cases t with
  | nil => rfl
  | cons c t =>
    cases blank : isBlank c with
    | false => exact skipBlanks_of_not_blank blank t
    | true =>
      cases n with
      | zero => cases read
      | succ n =>
        have sign : isOperandHead c = false ∧ c ∉ ['"', '!', '-'] := by
          refine isBlank_cases (p := fun c => isOperandHead c = false ∧ c ∉ ['"', '!', '-']) blank
            ?_ ?_ ?_ ?_ <;> decide
        have missed : Misses (expression (n + 1)) (c :: t) :=
          expressionWith_misses_sign sign.1 sign.2 t
        obtain ⟨f, missed⟩ := missed
        rw [read] at missed
        cases missed

theorem group_reads {t : List Char} {e : Expr} (read : expression (t.length + 1) t = .done e [])
    {n : Nat} (enough : t.length < n) :
    postfixed (expression n) n ('(' :: (t ++ [')'])) = .done e [] := by
  have mirrors : Mirrors Closed Closed (t.length + 1) (expression (t.length + 1)) (expression n) :=
    expression_mirrors (Nat.le_refl _) enough
  have inside : expression n (t ++ [')']) = .done e [')'] := by
    have nothing : Closed [] := fun c head => by cases head
    have close : Closed [')'] := Starts.closed (x := ')') (by decide) _ ⟨[], rfl⟩
    refine mirrors.done (r := []) nothing close (Nat.lt_succ_self _) ?_
    rw [List.append_nil]
    exact read
  have group : parenthesized (expression n) ('(' :: (t ++ [')'])) = .done e [] := by
    unfold parenthesized padded
    rw [bind_done (char_cons '(' _)]
    refine commit_done ?_
    rw [bind_done (t := [')']) (a := e)]
    · rfl
    · rw [bind_done (blanks_apply _), expression_skipBlanks inside, bind_done inside]
      rfl
  exact postfixed_alone (orElse_done group) Loose.nil

def Operand.group (t : List Char) (e : Expr) (read : expression (t.length + 1) t = .done e []) :
    Operand where
  text := '(' :: (t ++ [')'])
  expr := e
  reads := group_reads read (by
    simp only [List.length_cons, List.length_append]
    omega)

theorem skipBlanks_operator (op : BinaryOp) (t : List Char) :
    skipBlanks (' ' :: (op.chars ++ ' ' :: t)) = op.chars ++ ' ' :: t := by
  obtain ⟨c, d, u, text, blank, -⟩ := op.chars_start t
  rw [skipBlanks_blank, text, skipBlanks_of_not_blank blank]

theorem operator_misses_tail {i : Nat} (level : i < 6) {rest : List (BinaryOp × Operand)}
    (other : ∀ p, rest.head? = some p → levelOf p.1 ≠ i) :
    Misses (operatorOf i) (skipBlanks (tailText rest)) := by
  cases rest with
  | nil => exact operator_misses_end (fun c head => by cases head) level
  | cons p rest =>
    obtain ⟨op, x⟩ := p
    rw [tailText, skipBlanks_operator]
    exact operator_misses op level (other (op, x) rfl).symm _

theorem split_level {i : Nat} {low : List (BinaryOp × Operand)}
    (below : ∀ q ∈ low, levelOf q.1 ≤ i) :
    ∃ inner more, low = inner ++ more ∧ (∀ q ∈ inner, levelOf q.1 < i) ∧
      ∀ p, more.head? = some p → levelOf p.1 = i := by
  induction low with
  | nil => exact ⟨[], [], rfl, by simp, by simp⟩
  | cons p low ih =>
    by_cases tight : levelOf p.1 < i
    · obtain ⟨inner, more, rfl, tighter, first⟩ :=
        ih fun q mem => below q (List.mem_cons_of_mem p mem)
      refine ⟨p :: inner, more, rfl, fun q mem => ?_, first⟩
      rcases List.mem_cons.mp mem with rfl | mem
      · exact tight
      · exact tighter q mem
    · refine ⟨[], p :: low, rfl, by simp, fun q head => ?_⟩
      cases head
      have := below p List.mem_cons_self
      omega

theorem reach_append {i : Nat} {more high : List (BinaryOp × Operand)}
    (next : ∀ p, more.head? = some p → levelOf p.1 = i)
    (above : ∀ p, high.head? = some p → i < levelOf p.1) :
    ∀ p, (more ++ high).head? = some p → i ≤ levelOf p.1 := by
  intro p head
  cases more with
  | nil => exact Nat.le_of_lt (above p head)
  | cons q more => exact Nat.le_of_eq (next p head).symm

/-- The reader below a level takes the operators that are tighter, up to one that is not. -/
def Climbs (n i : Nat) : Prop :=
  ∀ (x : Operand) (low high : List (BinaryOp × Operand)), (∀ q ∈ low, levelOf q.1 < i) →
    (∀ p, high.head? = some p → i ≤ levelOf p.1) → (chainText x (low ++ high)).length ≤ n →
    ∃ e, ladder (expression n) n i (chainText x (low ++ high)) = .done e (tailText high) ∧
      Binds x low e

section
variable {n i : Nat}

theorem climbs_zero : Climbs n 0 := by
  intro x low high tighter above enough
  obtain rfl : low = [] := List.eq_nil_iff_forall_not_mem.mpr fun q mem =>
    Nat.not_lt_zero _ (tighter q mem)
  refine ⟨x.expr, x.unary_reads ?_ (tailText_loose high), .operand x⟩
  rw [chainText, List.length_append] at enough
  omega

/-- The operators of a level with their right operands, and the tree that grows to the left. The
induction is on the number of operands. -/
theorem rightOperands_read (climbs : Climbs n i) (level : i < 6) {x : Operand}
    {high : List (BinaryOp × Operand)} (above : ∀ p, high.head? = some p → i < levelOf p.1)
    (m : Nat) {before low : List (BinaryOp × Operand)} {tree : Expr}
    (fewer : low.length ≤ m) (enough : (tailText (low ++ high)).length ≤ n)
    (done : ∀ q ∈ before, levelOf q.1 ≤ i) (below : ∀ q ∈ low, levelOf q.1 ≤ i)
    (first : ∀ p, low.head? = some p → levelOf p.1 = i) (binds : Binds x before tree) :
    ∃ pairs, many (do
        blanks
        let op ← operatorOf i
        blanks
        let right ← commit (ladder (expression n) n i)
        Reader.pure (op, right)) m (tailText (low ++ high)) = .done pairs (tailText high) ∧
      Binds x (before ++ low) (pairs.foldl (fun left p => .binary p.1 left p.2) tree) := by
  induction m generalizing before low tree with
  | zero =>
    obtain rfl : low = [] := List.length_eq_zero_iff.mp (by omega)
    exact ⟨[], rfl, by rwa [List.append_nil]⟩
  | succ m ih =>
    cases low with
    | nil =>
      have none := operator_misses_tail level fun p head => Nat.ne_of_gt (above p head)
      exact ⟨[], many_none (.bind_after (blanks_apply _) none.bind) _, by rwa [List.append_nil]⟩
    | cons p low =>
      obtain ⟨op, y⟩ := p
      have same : levelOf op = i := first (op, y) rfl
      -- The right operand takes the tighter operators behind it, up to the next one of this level.
      obtain ⟨inner, more, rfl, tighter, next⟩ :=
        split_level fun q mem => below q (List.mem_cons_of_mem _ mem)
      have reach := reach_append next above
      have text : tailText ((op, y) :: (inner ++ more) ++ high) =
          ' ' :: (op.chars ++ ' ' :: chainText y (inner ++ (more ++ high))) := by
        simp only [List.cons_append, tailText, chainText, List.append_assoc]
      have longer : (tailText (more ++ high)).length + (chainText y inner).length =
          (chainText y (inner ++ (more ++ high))).length := by
        simp only [chainText, tailText_append, List.length_append]
        omega
      rw [text] at enough
      simp only [List.length_cons, List.length_append] at enough fewer
      obtain ⟨right, read, tree'⟩ := climbs y inner (more ++ high) tighter reach (by omega)
      have item : (do
          blanks
          let op ← operatorOf i
          blanks
          let right ← commit (ladder (expression n) n i)
          Reader.pure (op, right)) (tailText ((op, y) :: (inner ++ more) ++ high)) =
            .done (op, right) (tailText (more ++ high)) := by
        have sign := operator_reads op (chainText y (inner ++ (more ++ high)))
        rw [same] at sign
        have start : skipBlanks (' ' :: chainText y (inner ++ (more ++ high))) =
            chainText y (inner ++ (more ++ high)) := by
          rw [skipBlanks_blank]
          exact y.skipBlanks_text _
        rw [text, bind_done (blanks_apply _), skipBlanks_operator, bind_done sign,
          bind_done (blanks_apply _), start, bind_done (commit_done read)]
        rfl
      have grown : Binds x (before ++ (op, y) :: inner) (.binary op tree right) :=
        .split (fun q mem => same ▸ done q mem) (fun q mem => same ▸ tighter q mem) binds tree'
      have done' : ∀ q ∈ before ++ (op, y) :: inner, levelOf q.1 ≤ i := by
        intro q mem
        rcases List.mem_append.mp mem with mem | mem
        · exact done q mem
        · rcases List.mem_cons.mp mem with rfl | mem
          · exact Nat.le_of_eq same
          · exact Nat.le_of_lt (tighter q mem)
      have below' : ∀ q ∈ more, levelOf q.1 ≤ i := fun q mem =>
        below q (List.mem_cons_of_mem _ (List.mem_append_right inner mem))
      obtain ⟨pairs, rest, whole⟩ := ih (by omega) (by omega) done' below' next grown
      refine ⟨(op, right) :: pairs, many_cons item rest, ?_⟩
      rw [List.append_assoc, List.cons_append] at whole
      exact whole

theorem climbs_succ (climbs : Climbs n i) (level : i < 6) : Climbs n (i + 1) := by
  intro x low high tighter above enough
  obtain ⟨inner, more, rfl, tight, next⟩ :=
    split_level fun q mem => Nat.le_of_lt_succ (tighter q mem)
  have reach := reach_append next above
  rw [List.append_assoc] at enough ⊢
  obtain ⟨tree, read, binds⟩ := climbs x inner (more ++ high) tight reach enough
  have short : (tailText (more ++ high)).length ≤ n := by
    simp only [chainText, tailText_append, List.length_append] at enough ⊢
    omega
  have fewer : more.length ≤ n := by
    have := length_le_tailText (more ++ high)
    rw [List.length_append] at this
    omega
  obtain ⟨pairs, rest, whole⟩ := rightOperands_read climbs level above n fewer short
    (fun q mem => Nat.le_of_lt (tight q mem))
    (fun q mem => Nat.le_of_lt_succ (tighter q (List.mem_append_right inner mem))) next binds
  refine ⟨_, ?_, whole⟩
  show leftOperators (operatorOf i) (ladder (expression n) n i) n _ = _
  unfold leftOperators
  rw [bind_done read, bind_done rest]
  rfl

theorem climbs_all (level : i ≤ 6) : Climbs n i := by
  induction i with
  | zero => exact climbs_zero
  | succ i ih => exact climbs_succ (ih (Nat.le_of_succ_le level)) level

end

theorem chain_reads (first : Operand) (rest : List (BinaryOp × Operand)) :
    ∃ e, expression ((chainText first rest).length + 1) (chainText first rest) = .done e [] ∧
      Binds first rest e := by
  have climbs : Climbs (chainText first rest).length 6 := climbs_all (Nat.le_refl 6)
  obtain ⟨e, read, binds⟩ := climbs first rest [] (fun q mem => levelOf_lt q.1) (by simp)
    (by rw [List.append_nil])
  rw [List.append_nil, tailText] at read
  refine ⟨e, ?_, binds⟩
  have none : Misses (choice (expression (chainText first rest).length)) [] :=
    choice_misses fun c head => by cases head
  show expressionWith _ _ _ = _
  unfold expressionWith
  rw [bind_done (p := disjunction _ _) read, bind_done (optional_none none)]
  rfl

theorem group_chain (first : Operand) (rest : List (BinaryOp × Operand)) :
    ∃ x : Operand, x.text = '(' :: (chainText first rest ++ [')']) ∧ Binds first rest x.expr := by
  obtain ⟨e, read, binds⟩ := chain_reads first rest
  exact ⟨.group _ e read, rfl, binds⟩

/-- A chain of operands is read as a whole, in front of what closes it, and as the one tree that its
operators make. -/
theorem chain_binds (first : Operand) (rest : List (BinaryOp × Operand)) {n : Nat}
    (enough : (chainText first rest).length < n) :
    ∃ e, (∀ t, Closed t → expression n (chainText first rest ++ t) = .done e t) ∧
      ∀ e', Binds first rest e' ↔ e' = e := by
  obtain ⟨e, read, binds⟩ := chain_reads first rest
  refine ⟨e, fun t closed => ?_, fun e' => ⟨fun other => other.unique binds, fun same => ?_⟩⟩
  · have mirrors : Mirrors Closed Closed ((chainText first rest).length + 1)
        (expression ((chainText first rest).length + 1)) (expression n) :=
      expression_mirrors (Nat.le_refl _) enough
    have nothing : Closed [] := fun c head => by cases head
    refine mirrors.done (r := []) nothing closed (Nat.lt_succ_self _) ?_
    rw [List.append_nil]
    exact read
  · rw [same]
    exact binds

def Outcome.isWhole {α : Type} : Outcome α → Bool
  | .done _ [] => true
  | _ => false

theorem Operand.of_text (text : List Char)
    (whole : (postfixed (expression text.length) text.length text).isWhole) :
    ∃ x : Operand, x.text = text := by
  unfold Outcome.isWhole at whole
  split at whole
  · next e read => exact ⟨⟨text, e, read⟩, rfl⟩
  · cases whole

/-- The sum is the root, and its difference is read from the left. -/
theorem chain_binds_levels :
    ∃ a b c : Operand, a.text = ['1'] ∧ b.text = ['x', '.', 'y'] ∧ c.text = ['(', 'z', ')'] ∧
      (chainText a [(.sub, b), (.mul, c), (.add, a)]).length < 23 ∧
      expression 23 (chainText a [(.sub, b), (.mul, c), (.add, a)]) =
        .done (.binary .add (.binary .sub a.expr (.binary .mul b.expr c.expr)) a.expr) [] := by
  obtain ⟨a, one⟩ := Operand.of_text ['1'] (by decide +kernel)
  obtain ⟨b, path⟩ := Operand.of_text ['x', '.', 'y'] (by decide +kernel)
  obtain ⟨c, group⟩ := Operand.of_text ['(', 'z', ')'] (by decide +kernel)
  have enough : (chainText a [(.sub, b), (.mul, c), (.add, a)]).length < 23 := by
    simp only [chainText, tailText, one, path, group]
    decide
  obtain ⟨e, read, tree⟩ := chain_binds a [(.sub, b), (.mul, c), (.add, a)] enough
  have product : Binds b ([] ++ (.mul, c) :: []) (.binary .mul b.expr c.expr) :=
    .split (by simp) (by simp) (.operand b) (.operand c)
  have difference : Binds a ([] ++ (.sub, b) :: [(.mul, c)])
      (.binary .sub a.expr (.binary .mul b.expr c.expr)) :=
    .split (by simp) (by simp [levelOf]) (.operand a) product
  have sum : Binds a ([(.sub, b), (.mul, c)] ++ (.add, a) :: [])
      (.binary .add (.binary .sub a.expr (.binary .mul b.expr c.expr)) a.expr) :=
    .split (by simp [levelOf]) (by simp) difference (.operand a)
  refine ⟨a, b, c, one, path, group, enough, ?_⟩
  have whole := read [] fun c head => by cases head
  rw [List.append_nil] at whole
  rw [whole, (tree _).mp sum]

end DocPath
