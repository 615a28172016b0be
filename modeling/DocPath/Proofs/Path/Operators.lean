import DocPath.Proofs.Path.Follow

/-!
The levels of operators as one ladder over the readers of operands. An operand passes through
the levels whose operators do not follow it, and an operator is read at its own level only.
-/

namespace DocPath.Reader

variable {expr : Reader Expr} {n : Nat} {s t : List Char}

def operatorOf : Nat → Reader BinaryOp
  | 0 => multiplicativeOperator
  | 1 => additiveOperator
  | 2 => relationalOperator
  | 3 => equalityOperator
  | 4 => andOperator
  | _ => orOperator

def ladder (expr : Reader Expr) (n : Nat) : Nat → Reader Expr
  | 0 => unary expr n n
  | k + 1 => leftOperators (operatorOf k) (ladder expr n k) n

def levelOf : BinaryOp → Nat
  | .mul | .div | .rem => 0
  | .add | .sub => 1
  | .lt | .le | .gt | .ge | .isIn => 2
  | .eq | .ne | .find | .matches => 3
  | .and => 4
  | .or => 5

theorem levelOf_lt (op : BinaryOp) : levelOf op < 6 := by
  cases op <;> decide

theorem operator_reads (op : BinaryOp) (s : List Char) :
    operatorOf (levelOf op) (op.chars ++ ' ' :: s) = .done op (' ' :: s) := by
  have blank : isIdentChar ' ' = false := by decide
  cases op <;> simp [operatorOf, levelOf, BinaryOp.chars, BinaryOp.text, multiplicativeOperator,
    additiveOperator, relationalOperator, equalityOperator, andOperator, orOperator, operatorWord,
    bind_apply, orElse_apply, pure_apply, word, notAhead, char, satisfy, keyword, blank]

theorem operator_misses (op : BinaryOp) {k : Nat} (low : k < 6) (other : k ≠ levelOf op)
    (s : List Char) : Misses (operatorOf k) (op.chars ++ ' ' :: s) := by
  have blank : isIdentChar ' ' = false := by decide
  unfold Misses
  match k, low with
  | 0, _ | 1, _ | 2, _ | 3, _ | 4, _ | 5, _ =>
    cases op <;> first
      | exact absurd rfl other
      | simp [operatorOf, BinaryOp.chars, BinaryOp.text, multiplicativeOperator,
        additiveOperator, relationalOperator, equalityOperator, andOperator, orOperator,
        operatorWord, bind_apply, orElse_apply, word, char, keyword]

/-- No operator follows: a text ends, or a closer or a choice is next. -/
def NoOperator (s : List Char) : Prop := ∀ c, s.head? = some c → isCloser c ∨ c = '?'

theorem NoOperator.word (h : NoOperator s) (w : String) (c : Char)
    (first : w.toList.head? = some c) (other : ¬ (isCloser c ∨ c = '?')) :
    Misses (Reader.word w) s :=
  word_misses_head first fun head => other (h c head)

theorem operator_misses_end (h : NoOperator s) {k : Nat} (low : k < 6) :
    Misses (operatorOf k) s := by
  have none := h.word
  match k, low with
  | 0, _ =>
    exact .orElse (none "*" '*' rfl (by decide)).bind
      (.orElse (none "/" '/' rfl (by decide)).bind (none "%" '%' rfl (by decide)).bind)
  | 1, _ =>
    exact .orElse (none "+" '+' rfl (by decide)).bind (none "-" '-' rfl (by decide)).bind
  | 2, _ =>
    exact .orElse (none "<=" '<' rfl (by decide)).bind
      (.orElse (none ">=" '>' rfl (by decide)).bind
        (.orElse (none "<" '<' rfl (by decide)).bind
          (.orElse (none ">" '>' rfl (by decide)).bind
            (none "in" 'i' rfl (by decide)).bind.bind)))
  | 3, _ =>
    exact .orElse (none "==~" '=' rfl (by decide)).bind
      (.orElse (none "==" '=' rfl (by decide)).bind
        (.orElse (none "!=" '!' rfl (by decide)).bind
          (none "=~" '=' rfl (by decide)).bind))
  | 4, _ => exact (none "&&" '&' rfl (by decide)).bind
  | 5, _ => exact (none "||" '|' rfl (by decide)).bind

theorem noOperator_of_stop (h : Stop s) : NoOperator (skipBlanks s) := fun c head => .inl (h c head)

section
variable {operator : Reader BinaryOp} {operand : Reader Expr} {a b : Expr} {op : BinaryOp}
  {u r : List Char}

theorem leftOperators_single (first : operand s = .done a r)
    (none : Misses operator (skipBlanks r)) :
    leftOperators operator operand n s = .done a r := by
  unfold leftOperators
  rw [bind_done first, bind_done (many_none (.bind_after (blanks_apply r) none.bind) n)]
  rfl

theorem leftOperators_pair (first : operand s = .done a t) (some : 0 < n)
    (sign : operator (skipBlanks t) = .done op u)
    (second : operand (skipBlanks u) = .done b r) (none : Misses operator (skipBlanks r)) :
    leftOperators operator operand n s = .done (.binary op a b) r := by
  obtain ⟨m, rfl⟩ : ∃ m, n = m + 1 := ⟨n - 1, by omega⟩
  unfold leftOperators
  rw [bind_done first, bind_done (many_cons (a := (op, b)) ?_
    (many_none (.bind_after (blanks_apply r) none.bind) m))]
  · rfl
  · rw [bind_done (blanks_apply t), bind_done sign, bind_done (blanks_apply u),
      bind_done (commit_done second)]
    rfl

end

theorem ladder_passes {e : Expr} {r : List Char} (read : unary expr n n s = .done e r) {k : Nat}
    (none : ∀ j < k, Misses (operatorOf j) (skipBlanks r)) : ladder expr n k s = .done e r := by
  induction k with
  | zero => exact read
  | succ k ih =>
    exact leftOperators_single (ih fun j low => none j (by omega)) (none k (by omega))

theorem ladder_reads {e : Expr} {r : List Char} (read : unary expr n n s = .done e r)
    (none : NoOperator (skipBlanks r)) : disjunction expr n s = .done e r :=
  ladder_passes read fun _ low => operator_misses_end none low

theorem ladder_binary {a b : Expr} {op : BinaryOp} {r : List Char} (some : 0 < n)
    (first : unary expr n n s = .done a (' ' :: (op.chars ++ ' ' :: t)))
    (second : unary expr n n t = .done b r) (start : skipBlanks t = t)
    (none : NoOperator (skipBlanks r)) :
    disjunction expr n s = .done (.binary op a b) r := by
  have sign : skipBlanks (' ' :: (op.chars ++ ' ' :: t)) = op.chars ++ ' ' :: t := by
    obtain ⟨c, d, u, text, blank, -⟩ := op.chars_start t
    rw [skipBlanks_blank, text, skipBlanks_of_not_blank blank]
  have low := levelOf_lt op
  have left : ladder expr n (levelOf op) s = .done a (' ' :: (op.chars ++ ' ' :: t)) := by
    refine ladder_passes first fun j below => ?_
    rw [sign]
    exact operator_misses op (by omega) (by omega) t
  have right : ladder expr n (levelOf op) t = .done b r :=
    ladder_passes second fun j below => operator_misses_end none (by omega)
  have here : ladder expr n (levelOf op + 1) s = .done (.binary op a b) r := by
    refine leftOperators_pair (u := ' ' :: t) left some ?_ ?_ (operator_misses_end none low)
    · rw [sign]
      exact operator_reads op t
    · rw [skipBlanks_blank, start]
      exact right
  have above (k : Nat) (high : levelOf op + 1 + k ≤ 6) :
      ladder expr n (levelOf op + 1 + k) s = .done (.binary op a b) r := by
    induction k with
    | zero => exact here
    | succ k ih =>
      have low : levelOf op + 1 + k < 6 := by omega
      exact leftOperators_single (ih (by omega)) (operator_misses_end none low)
  have top := above (5 - levelOf op) (by omega)
  have six : levelOf op + 1 + (5 - levelOf op) = 6 := by omega
  rwa [six] at top

end DocPath.Reader
