import DocPath.Proofs.Path.Printable

/-!
The text of a tree with parentheses around the bases that need them. Reading is stated for this
text; it is the printed one where no base needs parentheses.
-/

namespace DocPath

mutual
def Expr.written : Expr → List Char
  | .literal v => literalChars v
  | .list items => '[' :: (writtenItems items ++ [']'])
  | .ident name => name.toList
  | .path base segments =>
    parenthesize (!base.isAtomic) base.written ++ writtenSegments segments
  | .unary op operand => op.chars ++ parenthesize operand.isCompound operand.written
  | .binary op left right =>
    parenthesize left.isCompound left.written ++ ' ' :: (op.chars ++
      ' ' :: parenthesize right.isCompound right.written)
  | .ternary condition yes no =>
    parenthesize condition.isCompound condition.written ++ ' ' :: '?' :: ' ' :: (yes.written ++
      ' ' :: ':' :: ' ' :: no.written)
  | .elvis value fallback =>
    parenthesize value.isCompound value.written ++ ' ' :: '?' :: ':' :: ' ' :: fallback.written
  | .closure c => c.written
def Closure.written : Closure → List Char
  | .mk params locals body =>
    '{' :: ' ' :: ((if params.isEmpty then [] else (", ".intercalate params ++ " -> ").toList) ++
      writtenLocals locals ++ body.written ++ [' ', '}'])
def Segment.written : Segment → List Char
  | .field name => if isBare name then name.toList else singleQuoted name
  | .index selector => selector.chars
  | .wildcard => ['*']
  | .descent => ['*', '*']
  | .call name args => name.toList ++ '(' :: (writtenItems args ++ [')'])
  | .spread inner => '*' :: '.' :: inner.written
def writtenItems : List Expr → List Char
  | [] => []
  | [e] => e.written
  | e :: es => e.written ++ ',' :: ' ' :: writtenItems es
def writtenLocals : List (String × Expr) → List Char
  | [] => []
  | (name, e) :: ls =>
    'd' :: 'e' :: 'f' :: ' ' :: (name.toList ++ ' ' :: '=' :: ' ' :: (e.written ++
      ';' :: ' ' :: writtenLocals ls))
def writtenSegments : List Segment → List Char
  | [] => []
  | s :: ss => (if s.isAttached then s.written else '.' :: s.written) ++ writtenSegments ss
end

def afterItem : List Expr → List Char
  | [] => []
  | e :: es => ',' :: ' ' :: (e.written ++ afterItem es)

theorem writtenItems_cons (e : Expr) (es : List Expr) :
    writtenItems (e :: es) = e.written ++ afterItem es := by
  induction es generalizing e with
  | nil => simp only [writtenItems, afterItem, List.append_nil]
  | cons f fs ih => simp only [writtenItems, afterItem, ih]

def Expr.operandText (e : Expr) : List Char := parenthesize e.isCompound e.written

mutual
theorem Expr.chars_eq_written : ∀ e : Expr, e.unbracketed → e.chars = e.written
  | .literal v, _ => rfl
  | .list items, h => by
    simp only [Expr.unbracketed] at h
    simp only [Expr.chars, Expr.written, commaSeparated_eq_written items h]
  | .ident name, _ => rfl
  | .path base segments, h => by
    simp only [Expr.unbracketed, Bool.and_eq_true] at h
    obtain ⟨⟨atomic, plain⟩, rest⟩ := h
    simp only [Expr.chars, Expr.written, atomic, Bool.not_true, parenthesize, Bool.false_eq_true,
      if_false, base.chars_eq_written plain, pointed_eq_written segments rest]
  | .unary op operand, h => by
    simp only [Expr.unbracketed] at h
    simp only [Expr.chars, Expr.written, operand.chars_eq_written h]
  | .binary op left right, h => by
    simp only [Expr.unbracketed, Bool.and_eq_true] at h
    simp only [Expr.chars, Expr.written, left.chars_eq_written h.1, right.chars_eq_written h.2]
  | .ternary condition yes no, h => by
    simp only [Expr.unbracketed, Bool.and_eq_true] at h
    simp only [Expr.chars, Expr.written, condition.chars_eq_written h.1.1,
      yes.chars_eq_written h.1.2, no.chars_eq_written h.2]
  | .elvis value fallback, h => by
    simp only [Expr.unbracketed, Bool.and_eq_true] at h
    simp only [Expr.chars, Expr.written, value.chars_eq_written h.1,
      fallback.chars_eq_written h.2]
  | .closure c, h => by
    simp only [Expr.unbracketed] at h
    simp only [Expr.chars, Expr.written, c.chars_eq_written h]
theorem Closure.chars_eq_written : ∀ c : Closure, c.unbracketed → c.chars = c.written
  | .mk params locals body, h => by
    simp only [Closure.unbracketed, Bool.and_eq_true] at h
    simp only [Closure.chars, Closure.written, localChars_eq_written locals h.1,
      body.chars_eq_written h.2]
theorem Segment.chars_eq_written : ∀ s : Segment, s.unbracketed → s.chars = s.written
  | .field _, _ | .index _, _ | .wildcard, _ | .descent, _ => by
    simp only [Segment.chars, Segment.written]
  | .call name args, h => by
    simp only [Segment.unbracketed] at h
    simp only [Segment.chars, Segment.written, commaSeparated_eq_written args h]
  | .spread inner, h => by
    simp only [Segment.unbracketed] at h
    simp only [Segment.chars, Segment.written, inner.chars_eq_written h]
theorem commaSeparated_eq_written :
    ∀ es : List Expr, unbracketedItems es → commaSeparated es = writtenItems es
  | [], _ => by simp only [commaSeparated, writtenItems]
  | [e], h => by
    simp only [unbracketedItems, Bool.and_eq_true] at h
    simp only [commaSeparated, writtenItems, e.chars_eq_written h.1]
  | e :: f :: es, h => by
    rw [unbracketedItems, Bool.and_eq_true] at h
    simp only [commaSeparated, writtenItems, e.chars_eq_written h.1]
    rw [commaSeparated_eq_written (f :: es) h.2]
theorem localChars_eq_written :
    ∀ ls : List (String × Expr), unbracketedLocals ls → localChars ls = writtenLocals ls
  | [], _ => by simp only [localChars, writtenLocals]
  | (name, e) :: ls, h => by
    simp only [unbracketedLocals, Bool.and_eq_true] at h
    simp only [localChars, writtenLocals, e.chars_eq_written h.1, localChars_eq_written ls h.2]
theorem pointed_eq_written :
    ∀ ss : List Segment, unbracketedSegments ss → pointed ss = writtenSegments ss
  | [], _ => by simp only [pointed, writtenSegments]
  | s :: ss, h => by
    simp only [unbracketedSegments, Bool.and_eq_true] at h
    simp only [pointed, writtenSegments, s.chars_eq_written h.1, pointed_eq_written ss h.2]
end

end DocPath
