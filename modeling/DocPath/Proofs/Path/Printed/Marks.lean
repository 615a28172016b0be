import DocPath.Proofs.Number.Spelling
import DocPath.Proofs.Path.Lists
import DocPath.Proofs.Path.Measure

/-!
The printed text of a tree has at most the marks that the tree costs, and fewer where a word of
the tree does not show what it is.
-/

namespace DocPath

open Reader

/-- One where something does not hold. -/
def lack (b : Bool) : Nat := if b then 0 else 1

theorem lack_and (a b : Bool) : lack (a && b) ≤ lack a + lack b := by
  cases a <;> cases b <;> decide

theorem marks_le_false (tail : Bool) (cs : List Char) : marks tail cs ≤ marks false cs := by
  cases cs with
  | nil => exact Nat.le_refl _
  | cons c cs => exact Nat.add_le_add_right (mark_le_false tail c) _

theorem marks_skip {c : Char} (silent : mark false c = 0) (apart : isTail c = false) (tail : Bool)
    (cs : List Char) : marks tail (c :: cs) = marks false cs := by
  have none := mark_le_false tail c
  rw [marks, apart]
  omega

theorem marks_append_le (tail : Bool) (cs ds : List Char) :
    marks tail (cs ++ ds) ≤ marks tail cs + marks false ds := by
  rw [marks_append]
  exact Nat.add_le_add_left (marks_le_false _ ds) _

theorem marks_closed {c : Char} (silent : mark false c = 0) (tail : Bool) (cs : List Char) :
    marks tail (cs ++ [c]) = marks tail cs := by
  have none := mark_le_false (tailOf tail cs) c
  rw [marks_append, marks, marks]
  omega

theorem marks_parenthesize (b tail : Bool) (cs : List Char) :
    marks tail (parenthesize b cs) ≤ marks false cs := by
  unfold parenthesize
  split
  · rw [marks_skip (by decide) (by decide), marks_closed (by decide)]
  · exact marks_le_false tail cs

theorem marks_singleQuoted (tail : Bool) (s : String) :
    marks tail (singleQuoted s) = 2 + marks false s.toList := by
  have quote (t : Bool) : mark t '\'' = 1 := by cases t <;> rfl
  have apart : isTail '\'' = false := rfl
  rw [singleQuoted, marks, marks_append, marks, marks, quote, quote, apart]
  omega

theorem marks_singleQuoted_lack (tail : Bool) (s : String) :
    marks tail (singleQuoted s) + lack (isPlain s) = textCost s := by
  rw [marks_singleQuoted, textCost, lack]

theorem marks_unaryOp (op : UnaryOp) (cs : List Char) :
    marks false (op.chars ++ cs) = marks false cs := by
  cases op <;> exact Nat.zero_add _

theorem marks_binaryOp (op : BinaryOp) (tail : Bool) (cs : List Char) :
    marks tail (' ' :: (op.chars ++ ' ' :: cs)) = marks false cs := by
  rw [marks_skip (by decide) (by decide), marks_append, marks_skip (by decide) (by decide)]
  have none : marks false op.chars = 0 := by cases op <;> decide
  omega

theorem marks_selector (hyphens : Bool) (i : Selector) (tail : Bool) :
    marks tail i.chars + lack ((Segment.index i).legible hyphens) ≤
      (Segment.index i).cost hyphens := by
  have number (n : Int) (t : Bool) := isUnpointed_integerChars n t
  cases i with
  | single n =>
    rw [Selector.chars, marks_skip (by decide) (by decide), marks_closed (by decide),
      (number n.toInt false).1]
    exact Nat.le_refl _
  | range a b inclusive =>
    have points : marks true (if inclusive then ['.', '.'] else ['.', '.', '<']) = 3 := by
      cases inclusive <;> rfl
    rw [Selector.chars, marks_skip (by decide) (by decide), marks_closed (by decide), marks_append,
      marks_append, (number a.toInt false).1, (number a.toInt false).2, points,
      (number b.toInt _).1]
    exact Nat.le_refl _
  | key k =>
    have quoted := marks_singleQuoted_lack false k
    rw [Selector.chars, marks_skip (by decide) (by decide), marks_closed (by decide)]
    exact Nat.le_of_eq quoted

theorem marks_number {x : Number} (literal : x.isLiteral) (tail : Bool) :
    marks tail x.toText.toList + lack x.isLegible ≤ x.cost ∧
      tailOf tail x.toText.toList = true := by
  cases kind : x.isWhole with
  | true =>
    obtain ⟨digits, full, -⟩ := Number.toText_of_isWhole literal kind
    have plain := isUnpointed_digits digits full tail
    refine ⟨?_, plain.2⟩
    rw [plain.1]
    cases x <;> first | exact Nat.zero_le _ | cases kind
  | false =>
    cases x with
    | bigDecimal d =>
      simp only [Number.isLiteral, Bool.not_eq_true'] at literal
      by_cases places : 0 < d.scale
      · have pointed := (Decimal.isPointed_toText literal places).2 tail
        have legible : (Number.bigDecimal d).isLegible = true := decide_eq_true places
        exact ⟨Nat.le_of_eq (by rw [Number.toText, pointed.1, legible]; rfl), pointed.2⟩
      · have plain := Decimal.isUnpointed_toText literal (Nat.eq_zero_of_not_pos places) tail
        have illegible : (Number.bigDecimal d).isLegible = false := decide_eq_false places
        exact ⟨Nat.le_of_eq (by rw [Number.toText, plain.1, illegible]; rfl), plain.2⟩
    | double y =>
      have spelled : marks tail (Number.binaryText y).toList ≤ 1 ∧
          tailOf tail (Number.binaryText y).toList = true := by
        rcases Number.binaryText_spelled y with plain | pointed
        · exact ⟨Nat.le_trans (Nat.le_of_eq (plain tail).1) (Nat.zero_le _), (plain tail).2⟩
        · exact ⟨Nat.le_of_eq (pointed.2 tail).1, (pointed.2 tail).2⟩
      exact ⟨Nat.add_le_add_right spelled.1 1, spelled.2⟩
    | float y => cases literal
    | exact t => cases literal
    | int n => cases kind
    | long n => cases kind
    | bigInteger d => cases kind

theorem marks_literal {v : Value} (formed : isLiteralValue v) :
    marks false (literalChars v) + lack (isLegibleValue v) ≤ literalCost v := by
  cases v with
  | null => decide
  | bool b => cases b <;> decide
  | string s => exact Nat.le_of_eq (marks_singleQuoted_lack false s)
  | number x => exact (marks_number formed false).1
  | list vs => cases formed
  | map es => cases formed
  | node e => cases formed

theorem marks_afterName (names : List String) (tail : Bool) :
    marks tail (afterName names) ≤ (names.map (marks false ·.toList)).sum := by
  induction names generalizing tail with
  | nil => exact Nat.le_refl _
  | cons name names ih =>
    have rest := marks_append_le false name.toList (afterName names)
    have more := ih false
    rw [afterName, marks_skip (by decide) (by decide), marks_skip (by decide) (by decide),
      List.map_cons, List.sum_cons]
    omega

theorem marks_params (params : List String) (tail : Bool) :
    marks tail (if params.isEmpty then [] else (", ".intercalate params ++ " -> ").toList) ≤
      (params.map (marks false ·.toList)).sum := by
  cases params with
  | nil => exact Nat.le_refl _
  | cons name names =>
    have arrow : marks false " -> ".toList = 0 := by decide
    have first := marks_append_le tail name.toList (afterName names)
    have start := marks_le_false tail name.toList
    have more := marks_afterName names false
    have all := marks_append_le tail (name.toList ++ afterName names) " -> ".toList
    rw [List.isEmpty_cons, if_neg (by decide), String.toList_append, intercalate_names,
      List.map_cons, List.sum_cons]
    omega

namespace Segment

theorem tailOf_chars : ∀ g : Segment, g.endsTail → ∀ tail, tailOf tail g.chars = true
  | .field name, h => by
    intro tail
    simp only [endsTail, Bool.and_eq_true] at h
    obtain ⟨bare, last⟩ := h
    rw [chars, if_pos bare]
    cases text : name.toList with
    | nil =>
      rw [text] at last
      cases last
    | cons c cs =>
      rw [text] at last
      exact last
  | .spread inner, h => by
    intro tail
    simp only [endsTail] at h
    exact tailOf_chars inner h _
  | .index _, h | .wildcard, h | .descent, h | .call .., h => by cases h

end Segment

theorem tailOf_pointed {gs : List Segment} (h : gs.getLast?.any (·.endsTail) = true) :
    ∀ tail, tailOf tail (pointed gs) = true := by
  induction gs with
  | nil => cases h
  | cons g gs ih =>
    intro tail
    rw [pointed, tailOf_append]
    cases gs with
    | nil =>
      simp only [List.getLast?_singleton, Option.any_some] at h
      rw [pointed, tailOf]
      split <;> exact g.tailOf_chars h _
    | cons b bs => exact ih (by rwa [List.getLast?_cons_cons] at h) _

theorem Expr.tailOf_chars : ∀ e : Expr, e.wellFormed false → e.endsTail → ∀ tail,
    tailOf tail e.chars = true
  | .literal (.number x), formed, _ => by
    intro tail
    exact (marks_number formed tail).2
  | .ident name, formed, h => by
    intro tail
    obtain ⟨c, cs, text, -⟩ := isIdentifier_parts (isName_iff.mp formed).1
    rw [endsTail, text] at h
    rw [chars, text]
    exact h
  | .path base gs, _, h => by
    intro tail
    rw [chars, tailOf_append]
    exact tailOf_pointed h _
  | .unary op operand, formed, h => by
    intro tail
    simp only [endsTail, Bool.and_eq_true, Bool.not_eq_true'] at h
    rw [chars, h.1, tailOf_append]
    exact operand.tailOf_chars formed h.2 _
  | .binary op left right, formed, h => by
    intro tail
    simp only [endsTail, Bool.and_eq_true, Bool.not_eq_true'] at h
    simp only [wellFormed, Bool.and_eq_true] at formed
    rw [chars, h.1, tailOf_append, tailOf, tailOf_append, tailOf]
    exact right.tailOf_chars formed.2 h.2 _
  | .ternary condition yes no, formed, h => by
    intro tail
    simp only [wellFormed, Bool.and_eq_true] at formed
    simp only [endsTail] at h
    simp only [chars, tailOf_append, tailOf]
    exact no.tailOf_chars formed.2 h _
  | .elvis value fallback, formed, h => by
    intro tail
    simp only [wellFormed, Bool.and_eq_true] at formed
    simp only [endsTail] at h
    simp only [chars, tailOf_append, tailOf]
    exact fallback.tailOf_chars formed.2 h _
  | .literal .null, _, h | .literal (.bool _), _, h | .literal (.string _), _, h
  | .literal (.list _), _, h | .literal (.map _), _, h | .literal (.node _), _, h
  | .list _, _, h | .closure _, _, h => by cases h

theorem Expr.endsTail_of_endsInWhole : ∀ e : Expr, e.endsInWhole → e.endsTail
  | .literal (.number x), _ => rfl
  | .unary _ operand, h => by
    simp only [endsInWhole, Bool.and_eq_true] at h
    simp only [endsTail, Bool.and_eq_true]
    exact ⟨h.1, operand.endsTail_of_endsInWhole h.2⟩
  | .binary _ _ right, h => by
    simp only [endsInWhole, Bool.and_eq_true] at h
    simp only [endsTail, Bool.and_eq_true]
    exact ⟨h.1, right.endsTail_of_endsInWhole h.2⟩
  | .ternary _ _ no, h => no.endsTail_of_endsInWhole h
  | .elvis _ fallback, h => fallback.endsTail_of_endsInWhole h
  | .literal .null, h | .literal (.bool _), h | .literal (.string _), h
  | .literal (.list _), h | .literal (.map _), h | .literal (.node _), h
  | .list _, h | .ident _, h | .path .., h | .closure _, h => by cases h

theorem segmentsCost_of_startsInDigit (hyphens : Bool) {gs : List Segment}
    (h : gs.head?.any Segment.startsInDigit = true) :
    segmentsCost hyphens true gs + 1 = segmentsCost hyphens false gs := by
  cases gs with
  | nil => cases h
  | cons g gs =>
    have apart : g.isAttached = false := by
      cases g <;> first | rfl | cases h
    simp only [segmentsCost, pointCost, apart, Bool.false_eq_true, if_false, if_true]
    omega

theorem marks_field (hyphens : Bool) (name : String) :
    marks false (Segment.field name).chars + lack (isLegibleKey hyphens name) ≤
      fieldCost hyphens name := by
  unfold Segment.chars isLegibleKey fieldCost
  split
  · exact Nat.le_refl _
  · exact Nat.le_of_eq (marks_singleQuoted_lack false name)

theorem marks_def (cs : List Char) :
    marks false ('d' :: 'e' :: 'f' :: ' ' :: cs) = 2 + marks false cs := by
  show 0 + (2 + (0 + (0 + marks false cs))) = _
  omega

theorem commaSeparated_cons_cons (e f : Expr) (es : List Expr) :
    commaSeparated (e :: f :: es) = e.chars ++ ',' :: ' ' :: commaSeparated (f :: es) := by
  simp only [commaSeparated]

mutual
theorem Expr.marks_chars : ∀ (argument : Bool) (e : Expr), e.wellFormed argument →
    marks false e.chars + lack e.legible ≤ e.cost
  | _, .literal v, formed => marks_literal formed
  | _, .list items, formed => by
    have inner := marks_commaSeparated false items formed
    rw [Expr.chars, marks_skip (by decide) (by decide), marks_closed (by decide)]
    exact inner
  | _, .ident name, _ => Nat.le_refl _
  | _, .path base gs, formed => by
    simp only [Expr.wellFormed, Bool.and_eq_true] at formed
    obtain ⟨⟨formed, -⟩, rest⟩ := formed
    have own := base.marks_chars false formed
    have ends := fun last => base.tailOf_chars formed last false
    have split := lack_and (base.legible && legibleSegments false gs) (keepsPoint base gs)
    have split' := lack_and base.legible (legibleSegments false gs)
    rw [Expr.chars, marks_append, Expr.legible, Expr.cost]
    cases keeps : keepsPoint base gs with
    | true =>
      have more := marks_pointed false gs rest (tailOf false base.chars) base.endsTail ends
      have none : lack true = 0 := rfl
      rw [keeps] at split
      rw [Bool.and_true base.endsTail]
      omega
    | false =>
      have digit := keeps
      simp only [keepsPoint, Bool.not_eq_false', Bool.and_eq_true] at digit
      have last := ends (base.endsTail_of_endsInWhole digit.1)
      have more := marks_pointed false gs rest (tailOf false base.chars) true fun _ => last
      have level := segmentsCost_of_startsInDigit false digit.2
      have one : lack false = 1 := rfl
      rw [keeps] at split
      rw [Bool.and_false base.endsTail]
      omega
  | _, .unary op operand, formed => by
    have inner := operand.marks_chars false formed
    have around := marks_parenthesize operand.isCompound false operand.chars
    rw [Expr.chars, marks_unaryOp, Expr.legible, Expr.cost]
    omega
  | _, .binary op left right, formed => by
    simp only [Expr.wellFormed, Bool.and_eq_true] at formed
    have first := left.marks_chars false formed.1
    have second := right.marks_chars false formed.2
    have around := marks_parenthesize left.isCompound false left.chars
    have around' := marks_parenthesize right.isCompound false right.chars
    have split := lack_and left.legible right.legible
    rw [Expr.chars, marks_append, marks_binaryOp, Expr.legible, Expr.cost]
    omega
  | _, .ternary condition yes no, formed => by
    simp only [Expr.wellFormed, Bool.and_eq_true] at formed
    have first := condition.marks_chars false formed.1.1
    have second := yes.marks_chars false formed.1.2
    have third := no.marks_chars false formed.2
    have around := marks_parenthesize condition.isCompound false condition.chars
    have split := lack_and (condition.legible && yes.legible) no.legible
    have split' := lack_and condition.legible yes.legible
    have mark (tail : Bool) :
        marks tail (' ' :: '?' :: ' ' :: (yes.chars ++ ' ' :: ':' :: ' ' :: no.chars)) =
          marks false yes.chars + marks false no.chars := by
      rw [marks_skip (by decide) (by decide), marks_skip (by decide) (by decide),
        marks_skip (by decide) (by decide), marks_append, marks_skip (by decide) (by decide),
        marks_skip (by decide) (by decide), marks_skip (by decide) (by decide)]
    rw [Expr.chars, marks_append, mark, Expr.legible, Expr.cost]
    omega
  | _, .elvis value fallback, formed => by
    simp only [Expr.wellFormed, Bool.and_eq_true] at formed
    have first := value.marks_chars false formed.1
    have second := fallback.marks_chars false formed.2
    have around := marks_parenthesize value.isCompound false value.chars
    have split := lack_and value.legible fallback.legible
    have mark (tail : Bool) : marks tail (' ' :: '?' :: ':' :: ' ' :: fallback.chars) =
        marks false fallback.chars := by
      rw [marks_skip (by decide) (by decide), marks_skip (by decide) (by decide),
        marks_skip (by decide) (by decide), marks_skip (by decide) (by decide)]
    rw [Expr.chars, marks_append, mark, Expr.legible, Expr.cost]
    omega
  | _, .closure c, formed => by
    simp only [Expr.wellFormed, Bool.and_eq_true] at formed
    exact c.marks_chars formed.2
theorem Closure.marks_chars : ∀ k : Closure, k.wellFormed →
    marks false k.chars + lack k.legible ≤ k.cost
  | .mk params locals body, formed => by
    simp only [Closure.wellFormed, Bool.and_eq_true] at formed
    have names := marks_params params false
    have locals_ := marks_localChars locals formed.1.2
    have value := body.marks_chars false formed.2
    have split := lack_and (legibleLocals locals) body.legible
    have first := marks_append_le false
      (if params.isEmpty then [] else (", ".intercalate params ++ " -> ").toList)
      (localChars locals)
    have second := marks_append_le false
      ((if params.isEmpty then [] else (", ".intercalate params ++ " -> ").toList) ++
        localChars locals) body.chars
    have close := marks_append_le false
      ((if params.isEmpty then [] else (", ".intercalate params ++ " -> ").toList) ++
        localChars locals ++ body.chars) [' ', '}']
    have blank : marks false [' ', '}'] = 0 := rfl
    rw [Closure.chars, marks_skip (by decide) (by decide), marks_skip (by decide) (by decide),
      Closure.legible, Closure.cost]
    omega
theorem Segment.marks_chars : ∀ (hyphens : Bool) (g : Segment), g.wellFormed →
    marks false g.chars + lack (g.legible hyphens) ≤ g.cost hyphens
  | hyphens, .field name, _ => marks_field hyphens name
  | hyphens, .index i, _ => marks_selector hyphens i false
  | _, .wildcard, _ => Nat.le_refl _
  | _, .descent, _ => Nat.le_refl _
  | hyphens, .call name args, formed => by
    simp only [Segment.wellFormed, Bool.and_eq_true] at formed
    have inner := marks_commaSeparated true args formed.2
    have word := marks_append_le false name.toList ('(' :: (commaSeparated args ++ [')']))
    rw [marks_skip (by decide) (by decide), marks_closed (by decide)] at word
    rw [Segment.chars, Segment.legible, Segment.cost]
    omega
  | hyphens, .spread inner, formed => by
    simp only [Segment.wellFormed, Bool.and_eq_true] at formed
    have own := inner.marks_chars hyphens formed.2
    rw [Segment.chars, marks_skip (by decide) (by decide), marks_point, Segment.legible,
      Segment.cost]
    simp only [Bool.false_eq_true, if_false]
    omega
theorem marks_commaSeparated : ∀ (argument : Bool) (es : List Expr), wellFormedItems argument es →
    marks false (commaSeparated es) + lack (legibleItems es) ≤ itemsCost es
  | _, [], _ => Nat.le_refl _
  | argument, [e], formed => by
    simp only [wellFormedItems, Bool.and_true] at formed
    have own := e.marks_chars argument formed
    simp only [commaSeparated, legibleItems, Bool.and_true, itemsCost, Nat.add_zero]
    exact own
  | argument, e :: f :: es, formed => by
    rw [wellFormedItems, Bool.and_eq_true] at formed
    have own := e.marks_chars argument formed.1
    have more := marks_commaSeparated argument (f :: es) formed.2
    have split := lack_and e.legible (legibleItems (f :: es))
    rw [commaSeparated_cons_cons, marks_append, marks_skip (by decide) (by decide),
      marks_skip (by decide) (by decide), legibleItems, itemsCost]
    omega
theorem marks_localChars : ∀ ls : List (String × Expr), wellFormedLocals ls →
    marks false (localChars ls) + lack (legibleLocals ls) ≤ localsCost ls
  | [], _ => Nat.le_refl _
  | (name, e) :: ls, formed => by
    simp only [wellFormedLocals, Bool.and_eq_true] at formed
    have value := e.marks_chars false formed.1.2
    have more := marks_localChars ls formed.2
    have split := lack_and e.legible (legibleLocals ls)
    have rest := marks_append_le false e.chars (';' :: ' ' :: localChars ls)
    have word := marks_append_le false name.toList
      (' ' :: '=' :: ' ' :: (e.chars ++ ';' :: ' ' :: localChars ls))
    rw [marks_skip (by decide) (by decide), marks_skip (by decide) (by decide)] at rest
    rw [marks_skip (by decide) (by decide), marks_skip (by decide) (by decide),
      marks_skip (by decide) (by decide)] at word
    rw [localChars, marks_def, legibleLocals, localsCost]
    omega
theorem marks_pointed : ∀ (hyphens : Bool) (gs : List Segment), wellFormedSegments gs →
    ∀ tail tail', (tail' = true → tail = true) →
      marks tail (pointed gs) + lack (legibleSegments hyphens gs) ≤ segmentsCost hyphens tail' gs
  | _, [], _ => fun _ _ _ => Nat.le_refl _
  | hyphens, g :: gs, formed => by
    intro tail tail' ends
    simp only [wellFormedSegments, Bool.and_eq_true] at formed
    have own := g.marks_chars hyphens formed.1.1
    have split := lack_and (g.legible hyphens) (legibleSegments hyphens gs)
    have last (t : Bool) := fun ends => g.tailOf_chars ends t
    rw [pointed, marks_append, legibleSegments, segmentsCost, pointCost]
    cases attached : g.isAttached with
    | true =>
      have more := marks_pointed hyphens gs formed.2 (tailOf tail g.chars) g.endsTail (last tail)
      have front := marks_le_false tail g.chars
      simp only [if_true]
      omega
    | false =>
      have more := marks_pointed hyphens gs formed.2 (tailOf false g.chars) g.endsTail (last false)
      have same : tailOf tail ('.' :: g.chars) = tailOf false g.chars := rfl
      simp only [Bool.false_eq_true, if_false]
      rw [marks_point, same]
      cases tail <;> cases tail' <;> simp at ends ⊢ <;> omega
end

/-- The text of a path has at most its marks, and fewer where a word of it is not legible. -/
theorem Path.marks_chars {p : Path} (formed : p.wellFormed) :
    marks false p.chars + lack (legibleSegments true p.segments) ≤ p.cost := by
  obtain ⟨gs⟩ := p
  simp only [wellFormed, Bool.and_eq_true] at formed
  cases gs with
  | nil => exact Nat.le_refl _
  | cons g gs =>
    simp only [wellFormedSegments, Bool.and_eq_true] at formed
    have first := g.marks_chars true formed.2.1.1
    have rest := marks_pointed true gs formed.2.2 (tailOf false g.chars) g.endsTail
      fun last => g.tailOf_chars last false
    have split := lack_and (g.legible true) (legibleSegments true gs)
    simp only [chars, cost, legibleSegments]
    rw [marks_append]
    omega

end DocPath
