import DocPath.Proofs.Path.Printed.Marks
import DocPath.Proofs.Reader.Literals
import DocPath.Proofs.Text.Spends

/-!
The printed text of a legible tree weighs as much as the tree and its groups weigh at most the
load of the tree, less where a base that would need parentheses has none.
-/

namespace DocPath

open Reader

/-- What the group at the end of a printed expression weighs at most. -/
def Expr.held (e : Expr) : Nat := if e.isAtomic then 0 else e.size - 1

def lastHold (gs : List Segment) : Nat := (gs.getLast?.map Segment.hold).getD 0

theorem Expr.held_le (e : Expr) : e.held ≤ e.size := by
  unfold held
  split <;> omega

theorem Expr.held_of_compound {e : Expr} (compound : e.isAtomic = false) :
    e.held = e.size - 1 := by
  rw [held, compound]
  rfl

theorem lastHold_cons_cons (g h : Segment) (gs : List Segment) :
    lastHold (g :: h :: gs) = lastHold (h :: gs) := by
  rw [lastHold, lastHold, List.getLast?_cons_cons]

theorem Segment.hold_lt : ∀ g : Segment, g.hold < (if g.isAttached then 0 else 1) + g.size
  | .field _ => by
    simp only [hold, isAttached, size, Bool.false_eq_true, if_false]
    omega
  | .index _ => Nat.zero_lt_one
  | .wildcard | .descent => by decide
  | .call _ args => by
    simp only [hold, isAttached, size, Bool.false_eq_true, if_false]
    omega
  | .spread inner => by
    have own := inner.hold_lt
    simp only [hold, isAttached, size, if_true]
    split at own <;> omega

theorem lastHold_lt {gs : List Segment} (some : gs ≠ []) : lastHold gs < segmentsSize gs := by
  induction gs with
  | nil => exact absurd rfl some
  | cons g gs ih =>
    have own := g.hold_lt
    cases gs with
    | nil =>
      rw [segmentsSize]
      exact Nat.lt_of_lt_of_le own (Nat.le_add_right _ _)
    | cons b bs =>
      have rest := ih (by simp)
      rw [lastHold_cons_cons, segmentsSize]
      omega

theorem signs_binaryOp_pos (op : BinaryOp) : 0 < signs op.chars := by
  cases op <;> decide

theorem signs_unaryOp (op : UnaryOp) : signs op.chars = 1 := by
  cases op <;> decide

theorem Expr.size_pos {e : Expr} (formed : e.wellFormed false) (compound : e.isAtomic = false) :
    0 < e.size := by
  cases e with
  | path base gs =>
    simp only [wellFormed, Bool.and_eq_true, Bool.not_eq_true', List.isEmpty_eq_false_iff] at formed
    have last := lastHold_lt formed.1.2
    rw [size]
    omega
  | unary op operand =>
    have sign := signs_unaryOp op
    rw [size]
    omega
  | binary op left right =>
    have sign := signs_binaryOp_pos op
    rw [size]
    omega
  | ternary condition yes no =>
    rw [size]
    omega
  | elvis value fallback =>
    rw [size]
    omega
  | closure c => cases formed
  | literal v => cases compound
  | list items => cases compound
  | ident name => cases compound

theorem Expr.held_lack {e : Expr} (formed : e.wellFormed false) :
    e.held + lack e.isAtomic ≤ e.hold := by
  unfold held hold
  cases atomic : e.isAtomic with
  | true => exact Nat.le_refl _
  | false =>
    have some := size_pos formed atomic
    have one : lack false = 1 := rfl
    simp only [Bool.false_eq_true, if_false]
    omega

theorem spends_singleQuoted {s : String} (plain : isPlain s) :
    Spends (singleQuoted s) (signs s.toList) 0 0 0 := by
  refine Spends.quoted (q := .single) fun x mem => ?_
  have one := List.all_eq_true.mp plain x mem
  simp only [isPlainChar, Bool.and_eq_true, decide_eq_true_eq] at one
  exact one

theorem signs_digits {ds : List Char} (digits : ds.all isDigit) : signs ds = 0 := by
  induction ds with
  | nil => rfl
  | cons d ds ih =>
    simp only [List.all_cons, Bool.and_eq_true] at digits
    have none : sign d = 0 := by
      have ne (c : Char) (other : isDigit c = false) : d ≠ c := digit_ne digits.1 other
      simp [sign, ne 'i' (by decide), ne 'u' (by decide), ne '+' (by decide), ne '-' (by decide),
        ne '*' (by decide), ne '/' (by decide), ne '%' (by decide), ne '<' (by decide),
        ne '>' (by decide), ne '=' (by decide), ne '!' (by decide), ne '&' (by decide),
        ne '|' (by decide), ne '?' (by decide), ne '.' (by decide)]
    rw [signs_cons, none, ih digits.2]

theorem spends_number {x : Number} (literal : x.isLiteral) (legible : x.isLegible) :
    Spends x.toText.toList x.size 0 0 0 := by
  cases kind : x.isWhole with
  | true =>
    obtain ⟨digits, -, -⟩ := Number.toText_of_isWhole literal kind
    refine (Spends.free (isFree_digits digits)).weaken ?_ (Nat.le_refl _) (Nat.le_refl _)
    rw [signs_digits digits]
    exact Nat.zero_le _
  | false =>
    cases x with
    | bigDecimal d =>
      simp only [Number.isLiteral, Bool.not_eq_true'] at literal
      simp only [Number.isLegible, decide_eq_true_eq] at legible
      obtain ⟨ds, fs, text, digits, -, places, -⟩ := Decimal.toText_fraction literal legible
      have free : (ds ++ '.' :: fs).all isFree := by
        rw [List.all_append, List.all_cons, isFree_digits digits, isFree_digits places]
        rfl
      have one : signs (ds ++ '.' :: fs) = 1 := by
        rw [signs_append, signs_cons, signs_digits digits, signs_digits places]
        rfl
      have spends := Spends.free free
      rw [one, ← text] at spends
      exact spends
    | double y => cases legible
    | float y => cases literal
    | exact t => cases literal
    | int n => cases kind
    | long n => cases kind
    | bigInteger d => cases kind

theorem spends_literal {v : Value} (formed : isLiteralValue v) (legible : isLegibleValue v) :
    Spends (literalChars v) (literalSize v) 0 0 0 := by
  have word (w : String) (free : w.toList.all isFree) : Spends w.toList (signs w.toList) 0 0 0 :=
    .free free
  cases v with
  | null => exact word "null" (by decide)
  | bool b =>
    cases b with
    | true => exact word "true" (by decide)
    | false => exact word "false" (by decide)
  | string s => exact spends_singleQuoted legible
  | number x => exact spends_number formed legible
  | list vs => cases formed
  | map es => cases formed
  | node e => cases formed

theorem spends_name {cs : List Char} (keys : ∀ c ∈ cs, isKeyChar true c = true ∨ c = '@') :
    Spends cs (signs cs) 0 0 0 :=
  .free (List.all_eq_true.mpr fun c mem => isFree_of_isKeyChar (keys c mem))

theorem spends_identifier {name : String} (h : isIdentifier name) :
    Spends name.toList (signs name.toList) 0 0 0 :=
  spends_name fun c mem =>
    .inl (isKeyChar_isIdentChar (List.all_eq_true.mp (isIdentifier_all h) c mem))

theorem spends_field {hyphens : Bool} {name : String} (legible : isLegibleKey hyphens name) :
    Spends (Segment.field name).chars (signs name.toList) 0 0 0 := by
  unfold isLegibleKey at legible
  rw [Segment.chars]
  split
  · next bare =>
    exact spends_name (isBare_keys bare)
  · next quoted =>
    rw [if_neg quoted] at legible
    exact spends_singleQuoted legible

theorem fills_selector {hyphens : Bool} {i : Selector}
    (legible : (Segment.index i).legible hyphens) :
    ∃ c last, i.chars = '[' :: (c ++ [']']) ∧ Fills c last 0 0 := by
  have index (n : Int) : (integerChars n).all isFree := by
    have digits := isFree_digits (all_isDigit_decimalDigits n.natAbs)
    unfold integerChars
    split
    · rw [List.all_cons, digits]
      rfl
    · exact digits
  cases i with
  | single n => exact ⟨_, _, rfl, (Spends.free (index n.toInt)).fills⟩
  | range a b inclusive =>
    have points : (if inclusive then ['.', '.'] else ['.', '.', '<']).all isFree := by
      cases inclusive <;> decide
    refine ⟨_, _, rfl, (Spends.free ?_).fills⟩
    rw [List.all_append, List.all_append, index, points, index]
    rfl
  | key k => exact ⟨_, _, rfl, (spends_singleQuoted legible).fills⟩

theorem spends_operand {e : Expr} {gap : Nat} (h : Spends e.chars e.size e.load gap e.held) :
    Spends (parenthesize e.isCompound e.chars) e.size e.load gap e.size := by
  unfold parenthesize
  split
  · exact h.fills.group
  · exact h.weaken (Nat.le_refl _) (Nat.le_refl _) e.held_le

theorem Segment.follows_joint {g : Segment} {gap : Nat}
    (h : Spends g.chars g.size g.load gap g.hold) :
    Follows (if g.isAttached then g.chars else '.' :: g.chars)
      ((if g.isAttached then 0 else 1) + g.size) g.load gap g.hold := by
  cases attached : g.isAttached with
  | true =>
    have start : ∃ x cs, g.chars = x :: cs ∧ (x = '.' ∨ x = '*' ∨ x = '?' ∨ x = '[') := by
      cases g with
      | index i => cases i <;> exact ⟨'[', _, rfl, .inr (.inr (.inr rfl))⟩
      | spread inner => exact ⟨'*', _, rfl, .inr (.inl rfl)⟩
      | field name => cases attached
      | wildcard => cases attached
      | descent => cases attached
      | call name args => cases attached
    obtain ⟨x, cs, text, joint⟩ := start
    simp only [if_true]
    rw [text] at h ⊢
    exact (Spends.follows joint h).weaken (Nat.le_add_left _ _) (Nat.le_refl _) (Nat.le_refl _)
  | false =>
    have point : Spends ['.'] 1 0 0 0 := .free (by decide)
    simp only [Bool.false_eq_true, if_false]
    refine (Spends.follows (.inl rfl) (point.append h)).weaken (Nat.le_refl _) ?_ (Nat.le_refl _)
    omega

theorem fills_names (name : String) (names : List String) (formed : (name :: names).all isName) :
    ∃ last, Fills (name.toList ++ afterName names) last 0 0 := by
  induction names generalizing name with
  | nil =>
    simp only [List.all_cons, Bool.and_eq_true] at formed
    rw [afterName, List.append_nil]
    exact ⟨_, (spends_identifier (isName_iff.mp formed.1).1).fills⟩
  | cons next names ih =>
    rw [List.all_cons, Bool.and_eq_true] at formed
    obtain ⟨last, rest⟩ := ih next formed.2
    exact ⟨last, (spends_identifier (isName_iff.mp formed.1).1).fills.comma rest.blank⟩

theorem fills_params {params : List String} (formed : params.all isName) {c : List Char}
    {size load gap hold : Nat} (h : Spends c size load gap hold) :
    ∃ last, Fills
      ((if params.isEmpty then [] else (", ".intercalate params ++ " -> ").toList) ++ c) last load
        gap := by
  cases params with
  | nil => exact ⟨_, h.fills⟩
  | cons name names =>
    obtain ⟨last, front⟩ := fills_names name names formed
    have arrow : Spends ['-', '>', ' '] (signs ['-', '>', ' ']) 0 0 0 := .free (by decide)
    have text : (", ".intercalate (name :: names) ++ " -> ").toList ++ c =
        name.toList ++ afterName names ++ ' ' :: (['-', '>', ' '] ++ c) := by
      rw [String.toList_append, intercalate_names, List.append_assoc]
      rfl
    rw [List.isEmpty_cons, if_neg (by decide), text]
    refine ⟨_, (front.apart (by decide) (by decide) (arrow.append h)).weaken (Nat.le_refl _) ?_⟩
    omega

theorem spends_local {name : String} (formed : isName name) {c d : List Char}
    {size size' load load' gap gap' hold : Nat} (value : Spends c size load gap hold)
    (rest : Spends d size' load' gap' 0) :
    ∃ total, Spends ('d' :: 'e' :: 'f' :: ' ' :: (name.toList ++ ' ' :: '=' :: ' ' :: (c ++
      ';' :: ' ' :: d))) total (load + load') (gap + gap') 0 := by
  have word : Spends ['d', 'e', 'f', ' '] (signs ['d', 'e', 'f', ' ']) 0 0 0 := .free (by decide)
  have sign : Spends [' ', '=', ' '] (signs [' ', '=', ' ']) 0 0 0 := .free (by decide)
  have blank : Spends [' '] (signs [' ']) 0 0 0 := .free (by decide)
  have tail := value.apart (x := ';') (by decide) (by decide) (blank.append rest)
  have all := word.append ((spends_identifier (isName_iff.mp formed).1).append (sign.append tail))
  refine ⟨_, all.weaken (Nat.le_refl _) ?_ (Nat.le_refl _)⟩
  omega

mutual
theorem Expr.spends_chars : ∀ (argument : Bool) (e : Expr), e.wellFormed argument → e.legible →
    Spends e.chars e.size e.load (lack e.unbracketed) e.held
  | _, .literal v, formed, legible => spends_literal formed legible
  | _, .list items, formed, legible => (fills_commaSeparated false items formed legible).square
  | _, .ident name, formed, _ => spends_identifier (isName_iff.mp formed).1
  | _, .path base gs, formed, legible => by
    simp only [Expr.wellFormed, Bool.and_eq_true, Bool.not_eq_true', List.isEmpty_eq_false_iff]
      at formed
    simp only [Expr.legible, Bool.and_eq_true] at legible
    have first := base.spends_chars false formed.1.1 legible.1.1
    have rest := follows_pointed false gs formed.1.2 formed.2 legible.1.2
    have held := base.held_lack formed.1.1
    have last := lastHold_lt formed.1.2
    have split := lack_and (base.isAtomic && base.unbracketed) (unbracketedSegments gs)
    have split' := lack_and base.isAtomic base.unbracketed
    refine (first.join rest).weaken (Nat.le_refl _) ?_ ?_
    · rw [Expr.unbracketed, Expr.load]
      omega
    · rw [Expr.held_of_compound rfl, Expr.size]
      omega
  | _, .unary op operand, formed, legible => by
    have inner := spends_operand (operand.spends_chars false formed legible)
    have sign : Spends op.chars (signs op.chars) 0 0 0 := .free (by cases op <;> decide)
    refine (sign.append inner).weaken (Nat.le_refl _) ?_ ?_
    · rw [Expr.unbracketed, Expr.load]
      omega
    · rw [Expr.held_of_compound rfl, Expr.size, signs_unaryOp]
      omega
  | _, .binary op left right, formed, legible => by
    simp only [Expr.wellFormed, Bool.and_eq_true] at formed
    simp only [Expr.legible, Bool.and_eq_true] at legible
    have first := spends_operand (left.spends_chars false formed.1 legible.1)
    have second := spends_operand (right.spends_chars false formed.2 legible.2)
    have sign : Spends op.chars (signs op.chars) 0 0 0 := .free (by cases op <;> decide)
    have some := signs_binaryOp_pos op
    have blank : DocPath.sign ' ' = 0 := rfl
    have split := lack_and left.unbracketed right.unbracketed
    refine (first.apart (x := ' ') (by decide) (by decide)
      (sign.apart (x := ' ') (by decide) (by decide) second)).weaken ?_ ?_ ?_
    · rw [Expr.size]
      omega
    · rw [Expr.unbracketed, Expr.load]
      omega
    · rw [Expr.held_of_compound rfl, Expr.size]
      omega
  | _, .ternary condition yes no, formed, legible => by
    simp only [Expr.wellFormed, Bool.and_eq_true] at formed
    simp only [Expr.legible, Bool.and_eq_true] at legible
    have first := spends_operand (condition.spends_chars false formed.1.1 legible.1.1)
    have second := yes.spends_chars false formed.1.2 legible.1.2
    have third := no.spends_chars false formed.2 legible.2
    have mark : Spends ['?'] 1 0 0 0 := .free (by decide)
    have colon : Spends [':'] 0 0 0 0 := .free (by decide)
    have blank : DocPath.sign ' ' = 0 := rfl
    have split := lack_and (condition.unbracketed && yes.unbracketed) no.unbracketed
    have split' := lack_and condition.unbracketed yes.unbracketed
    have last := no.held_le
    have tail := second.apart (x := ' ') (by decide) (by decide)
      (colon.apart (x := ' ') (by decide) (by decide) third)
    refine (first.apart (x := ' ') (by decide) (by decide)
      (mark.apart (x := ' ') (by decide) (by decide) tail)).weaken ?_ ?_ ?_
    · rw [Expr.size]
      omega
    · rw [Expr.unbracketed, Expr.load]
      omega
    · have held : (Expr.ternary condition yes no).held = _ := Expr.held_of_compound rfl
      rw [held, Expr.size]
      omega
  | _, .elvis value fallback, formed, legible => by
    simp only [Expr.wellFormed, Bool.and_eq_true] at formed
    simp only [Expr.legible, Bool.and_eq_true] at legible
    have first := spends_operand (value.spends_chars false formed.1 legible.1)
    have second := fallback.spends_chars false formed.2 legible.2
    have mark : Spends ['?', ':'] 1 0 0 0 := .free (by decide)
    have blank : DocPath.sign ' ' = 0 := rfl
    have split := lack_and value.unbracketed fallback.unbracketed
    have last := fallback.held_le
    refine (first.apart (x := ' ') (by decide) (by decide)
      (mark.apart (x := ' ') (by decide) (by decide) second)).weaken ?_ ?_ ?_
    · rw [Expr.size]
      omega
    · rw [Expr.unbracketed, Expr.load]
      omega
    · have held : (Expr.elvis value fallback).held = _ := Expr.held_of_compound rfl
      rw [held, Expr.size]
      omega
  | _, .closure c, formed, legible => by
    simp only [Expr.wellFormed, Bool.and_eq_true] at formed
    exact c.spends_chars formed.2 legible
theorem Closure.spends_chars : ∀ k : Closure, k.wellFormed → k.legible →
    Spends k.chars 0 k.load (lack k.unbracketed) 0
  | .mk params locals body, formed, legible => by
    simp only [Closure.wellFormed, Bool.and_eq_true] at formed
    simp only [Closure.legible, Bool.and_eq_true] at legible
    obtain ⟨size, defined⟩ := spends_localChars locals formed.1.2 legible.1
    have value := (body.spends_chars false formed.2 legible.2).apart (x := ' ') (by decide)
      (by decide) Spends.nil
    obtain ⟨last, inside⟩ := fills_params formed.1.1 (defined.append value)
    have split := lack_and (unbracketedLocals locals) body.unbracketed
    have text : (Closure.mk params locals body).chars = '{' :: ' ' ::
        ((if params.isEmpty then [] else (", ".intercalate params ++ " -> ").toList) ++
          (localChars locals ++ (body.chars ++ [' '])) ++ ['}']) := by
      simp only [Closure.chars, List.append_assoc, List.cons_append, List.nil_append]
    rw [text]
    refine (inside.blank.brace).weaken (Nat.le_refl _) ?_ (Nat.le_refl _)
    rw [Closure.unbracketed, Closure.load]
    omega
theorem Segment.spends_chars : ∀ (hyphens : Bool) (g : Segment), g.wellFormed →
    g.legible hyphens → Spends g.chars g.size g.load (lack g.unbracketed) g.hold
  | _, .field name, _, legible => spends_field legible
  | _, .index i, _, legible => by
    obtain ⟨c, last, text, inside⟩ := fills_selector legible
    rw [Segment.chars, text]
    exact inside.square
  | _, .wildcard, _, _ => by
    have star : Spends ['*'] (signs ['*']) 0 0 0 := .free (by decide)
    exact star
  | _, .descent, _, _ => by
    have stars : Spends ['*', '*'] (signs ['*', '*']) 0 0 0 := .free (by decide)
    exact stars
  | _, .call name args, formed, legible => by
    simp only [Segment.wellFormed, Bool.and_eq_true] at formed
    have group := (fills_commaSeparated true args formed.2 legible).group
    obtain ⟨-, -, -, word⟩ := isKnownCall_parts formed.1
    refine ((spends_identifier word).append group).weaken (Nat.le_refl _) ?_ (Nat.le_refl _)
    rw [Segment.unbracketed, Segment.load]
    omega
  | hyphens, .spread inner, formed, legible => by
    simp only [Segment.wellFormed, Bool.and_eq_true] at formed
    have own := inner.spends_chars hyphens formed.2 legible
    have joint : Spends ['*', '.'] 2 0 0 0 := .free (by decide)
    refine (joint.append own).weaken (Nat.le_refl _) ?_ (Nat.le_refl _)
    rw [Segment.unbracketed, Segment.load]
    omega
theorem fills_commaSeparated : ∀ (argument : Bool) (es : List Expr), wellFormedItems argument es →
    legibleItems es →
      Fills (commaSeparated es) (lastSize es) (itemsLoad es) (lack (unbracketedItems es))
  | _, [], _, _ => Spends.nil.fills
  | argument, [e], formed, legible => by
    simp only [wellFormedItems, Bool.and_true] at formed
    simp only [legibleItems, Bool.and_true] at legible
    have own := (e.spends_chars argument formed legible).fills
    simpa only [commaSeparated, lastSize, itemsLoad, unbracketedItems, Bool.and_true, Nat.add_zero]
      using own
  | argument, e :: f :: es, formed, legible => by
    rw [wellFormedItems, Bool.and_eq_true] at formed
    rw [legibleItems, Bool.and_eq_true] at legible
    have own := (e.spends_chars argument formed.1 legible.1).fills
    have more := fills_commaSeparated argument (f :: es) formed.2 legible.2
    have split := lack_and e.unbracketed (unbracketedItems (f :: es))
    rw [commaSeparated_cons_cons]
    refine (own.comma more.blank).weaken (Nat.le_refl _) ?_
    have load : itemsLoad (e :: f :: es) = e.load + itemsLoad (f :: es) := rfl
    rw [unbracketedItems, load]
    omega
theorem spends_localChars : ∀ ls : List (String × Expr), wellFormedLocals ls → legibleLocals ls →
    ∃ size, Spends (localChars ls) size (localsLoad ls) (lack (unbracketedLocals ls)) 0
  | [], _, _ => ⟨0, Spends.nil⟩
  | (name, e) :: ls, formed, legible => by
    simp only [wellFormedLocals, Bool.and_eq_true] at formed
    simp only [legibleLocals, Bool.and_eq_true] at legible
    obtain ⟨size, more⟩ := spends_localChars ls formed.2 legible.2
    obtain ⟨total, all⟩ :=
      spends_local formed.1.1 (e.spends_chars false formed.1.2 legible.1) more
    have split := lack_and e.unbracketed (unbracketedLocals ls)
    rw [localChars]
    refine ⟨total, all.weaken (Nat.le_refl _) ?_ (Nat.le_refl _)⟩
    rw [unbracketedLocals, localsLoad]
    omega
theorem follows_pointed : ∀ (hyphens : Bool) (gs : List Segment), gs ≠ [] →
    wellFormedSegments gs → legibleSegments hyphens gs →
      Follows (pointed gs) (segmentsSize gs) (segmentsLoad gs) (lack (unbracketedSegments gs))
        (lastHold gs)
  | _, [], full, _, _ => absurd rfl full
  | hyphens, g :: gs, _, formed, legible => by
    simp only [wellFormedSegments, Bool.and_eq_true] at formed
    simp only [legibleSegments, Bool.and_eq_true] at legible
    have own := g.spends_chars hyphens formed.1.1 legible.1
    have split := lack_and g.unbracketed (unbracketedSegments gs)
    have front := g.follows_joint own
    cases gs with
    | nil =>
      have load : segmentsLoad [g] = g.load := rfl
      have size : segmentsSize [g] = (if g.isAttached then 0 else 1) + g.size := rfl
      have last : lastHold [g] = g.hold := rfl
      rw [pointed, pointed, List.append_nil, load, size, last]
      refine front.weaken (Nat.le_refl _) ?_ (Nat.le_refl _)
      rw [unbracketedSegments, unbracketedSegments, Bool.and_true]
    | cons b bs =>
      have more := follows_pointed hyphens (b :: bs) (by simp) formed.2 legible.2
      have load : segmentsLoad (g :: b :: bs) = g.load + g.hold + segmentsLoad (b :: bs) := rfl
      rw [pointed, lastHold_cons_cons, load]
      refine (front.append more).weaken (Nat.le_refl _) ?_ (Nat.le_refl _)
      rw [unbracketedSegments]
      omega
end

/-- The groups of the text of a legible path weigh at most its load, less without parentheses. -/
theorem Path.load_chars {p : Path} (formed : p.wellFormed)
    (legible : legibleSegments true p.segments) :
    (Meter.start.run p.chars).total + lack (unbracketedSegments p.segments) ≤ p.load := by
  obtain ⟨gs⟩ := p
  simp only [wellFormed, Bool.and_eq_true] at formed
  cases gs with
  | nil => exact Nat.le_refl _
  | cons g gs =>
    simp only [wellFormedSegments, Bool.and_eq_true] at formed
    simp only [legibleSegments, Bool.and_eq_true] at legible
    have first := g.spends_chars true formed.2.1.1 legible.1
    have split := lack_and g.unbracketed (unbracketedSegments gs)
    cases gs with
    | nil =>
      have run := (first Meter.start rfl rfl).total
      have none : Meter.start.total = 0 := rfl
      have one : lack (unbracketedSegments []) = 0 := rfl
      have load : Path.load ⟨[g]⟩ = g.load := rfl
      simp only [chars, pointed, List.append_nil, unbracketedSegments, load]
      rw [Bool.and_true]
      omega
    | cons b bs =>
      have rest := follows_pointed true (b :: bs) (by simp) formed.2.2 legible.2
      have run := ((first.join rest) Meter.start rfl rfl).total
      have none : Meter.start.total = 0 := rfl
      have load : Path.load ⟨g :: b :: bs⟩ = g.load + g.hold + segmentsLoad (b :: bs) := rfl
      simp only [chars, load]
      rw [unbracketedSegments]
      omega

end DocPath
