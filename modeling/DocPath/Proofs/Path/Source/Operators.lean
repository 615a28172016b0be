import DocPath.Proofs.Path.Source.Expressions

/-!
Operators and choices pay for their signs, so that every text that is read as an expression or a
path pays for it.
-/

namespace DocPath

open Reader

section
variable {b b' c d : List Char} {left right e : Expr}

theorem pays_unaryOp (op : UnaryOp) : Pays op.chars 0 (signs op.chars) 0 0 :=
  .of_free (by cases op <;> decide) (Nat.zero_le _) (Nat.le_refl _)

theorem pays_binaryOp (op : BinaryOp) : Pays op.chars 0 (signs op.chars) 0 0 :=
  .of_free (by cases op <;> decide) (Nat.zero_le _) (Nat.le_refl _)

theorem PaysFor.unary (op : UnaryOp) (blank : Pays b 0 0 0 0) (h : PaysFor false c e) :
    PaysFor false (op.chars ++ (b ++ c)) (.unary op e) := by
  refine ⟨h.formed, ((pays_unaryOp op).append (blank.after h.pays)).weaken ?_ (Nat.le_refl _) ?_
    (Nat.le_refl _)⟩
  · rw [Expr.cost, Nat.zero_add]
  · rw [Expr.load, Nat.zero_add]

theorem PaysFor.binary (op : BinaryOp) (h : PaysFor false c left) (front : Pays b 0 0 0 0)
    (back : Pays b' 0 0 0 0) (k : PaysFor false d right) :
    PaysFor false (c ++ (b ++ (op.chars ++ (b' ++ d)))) (.binary op left right) := by
  refine ⟨by rw [Expr.wellFormed, h.formed, k.formed]; rfl, ?_⟩
  have all := h.pays.append (front.after ((pays_binaryOp op).append (back.after k.pays)))
  refine all.weaken ?_ ?_ ?_ (Nat.le_refl _)
  · rw [Expr.cost, Nat.zero_add]
  · rw [Expr.size, Nat.add_assoc]
  · rw [Expr.load, Nat.zero_add]

end

def Extends (d : List Char) (f : Expr → Expr) : Prop :=
  ∀ (c : List Char) (e : Expr), PaysFor false c e → PaysFor false (c ++ d) (f e)

namespace Reader

section
variable {operator : Reader BinaryOp} {operand : Reader Expr}

theorem leftOperators_takes (sign : Takes operator fun c op => c = op.chars)
    (h : Takes operand (PaysFor false)) (n : Nat) :
    Takes (leftOperators operator operand n) (PaysFor false) := by
  have one := Takes.bind Neutral.blanks fun _ => sign.bind fun op =>
    Takes.bind Neutral.blanks fun _ => h.commit.bind fun right => Takes.pure (op, right)
  have more : Takes (many (do
      blanks
      let op ← operator
      blanks
      let right ← commit operand
      pure (op, right)) n) fun d ps =>
        Extends d (ps.foldl (fun left p => .binary p.1 left p.2)) := by
    refine one.many ?none ?more n
    · intro c first paid
      rw [List.append_nil]
      exact paid
    · rintro d p ds ps ⟨b₁, c₂, u₁, rfl, p₁, c₃, c₄, op, rfl, rfl, b₂, c₅, u₂, rfl, p₂, c₆, c₇,
        right, rfl, paid, rfl, rfl⟩ rest c first own
      have next := rest _ _ (own.binary op p₁ p₂ paid)
      simpa only [List.append_assoc, List.append_nil, List.foldl_cons] using next
  refine (h.bind fun first => more.bind fun rest => Takes.pure
    (rest.foldl (fun left p => .binary p.1 left p.2) first)).mono ?_
  rintro c e ⟨c₁, c₂, first, rfl, paid, c₃, c₄, ps, rfl, rest, rfl, rfl⟩
  rw [List.append_nil]
  exact rest _ _ paid

theorem operatorWord_takes (op : BinaryOp) :
    Takes (operatorWord op.text op) fun c o => c = o.chars := by
  refine ((Takes.word op.text).bind fun _ => Takes.pure op).mono ?_
  rintro c o ⟨c₁, c₂, u, rfl, rfl, rfl, rfl⟩
  exact List.append_nil _

theorem guardedWord_takes (op : BinaryOp) (p : Reader Char) :
    Takes (do word op.text; notAhead p; pure op) fun c o => c = o.chars := by
  refine ((Takes.word op.text).bind fun _ => (Takes.notAhead p).bind fun _ => Takes.pure op).mono ?_
  rintro c o ⟨c₁, c₂, u, rfl, rfl, c₃, c₄, v, rfl, rfl, rfl, rfl⟩
  rw [List.append_nil, List.append_nil]
  rfl

theorem multiplicativeOperator_takes : Takes multiplicativeOperator fun c op => c = op.chars :=
  (guardedWord_takes .mul _).orElse ((operatorWord_takes .div).orElse (operatorWord_takes .rem))

theorem additiveOperator_takes : Takes additiveOperator fun c op => c = op.chars :=
  (operatorWord_takes .add).orElse (guardedWord_takes .sub _)

theorem relationalOperator_takes : Takes relationalOperator fun c op => c = op.chars := by
  refine (operatorWord_takes .le).orElse ((operatorWord_takes .ge).orElse
    ((operatorWord_takes .lt).orElse ((operatorWord_takes .gt).orElse ?_)))
  refine ((keyword_takes "in").bind fun _ => Takes.pure BinaryOp.isIn).mono ?_
  rintro c o ⟨c₁, c₂, u, rfl, rfl, rfl, rfl⟩
  exact List.append_nil _

theorem equalityOperator_takes : Takes equalityOperator fun c op => c = op.chars :=
  (operatorWord_takes .matches).orElse ((operatorWord_takes .eq).orElse
    ((operatorWord_takes .ne).orElse (operatorWord_takes .find)))

end

section
variable {expr : Reader Expr} (h : Takes expr (PaysFor false)) (n : Nat)
include h

theorem unary_takes (depth : Nat) : Takes (unary expr n depth) (PaysFor false) := by
  induction depth with
  | zero => exact postfixed_takes h n
  | succ depth ih =>
    have sign : Takes prefixOperator fun c op => c = op.chars := by
      refine Takes.orElse ?_ ?_
      · refine ((Takes.char '!').bind fun _ => (Takes.notAhead (char '=')).bind fun _ =>
          Takes.pure UnaryOp.not).mono ?_
        rintro c op ⟨c₁, c₂, x, rfl, ⟨rfl, -⟩, c₃, c₄, u, rfl, rfl, rfl, rfl⟩
        rfl
      · refine ((Takes.char '-').bind fun _ => Takes.pure UnaryOp.neg).mono ?_
        rintro c op ⟨c₁, c₂, x, rfl, ⟨rfl, -⟩, rfl, rfl⟩
        rfl
    refine Takes.orElse ?_ (postfixed_takes h n)
    refine (sign.bind fun op => Takes.bind Neutral.blanks fun _ => ih.commit.bind fun e =>
      Takes.pure (Expr.unary op e)).mono ?_
    rintro c e ⟨c₁, c₂, op, rfl, rfl, b, c₃, u, rfl, blank, c₄, c₅, operand, rfl, paid, rfl, rfl⟩
    rw [List.append_nil]
    exact paid.unary op blank

theorem disjunction_takes : Takes (disjunction expr n) (PaysFor false) :=
  leftOperators_takes (operatorWord_takes .or)
    (leftOperators_takes (operatorWord_takes .and)
      (leftOperators_takes equalityOperator_takes
        (leftOperators_takes relationalOperator_takes
          (leftOperators_takes additiveOperator_takes
            (leftOperators_takes multiplicativeOperator_takes (unary_takes h n n) n) n) n) n) n) n

theorem elvis_takes : Takes (do
    word "?:"
    blanks
    let fallback ← commit expr
    pure fun value => Expr.elvis value fallback) Extends := by
  refine ((Takes.word "?:").bind fun _ => Takes.bind Neutral.blanks fun _ => h.commit.bind
    fun fallback => Takes.pure fun value => Expr.elvis value fallback).mono ?_
  rintro d f ⟨c₁, c₂, u, rfl, rfl, b, c₃, v, rfl, blank, c₄, c₅, fallback, rfl, paid, rfl, rfl⟩
    c e own
  have mark : Pays "?:".toList 0 1 0 0 := .of_free (by decide) (Nat.zero_le _) (by decide)
  have all := own.pays.append (mark.append (blank.after (paid.pays.before .nil)))
  refine ⟨by rw [Expr.wellFormed, own.formed, paid.formed]; rfl,
    all.weaken ?_ ?_ ?_ (Nat.le_refl _)⟩
  · rw [Expr.cost, Nat.zero_add]
  · rw [Expr.size, Nat.add_assoc]
  · rw [Expr.load, Nat.zero_add]

theorem ternary_takes : Takes (do
    let _ ← char '?'
    commit do
      blanks
      let yes ← expr
      blanks
      let _ ← char ':'
      blanks
      let no ← expr
      pure fun condition => Expr.ternary condition yes no) Extends := by
  have colon : Neutral (char ':') := .char (by decide)
  refine ((Takes.char '?').bind fun _ => (Takes.bind Neutral.blanks fun _ => h.bind fun yes =>
    Takes.bind Neutral.blanks fun _ => Takes.bind colon fun _ => Takes.bind Neutral.blanks fun _ =>
    h.bind fun no => Takes.pure fun condition => Expr.ternary condition yes no).commit).mono ?_
  rintro d f ⟨c₁, c₂, x, rfl, ⟨rfl, -⟩, b₁, c₃, u₁, rfl, p₁, c₄, c₅, yes, rfl, paid₁, b₂, c₆, u₂,
    rfl, p₂, b₃, c₇, u₃, rfl, p₃, b₄, c₈, u₄, rfl, p₄, c₉, c₁₀, no, rfl, paid₂, rfl, rfl⟩ c e own
  have mark : Pays ['?'] 0 1 0 0 := .of_free (by decide) (Nat.zero_le _) (by decide)
  have second := p₂.after (p₃.after (p₄.after (paid₂.pays.before .nil)))
  have all := own.pays.append (mark.append (p₁.after (paid₁.pays.append second)))
  refine ⟨by rw [Expr.wellFormed, own.formed, paid₁.formed, paid₂.formed]; rfl,
    all.weaken ?_ ?_ ?_ (Nat.le_refl _)⟩
  · rw [Expr.cost]
    omega
  · rw [Expr.size]
    omega
  · rw [Expr.load]
    omega

theorem choice_takes : Takes (choice expr) Extends := by
  refine (Takes.bind Neutral.blanks fun _ => (elvis_takes h).orElse (ternary_takes h)).mono ?_
  rintro d f ⟨b, c₂, u, rfl, blank, rest⟩ c e own
  rw [← List.append_assoc]
  exact rest _ _ ⟨own.formed, own.pays.before blank⟩

theorem expressionWith_takes : Takes (expressionWith expr n) (PaysFor false) := by
  refine ((disjunction_takes h n).bind fun first => (choice_takes h).optional.bind fun tail =>
    Takes.pure _).mono ?_
  rintro c e ⟨c₁, c₂, first, rfl, paid, c₃, c₄, tail, rfl, chosen, rfl, rfl⟩
  rw [List.append_nil]
  rcases chosen with ⟨f, rfl, rest⟩ | ⟨rfl, rfl⟩
  · exact rest _ _ paid
  · rw [List.append_nil]
    exact paid

end

/-- Every text that is read as an expression pays for it. -/
theorem expression_takes (n : Nat) : Takes (expression n) (PaysFor false) := by
  induction n with
  | zero => exact Takes.fail _
  | succ n ih => exact expressionWith_takes ih n

end Reader

end DocPath
