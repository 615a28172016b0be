import DocPath.Path.Grammar
import DocPath.Proofs.Path.Local.Segments
import DocPath.Proofs.Reader.Faults

/-!
Refused paths. The place of a syntax error is a place in the text, and where the error is about a
method, a call of that method starts there.
-/

namespace DocPath

open Reader

namespace Reader

theorem quotedChar_points (q : Quote) : Points (quotedChar q) := by
  have simple : Points (simpleEscape q) := by
    intro s
    cases s with
    | nil => exact .start [] rfl
    | cons x s =>
      simp only [simpleEscape]
      split
      · exact List.suffix_cons x s
      · exact .start _ rfl
  have four : Points fourHex := by
    intro s
    unfold fourHex
    split
    · split
      · exact List.suffix_append [_, _, _, _] _
      · exact .start _ rfl
    · exact .start _ rfl
  have code : Points unicodeSequence := by
    refine .within _ ((Points.char 'u').bind fun _ => four.check fun ds cause refused => ?_)
    split at refused <;> cases refused
    rfl
  exact (Points.satisfy _).orElse (((Points.char _).bind fun _ => simple.orElse code).within _)

theorem stringLiteral_points : Points stringLiteral := by
  have quoted (q : Quote) : Points (quotedWith q) := fun s =>
    ((Points.char q.char).bind fun _ => ((quotedChar_points q).many s.length).bind fun _ =>
      ((Points.char q.char).commitWith rfl).bind fun _ => .pure _) s
  exact ((quoted .single).orElse (quoted .double)).within _

theorem firstAndRun_points (start continues : Char → Bool) :
    Points (firstAndRun start continues) :=
  (Points.satisfy _).bind fun _ => (Points.takeWhile _).bind fun _ => .pure _

theorem keyword_points (w : String) : Points (keyword w) :=
  (Points.word w).bind fun _ => (Points.satisfy _).notAhead

theorem binder_points : Points binder := by
  refine (firstAndRun_points _ _).check fun name cause refused => ?_
  split at refused <;> cases refused
  rfl

theorem index_points : Points index := by
  have digits : Points signedDigits := (Points.char _).optional.bind fun _ =>
    (Points.takeWhile1 _).bind fun _ => .pure _
  refine digits.check fun cs cause refused => ?_
  split at refused
  · cases refused
    rfl
  · repeat' split at refused
    all_goals cases refused
    all_goals rfl

theorem number_points : Points number := by
  have fraction : Points fraction :=
    (Points.char _).bind fun _ => (Points.takeWhile1 _).bind fun _ => .pure _
  have exponent : Points exponent := (Points.satisfy _).bind fun _ =>
    (Points.satisfy _).optional.bind fun _ => (Points.takeWhile1 _).bind fun _ => .pure _
  have whole : Points digits1 := .takeWhile1 _
  refine .check (whole.bind fun _ => fraction.optional.bind fun _ => exponent.optional.bind
    fun _ => .pure _) fun p cause refused => ?_
  unfold numberOf at refused
  dsimp only at refused
  split at refused <;> cases refused
  rfl

theorem literal_points : Points literal := by
  have boolean : Points boolean := ((keyword_points _).bind fun _ => .pure true).orElse
    ((keyword_points _).bind fun _ => .pure false)
  exact (stringLiteral_points.bind fun _ => .pure _).orElse ((number_points.bind fun _ =>
    .pure _).orElse ((boolean.bind fun _ => .pure _).orElse
      ((keyword_points _).bind fun _ => .pure _)))

theorem methodName_starts {s t : List Char} {name : String} (read : methodName s = .done name t) :
    StartsCall name s ∧ t <:+ s := by
  obtain ⟨name', u, first, second⟩ := done_of_bind read
  obtain ⟨c, rfl, rfl, -⟩ := identifier_takes _ _ _ first
  obtain ⟨v, w, third, fourth⟩ := done_of_bind second
  cases fourth
  obtain ⟨rfl, x, y, start⟩ := done_of_ahead third
  refine ⟨⟨t, rfl, ?_⟩, List.suffix_append _ t⟩
  rcases done_of_orElse start with paren | ⟨-, brace⟩
  · obtain ⟨z, w, opened, -⟩ := done_of_bind paren
    obtain ⟨d, rfl, rfl, -⟩ := Takes.char '(' _ _ _ opened
    exact .inl rfl
  · obtain ⟨z, w, blank, opened⟩ := done_of_bind brace
    cases blank
    obtain ⟨z, w, opened, -⟩ := done_of_bind opened
    obtain ⟨d, text, rfl, -⟩ := Takes.char '{' _ _ _ opened
    exact .inr (by rw [text]; rfl)

section
variable {expr : Reader Expr} {n : Nat}

theorem call_points (arguments : Points (callArguments expr n)) : Points (call expr n) := by
  have name : Points methodName := by
    have start : Points callStart := ((Points.char _).bind fun _ => .pure ()).orElse
      (Points.blanks.bind fun _ => (Points.char _).bind fun _ => .pure ())
    exact (firstAndRun_points _ _).bind fun _ => start.ahead.bind fun _ => .pure _
  intro s
  have first := name s
  unfold call
  cases read : methodName s with
  | miss e =>
    rw [read] at first
    exact first
  | halt e =>
    rw [read] at first
    exact first
  | done label t =>
    obtain ⟨starts, behind⟩ := methodName_starts read
    have second := (arguments t).mono behind
    dsimp only
    split
    · next none => exact ⟨List.suffix_refl s, none, starts⟩
    · next method named =>
      cases args : callArguments expr n t with
      | miss e =>
        rw [args] at second
        exact second
      | halt e =>
        rw [args] at second
        exact second
      | done as r =>
        rw [args] at second
        dsimp only
        split
        · exact second
        · next refused =>
          have spelled := Method.label_of_named? named
          exact ⟨List.suffix_refl s, by simpa using refused, spelled ▸ starts⟩

theorem padded_points {α : Type} {p : Reader α} (h : Points p) : Points (padded p) :=
  Points.blanks.bind fun _ => h.bind fun _ => Points.blanks.bind fun _ => .pure _

theorem itemList_points {item : Reader Expr} (h : Points item) (close : Char) (n : Nat) :
    Points (itemList close item n) :=
  .commit ((padded_points (h.separated (padded_points (.char _)) n)).bind fun _ =>
    (Points.char _).bind fun _ => .pure _)

theorem leftOperators_points {operator : Reader BinaryOp} {operand : Reader Expr}
    (h : Points operator) (k : Points operand) (n : Nat) :
    Points (leftOperators operator operand n) :=
  k.bind fun _ => ((Points.blanks.bind fun _ => h.bind fun _ => Points.blanks.bind fun _ =>
    k.commit.bind fun _ => .pure _).many n).bind fun _ => .pure _

theorem operatorWord_points (w : String) (op : BinaryOp) : Points (operatorWord w op) :=
  (Points.word w).bind fun _ => .pure op

theorem subscript_points : Points subscript := by
  have range : Points rangeSelector := index_points.bind fun _ => Points.blanks.bind fun _ =>
    (Points.word _).bind fun _ => (Points.char _).optional.bind fun _ => Points.blanks.bind fun _ =>
      index_points.commit.bind fun _ => .pure _
  have selector : Points selector := range.orElse ((index_points.bind fun _ => .pure _).orElse
    (stringLiteral_points.bind fun _ => .pure _))
  have close : Points (do blanks; let _ ← char ']'; pure () : Reader Unit) :=
    Points.blanks.bind fun _ => (Points.char _).bind fun _ => .pure _
  exact .within _ ((Points.char _).bind fun _ => Points.blanks.bind fun _ =>
    selector.commit.bind fun _ => close.commit.bind fun _ => .pure _)

variable (inner : Points expr)
include inner

theorem closure_points : Points (closure expr n) := by
  have names : Points (parameters n) :=
    (binder_points.separated (padded_points (.char _)) n).bind fun _ => Points.blanks.bind fun _ =>
      (Points.word _).bind fun _ => .pure _
  have definition : Points (localDefinition expr) :=
    (keyword_points _).bind fun _ => Points.blanks1.bind fun _ => binder_points.commit.bind fun _ =>
      Points.blanks.bind fun _ => (Points.char _).commit.bind fun _ => Points.blanks.bind fun _ =>
        inner.commit.bind fun _ => Points.blanks.bind fun _ =>
          (Points.char _).optional.bind fun _ => .pure _
  have declared : Points (do let names ← parameters n; blanks; pure names : Reader _) :=
    names.bind fun _ => Points.blanks.bind fun _ => .pure _
  have defined : Points (do let l ← localDefinition expr; blanks; pure l : Reader _) :=
    definition.bind fun _ => Points.blanks.bind fun _ => .pure _
  have word : Points (do keyword "return"; blanks1 : Reader Unit) :=
    (keyword_points _).bind fun _ => .blanks1
  have body : Points (closureBody expr n) :=
    declared.optional.bind fun _ => (defined.many n).bind fun _ => word.optional.bind fun _ =>
      inner.bind fun _ => Points.blanks.bind fun _ => (Points.char _).optional.bind fun _ =>
        Points.blanks.bind fun _ => (Points.char _).bind fun _ => .pure _
  exact .within _ ((Points.char _).bind fun _ => Points.blanks.bind fun _ => body.commit)

theorem callArguments_points : Points (callArguments expr n) := by
  have closure : Points (closure expr n) := closure_points inner
  have argument : Points (argument expr n) := (closure.bind fun _ => .pure _).orElse inner
  have parens : Points (parenthesizedArguments expr n) :=
    .within _ ((Points.char _).bind fun _ => itemList_points argument _ n)
  exact (parens.bind fun _ => (Points.blanks.bind fun _ => closure).optional.bind fun _ =>
    .pure _).orElse (Points.blanks.bind fun _ => closure.bind fun _ => .pure _)

theorem segment_points (hyphens : Bool) : Points (segment expr n hyphens) :=
  ((Points.word _).bind fun _ => .pure _).orElse (((Points.word _).bind fun _ => .pure _).orElse
    ((call_points (callArguments_points inner)).orElse ((stringLiteral_points.bind fun _ =>
      .pure _).orElse ((firstAndRun_points _ _).bind fun _ => .pure _))))

theorem subsequent_points (hyphens : Bool) : Points (subsequent expr n hyphens) := by
  have segment : Points (segment expr n hyphens) := segment_points inner hyphens
  exact ((Points.word _).bind fun _ => (segment.within _).commit.bind fun _ => .pure _).orElse
    ((((Points.word _).orElse (.word _)).bind fun _ => (segment.within _).commit).orElse
      subscript_points)

theorem segments_points : Points (segments expr n) :=
  (subscript_points.orElse (segment_points inner true)).bind fun _ =>
    ((subsequent_points inner true).many n).bind fun _ => .pure _

theorem postfixed_points : Points (postfixed expr n) := by
  have parens : Points (parenthesized expr) := (Points.char _).bind fun _ =>
    .commit ((padded_points inner).bind fun _ => (Points.char _).bind fun _ => .pure _)
  have list : Points (listLiteral expr n) := .within _ ((Points.char _).bind fun _ =>
    (itemList_points inner _ n).bind fun _ => .pure _)
  have primary : Points (primary expr n) := parens.orElse (literal_points.orElse (list.orElse
    (binder_points.bind fun _ => .pure _)))
  exact primary.bind fun _ => ((subsequent_points inner false).many n).bind fun _ => .pure _

theorem unary_points (depth : Nat) : Points (unary expr n depth) := by
  have alone : Points (postfixed expr n) := postfixed_points inner
  induction depth with
  | zero => exact alone
  | succ depth ih =>
    have sign : Points prefixOperator := ((Points.char _).bind fun _ =>
      (Points.char _).notAhead.bind fun _ => .pure _).orElse ((Points.char _).bind fun _ => .pure _)
    exact (sign.bind fun _ => Points.blanks.bind fun _ => ih.commit.bind fun _ => .pure _).orElse
      alone

theorem disjunction_points : Points (disjunction expr n) := by
  have products : Points multiplicativeOperator := ((Points.word _).bind fun _ =>
    (Points.char _).notAhead.bind fun _ => .pure _).orElse ((operatorWord_points _ _).orElse
      (operatorWord_points _ _))
  have sums : Points additiveOperator := (operatorWord_points _ _).orElse ((Points.word _).bind
    fun _ => (Points.char _).notAhead.bind fun _ => .pure _)
  have relations : Points relationalOperator := (operatorWord_points _ _).orElse
    ((operatorWord_points _ _).orElse ((operatorWord_points _ _).orElse
      ((operatorWord_points _ _).orElse ((keyword_points _).bind fun _ => .pure _))))
  have equalities : Points equalityOperator := (operatorWord_points _ _).orElse
    ((operatorWord_points _ _).orElse ((operatorWord_points _ _).orElse (operatorWord_points _ _)))
  have operands : Points (multiplicative expr n) :=
    leftOperators_points products (unary_points inner n) n
  exact leftOperators_points (operatorWord_points _ _) (leftOperators_points
    (operatorWord_points _ _) (leftOperators_points equalities (leftOperators_points relations
      (leftOperators_points sums operands n) n) n) n) n

theorem expressionWith_points : Points (expressionWith expr n) := by
  have choice : Points (choice expr) := Points.blanks.bind fun _ => .orElse
    ((Points.word _).bind fun _ => Points.blanks.bind fun _ => inner.commit.bind fun _ => .pure _)
    ((Points.char _).bind fun _ => .commit (Points.blanks.bind fun _ => inner.bind fun _ =>
      Points.blanks.bind fun _ => (Points.char _).bind fun _ => Points.blanks.bind fun _ =>
        inner.bind fun _ => .pure _))
  exact (disjunction_points inner).bind fun _ => choice.optional.bind fun _ => .pure _

end

theorem expression_points (n : Nat) : Points (expression n) := by
  induction n with
  | zero => exact .fail rfl
  | succ n ih => exact expressionWith_points ih

theorem wholePath_points (n : Nat) : Points (wholePath n) := by
  have end_ : Points (do blanks; atEnd : Reader Unit) := Points.blanks.bind fun _ => .atEnd
  have root : Points root := ((Points.char _).bind fun _ => end_.ahead.bind fun _ => .pure _).orElse
    (Points.atEnd.bind fun _ => .pure _)
  have path : Points (path n) := root.orElse ((segments_points (expression_points n)).bind fun _ =>
    .pure _)
  exact (padded_points path).bind fun _ => Points.atEnd.bind fun _ => .pure _

end Reader
end DocPath
