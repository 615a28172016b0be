import DocPath.Proofs.Path.Joined
import DocPath.Proofs.Path.Reading
import Mathlib.Data.List.Forall2

/-!
Closures behind calls. A closure is the last argument of a call whether it stands in the parentheses
or behind them, or alone behind the name.
-/

namespace DocPath

open Reader

namespace Reader

def IsArgument (a : String) (e : Expr) : Prop :=
  argument (expression (a.toList.length + 1)) (a.toList.length + 1) a.toList = .done e []

def IsClosure (c : String) (k : Closure) : Prop :=
  closure (expression (c.toList.length + 1)) (c.toList.length + 1) c.toList = .done k []

variable {n : Nat} {s t : List Char}

theorem argument_advances (n : Nat) : Advances (argument (expression n) n) := by
  have none : Mirrors Closed Closed 0 (expression n) (expression n) :=
    .none (expression_advances n).any
  exact ((closure_encloses (Nat.zero_le n) (Nat.zero_le n) none).advances.bind fun _ =>
    (Takes.pure _).any).orElse (expression_advances n)

namespace IsArgument

variable {a : String} {e : Expr}

theorem read (h : IsArgument a e) (short : a.toList.length < n) (closed : Closed t) :
    argument (expression n) n (a.toList ++ t) = .done e t := by
  have inner := expression_mirrors (Nat.le_refl (a.toList.length + 1)) short
  refine (argument_mirrors (Nat.le_refl _) short inner).done (c := a.toList) (r := []) (t := [])
    (fun c head => by cases head) closed (Nat.lt_succ_self _) ?_
  rw [List.append_nil]
  exact h

theorem solid (h : IsArgument a e) (t : List Char) :
    skipBlanks (a.toList ++ t) = a.toList ++ t := by
  unfold IsArgument at h
  cases chars : a.toList with
  | nil =>
    rw [chars] at h
    obtain ⟨d, none, full⟩ := argument_advances _ _ _ _ h
    exact absurd (List.append_eq_nil_iff.mp none.symm).1 full
  | cons x d =>
    rw [chars] at h
    refine skipBlanks_of_not_blank ?_ _
    cases blank : isBlank x with
    | false => rfl
    | true =>
      have sign : isOperandHead x = false ∧ x ∉ ['"', '!', '-'] ∧ x ≠ '{' := by
        refine isBlank_cases (p := fun x => isOperandHead x = false ∧ x ∉ ['"', '!', '-'] ∧ x ≠ '{')
          blank ?_ ?_ ?_ ?_ <;> decide
      have misses (n : Nat) : Misses (argument (expression (n + 1)) (n + 1)) (x :: d) :=
        .orElse (closure_misses (by simpa using sign.2.2)).bind
          (expressionWith_misses_sign sign.1 sign.2.1 d)
      obtain ⟨f, missed⟩ := misses _
      rw [missed] at h
      cases h

end IsArgument

namespace IsClosure

variable {c : String} {k : Closure}

theorem read (h : IsClosure c k) (short : c.toList.length < n) (t : List Char) :
    closure (expression n) n (c.toList ++ t) = .done k t := by
  have inner := expression_mirrors (k := c.toList.length) (Nat.le_succ _) (Nat.le_of_lt short)
  refine (closure_encloses (Nat.le_succ _) (Nat.le_of_lt short) inner).carries.done
    (L := fun _ => True) (R := fun _ => True) (c := c.toList) (r := []) (t := []) trivial trivial
    (Nat.lt_succ_self _) ?_
  rw [List.append_nil]
  exact h

theorem brace (h : IsClosure c k) : ∃ d, c.toList = '{' :: d := by
  refine List.head?_eq_some_iff.mp (by_contra fun other => ?_)
  have misses (expr : Reader Expr) (n : Nat) : Misses (closure expr n) c.toList :=
    closure_misses other
  obtain ⟨f, missed⟩ := misses (expression _) _
  rw [IsClosure, missed] at h
  cases h

theorem argument (h : IsClosure c k) : IsArgument c (.closure k) := orElse_done (bind_done h)

theorem behind_blank (h : IsClosure c k) (t : List Char) :
    skipBlanks (' ' :: (c.toList ++ t)) = c.toList ++ t := by
  rw [skipBlanks_blank, h.argument.solid]

end IsClosure

theorem isArgument_written {a : String} {e : Expr} (formed : e.wellFormed true)
    (legible : e.legible) (text : a.toList = e.written) : IsArgument a e := by
  have stop : Stop [] := fun c head => by cases head
  have read := (expression_settles (a.toList.length + 1)).argument.reads e [] formed legible stop
    (by rw [List.append_nil, text]; exact Nat.lt_succ_self _)
  rw [List.append_nil, ← text] at read
  exact read

theorem isClosure_written {c : String} {k : Closure} (formed : k.wellFormed) (legible : k.legible)
    (text : c.toList = k.written) : IsClosure c k := by
  have read := (expression_settles (c.toList.length + 1)).closure_read (s := []) formed legible
    (by rw [List.append_nil, text]; exact Nat.le_succ _)
  rw [List.append_nil, ← text] at read
  exact read

theorem closed_comma (s : List Char) : Closed (',' :: s) := by
  intro c head
  cases head
  decide

theorem closed_paren (s : List Char) : Closed (')' :: s) := by
  intro c head
  cases head
  decide

theorem afterName_closed (names : List String) (s : List Char) :
    Closed (afterName names ++ ')' :: s) := by
  cases names with
  | nil => exact closed_paren s
  | cons name names => exact closed_comma _

section
variable {texts : List String} {args : List Expr}

theorem afterArguments_read (h : List.Forall₂ IsArgument texts args) {m : Nat}
    (room : (afterName texts).length ≤ m) (short : (afterName texts).length < n) :
    manyAfter (padded (char ',')) (argument (expression n) n) m (afterName texts ++ ')' :: s) =
      .done args (')' :: s) := by
  induction h generalizing m with
  | nil =>
    refine many_none (comma_misses ?_).bind m
    rw [afterName, List.nil_append, skipBlanks_of_not_blank (by decide)]
    simp
  | @cons a e texts args first rest ih =>
    simp only [afterName, List.length_cons, List.length_append] at room short
    obtain ⟨m, rfl⟩ : ∃ k, m = k + 1 := ⟨m - 1, by omega⟩
    simp only [afterName, List.cons_append, List.append_assoc]
    refine many_cons (a := e) (t := afterName texts ++ ')' :: s) ?_ (ih (by omega) (by omega))
    exact (bind_done (comma_read (first.solid _))).trans
      (first.read (by omega) (afterName_closed texts s))

theorem parenthesizedArguments_read (h : List.Forall₂ IsArgument texts args)
    (short : (", ".intercalate texts).toList.length < n) :
    parenthesizedArguments (expression n) n ('(' :: ((", ".intercalate texts).toList ++ ')' :: s)) =
      .done args s := by
  have close : skipBlanks (')' :: s) = ')' :: s := skipBlanks_of_not_blank (by decide) s
  have items : skipBlanks ((", ".intercalate texts).toList ++ ')' :: s) =
        (", ".intercalate texts).toList ++ ')' :: s ∧
      separated (padded (char ',')) (argument (expression n) n) n
        ((", ".intercalate texts).toList ++ ')' :: s) = .done args (')' :: s) := by
    cases h with
    | nil => exact ⟨close, separated_none ((expression_settles n).argument.misses ')' s rfl) n⟩
    | @cons a e texts args first rest =>
      rw [intercalate_names, List.length_append] at short
      rw [intercalate_names, List.append_assoc]
      exact ⟨first.solid _, separated_cons (first.read (by omega) (afterName_closed texts s))
        (afterArguments_read rest (by omega) (by omega))⟩
  refine within_done _ ((bind_done (char_cons _ _)).trans (commit_done ?_))
  have padded : padded (separated (padded (char ',')) (argument (expression n) n) n)
      ((", ".intercalate texts).toList ++ ')' :: s) = .done args (')' :: s) := by
    rw [padded, bind_done (blanks_apply _), items.1, bind_done items.2, bind_done (blanks_apply _),
      close]
    rfl
  rw [bind_done padded, bind_done (char_cons _ _)]
  rfl

end

/-- A text behind the name of a method that is read as the arguments of the call. -/
structure ArgumentText (s : List Char) (args : List Expr) : Prop where
  ends : ∀ t, Ends isIdentChar (s ++ t)
  opens : ∀ t, ∃ r, callStart (s ++ t) = .done () r
  read : ∀ {n t}, s.length < n → NoClosure t →
    callArguments (expression n) n (s ++ t) = .done args t

theorem callStart_paren (t : List Char) : callStart ('(' :: t) = .done () t :=
  orElse_done (bind_done (char_cons _ _))

theorem callStart_brace {d : List Char} (brace : skipBlanks s = '{' :: d)
    (other : s.head? ≠ some '(') : callStart s = .done () d := by
  refine (orElse_next (char_misses other).bind).trans ?_
  rw [bind_done (blanks_apply _), brace, bind_done (char_cons _ _)]
  rfl

namespace ArgumentText

variable {texts : List String} {args : List Expr} {c : String} {k : Closure}

theorem inside (h : List.Forall₂ IsArgument texts args) :
    ArgumentText ('(' :: ((", ".intercalate texts).toList ++ [')'])) args where
  ends t := .cons (by decide) _
  opens t := ⟨_, callStart_paren _⟩
  read := by
    intro n t short none
    rw [List.length_cons, List.length_append] at short
    have parens := parenthesizedArguments_read (s := t) h (n := n) (by omega)
    have trailing : Misses (do blanks; closure (expression n) n) t :=
      .bind_after (blanks_apply t) (closure_misses none)
    rw [List.cons_append, List.append_assoc, List.singleton_append]
    refine orElse_done ?_
    rw [bind_done parens, bind_done (optional_none trailing)]
    exact congrArg (Outcome.done · t) (List.append_nil args)

theorem behind (h : List.Forall₂ IsArgument texts args) (closure : IsClosure c k) :
    ArgumentText ('(' :: ((", ".intercalate texts).toList ++ ')' :: ' ' :: c.toList))
      (args ++ [.closure k]) where
  ends t := .cons (by decide) _
  opens t := ⟨_, callStart_paren _⟩
  read := by
    intro n t short none
    simp only [List.length_cons, List.length_append] at short
    have parens := parenthesizedArguments_read (s := ' ' :: (c.toList ++ t)) h (n := n) (by omega)
    have trailing : (do blanks; Reader.closure (expression n) n) (' ' :: (c.toList ++ t)) =
        .done k t := by
      rw [bind_done (blanks_apply _), closure.behind_blank]
      exact closure.read (by omega) t
    simp only [List.cons_append, List.append_assoc]
    refine orElse_done ?_
    rw [bind_done parens, bind_done (optional_done trailing)]
    rfl

theorem alone (closure : IsClosure c k) : ArgumentText (' ' :: c.toList) [.closure k] := by
  obtain ⟨d, brace⟩ := closure.brace
  refine ⟨fun t => .cons (by decide) _, fun t => ⟨d ++ t, callStart_brace ?_ (by simp)⟩,
    fun {n t} short none => ?_⟩
  · rw [List.cons_append, closure.behind_blank, brace]
    rfl
  · rw [List.length_cons] at short
    have noParen : Misses (parenthesizedArguments (expression n) n) (' ' :: (c.toList ++ t)) :=
      (parenthesizedArguments_opens _).mpr (by simp)
    refine (orElse_next noParen.bind).trans ?_
    rw [bind_done (blanks_apply _), closure.behind_blank, bind_done (closure.read (by omega) t)]
    rfl

variable {name : String} (h : ArgumentText s args) (known : isKnownCall name args.length)
include h known

theorem methodName_read (t : List Char) :
    methodName (name.toList ++ (s ++ t)) = .done name (s ++ t) := by
  obtain ⟨m, -, -, word⟩ := isKnownCall_parts known
  obtain ⟨r, start⟩ := h.opens t
  have next : ahead callStart (s ++ t) = .done () (s ++ t) := ahead_done start
  exact (bind_done (identifier_append word (h.ends t))).trans (bind_done next)

theorem segment_read (short : s.length < n) (none : NoClosure t) (hyphens : Bool) :
    segment (expression n) n hyphens (name.toList ++ (s ++ t)) = .done (.call name args) t := by
  obtain ⟨m, -, -, letters⟩ := isKnownCall_parts known
  rw [segment_unstarred hyphens (isIdentifier_head letters (by decide) _)]
  exact orElse_done (call_done known (h.methodName_read known t) (h.read short none))

theorem readChars : Path.readChars (name.toList ++ s) = .ok ⟨[.call name args]⟩ := by
  obtain ⟨m, -, -, letters⟩ := isKnownCall_parts known
  obtain ⟨x, xs, chars, first, -⟩ := isIdentifier_parts letters
  have ink : isSpace x = false := isSpace_of_isIdentChar (isIdentChar_of_isIdentStart first)
  have none : NoClosure [] := Loose.nil.closure
  have size : s.length < (name.toList ++ s).length + 1 := by
    rw [List.length_append]
    omega
  have last : Finishes s := by
    have read := h.read (Nat.lt_succ_self _) none
    rw [List.append_nil] at read
    obtain ⟨d, text, finishes⟩ := callArguments_finishes (expression_advances _) _ _ _ read
    rw [List.append_nil] at text
    exact text ▸ finishes
  have call := h.segment_read known size none true
  rw [List.append_nil] at call
  have bracket : (name.toList ++ s).head? ≠ some '[' := isIdentifier_head letters (by decide) _
  refine Path.readChars_segments (chars ▸ ⟨x, xs, rfl, ink⟩) last ?_
  rw [segments, bind_done ((orElse_next ((subscript_opens _).mpr bracket)).trans call),
    bind_done (many_none (subsequent_misses Loose.nil true) _)]
  rfl

theorem body_read (short : ("it".toList ++ '.' :: (name.toList ++ (s ++ t))).length < n)
    (stop : Stop t) : expression n ("it".toList ++ '.' :: (name.toList ++ (s ++ t))) =
      .done (.path (.ident "it") [.call name args]) t := by
  obtain ⟨m, rfl⟩ : ∃ m, n = m + 1 := ⟨n - 1, by omega⟩
  simp only [List.length_append, List.length_cons] at short
  obtain ⟨j, rfl⟩ : ∃ j, m = j + 1 := ⟨m - 1, by omega⟩
  have base : primary (expression (j + 1)) (j + 1)
      ("it".toList ++ '.' :: (name.toList ++ (s ++ t))) =
        .done (.ident "it") ('.' :: (name.toList ++ (s ++ t))) := by
    refine atomic_read (expression_settles _) (e := .ident "it") rfl (by decide) rfl
      (.cons (by decide) _) (fun whole => by cases whole) ?_
    simp only [Expr.written, List.length_append, List.length_cons]
    omega
  have call := subsequent_point
    (h.segment_read known (n := j + 1) (by omega) stop.loose.closure false)
  have links := many_cons call (many_none (subsequent_misses stop.loose false) j)
  have operand : postfixed (expression (j + 1)) (j + 1)
      ("it".toList ++ '.' :: (name.toList ++ (s ++ t))) =
        .done (.path (.ident "it") [.call name args]) t := by
    rw [postfixed, bind_done base, bind_done links]
    rfl
  have unary : unary (expression (j + 1)) (j + 1) (j + 1)
      ("it".toList ++ '.' :: (name.toList ++ (s ++ t))) =
        .done (.path (.ident "it") [.call name args]) t :=
    (orElse_next (prefix_misses (by decide) _).bind).trans operand
  exact expressionWith_plain unary stop

theorem closure_read
    (short : ("it".toList ++ '.' :: (name.toList ++ (s ++ ' ' :: '}' :: t))).length < n) :
    closure (expression n) n
        ('{' :: ' ' :: ("it".toList ++ '.' :: (name.toList ++ (s ++ ' ' :: '}' :: t)))) =
      .done (.mk [] [] (.path (.ident "it") [.call name args])) t := by
  have stop : Stop (' ' :: '}' :: t) := .blank (.closer (by decide) t)
  have start : ExprStart ("it".toList ++ '.' :: (name.toList ++ (s ++ ' ' :: '}' :: t))) :=
    .operand (.word "it" _ (by decide) (.inl (by decide)) (.joint (by decide) _))
  have body := h.body_read known short stop
  refine within_done _ ?_
  rw [bind_done (char_cons _ _), bind_done (blanks_apply _), skipBlanks_blank, start.skipBlanks]
  refine commit_done ?_
  have undefined : Misses (localDefinition (expression n))
      ("it".toList ++ '.' :: (name.toList ++ (s ++ ' ' :: '}' :: t))) :=
    (keyword_misses_expr (by decide) (by decide) (by decide) start).bind
  have unmarked : Misses (do keyword "return"; blanks1)
      ("it".toList ++ '.' :: (name.toList ++ (s ++ ' ' :: '}' :: t))) :=
    (keyword_misses_expr (by decide) (by decide) (by decide) start).bind
  rw [closureBody, bind_done (optional_none (parameters_misses start n).bind),
    bind_done (many_none undefined.bind n), bind_done (optional_none unmarked), bind_done body,
    bind_done (blanks_apply _), skipBlanks_blank, skipBlanks_of_not_blank (by decide),
    bind_done (optional_none (char_misses (by simp))),
    bind_done (blanks_apply _), skipBlanks_of_not_blank (by decide), bind_done (char_cons _ _)]
  rfl

end ArgumentText

end Reader

/-- The texts of a call of a method with other arguments and a closure: the closure stands behind
them in the parentheses, behind the parentheses, or alone. -/
inductive CallText (name c : String) : List String → String → Prop where
  | inside (texts : List String) :
    CallText name c texts (name ++ "(" ++ ", ".intercalate (texts ++ [c]) ++ ")")
  | behind (texts : List String) :
    CallText name c texts (name ++ "(" ++ ", ".intercalate texts ++ ") " ++ c)
  | alone : CallText name c [] (name ++ " " ++ c)

variable {name c text : String} {m : Method} {texts : List String} {args : List Expr} {k : Closure}

theorem CallText.split (h : CallText name c texts text)
    (arguments : List.Forall₂ IsArgument texts args) (closure : IsClosure c k) :
    ∃ s, text.toList = name.toList ++ s ∧ ArgumentText s (args ++ [.closure k]) := by
  cases h with
  | inside =>
    refine ⟨_, ?_, .inside (List.rel_append arguments (.cons closure.argument .nil))⟩
    simp only [String.toList_append, List.append_assoc]
    rfl
  | behind =>
    refine ⟨_, ?_, .behind arguments closure⟩
    simp only [String.toList_append, List.append_assoc]
    rfl
  | alone =>
    cases arguments
    refine ⟨_, ?_, .alone closure⟩
    simp only [String.toList_append, List.append_assoc]
    rfl

/-- A closure behind a call is the last argument of the call. Wherever the closure stands, the text
is one segment, in a path and in the expressions of closures, and it is read as the same call. -/
theorem trailing_closure_is_argument (named : Method.named? name = some m)
    (accepted : m.accepts (texts.length + 1)) (arguments : List.Forall₂ IsArgument texts args)
    (closure : IsClosure c k) (written : CallText name c texts text) :
    (∀ (hyphens : Bool) (n : Nat) (t : List Char), text.toList.length < n → NoClosure t →
      segment (expression n) n hyphens (text.toList ++ t) =
        .done (.call name (args ++ [.closure k])) t) ∧
    Path.read text = .ok ⟨[.call name (args ++ [.closure k])]⟩ ∧
    IsClosure ("\x7b it." ++ text ++ " \x7d")
      (.mk [] [] (.path (.ident "it") [.call name (args ++ [.closure k])])) := by
  obtain ⟨s, chars, behind⟩ := written.split arguments closure
  have known : isKnownCall name (args ++ [Expr.closure k]).length := by
    rw [isKnownCall, named, List.length_append, ← arguments.length_eq]
    exact accepted
  refine ⟨fun hyphens n t short none => ?_, ?_, ?_⟩
  · rw [chars, List.length_append] at short
    rw [chars, List.append_assoc]
    exact behind.segment_read known (by omega) none hyphens
  · rw [Path.read, chars]
    exact behind.readChars known
  · have braces : ("\x7b it." ++ text ++ " \x7d").toList = '{' :: ' ' :: ("it".toList ++ '.' ::
        (name.toList ++ (s ++ ' ' :: '}' :: []))) := by
      simp only [String.toList_append, chars, List.append_assoc]
      rfl
    rw [IsClosure, braces]
    exact behind.closure_read known (by simp only [List.length_cons]; omega)

/-- A start and a closure, for a sum. -/
theorem trailing_closure_is_argument_sum :
    IsArgument "start" (.ident "start") ∧
    IsClosure "\x7b it.price \x7d" (.mk [] [] (.path (.ident "it") [.field "price"])) ∧
    Path.read "sum(start) \x7b it.price \x7d" = .ok ⟨[.call "sum" [.ident "start",
      .closure (.mk [] [] (.path (.ident "it") [.field "price"]))]]⟩ := by
  have first : IsArgument "start" (.ident "start") :=
    isArgument_written (by decide) (by decide) (by decide)
  have second : IsClosure "\x7b it.price \x7d"
      (.mk [] [] (.path (.ident "it") [.field "price"])) :=
    isClosure_written (by decide) (by decide) (by decide)
  have behind : CallText "sum" "\x7b it.price \x7d" ["start"] "sum(start) \x7b it.price \x7d" :=
    .behind ["start"]
  have known : Method.named? "sum" = some .sum := by decide
  have read := trailing_closure_is_argument known (by decide) (.cons first .nil) second behind
  exact ⟨first, second, read.2.1⟩

end DocPath
