import DocPath.Proofs.Path.Follow

/-!
The lists of written paths are read item by item: the items of list literals and calls, the
parameters and local definitions of closures. A closure is read when its parts are.
-/

namespace DocPath.Reader

variable {s t : List Char}

theorem name_skipBlanks {name : String} (h : isName name) (s : List Char) :
    skipBlanks (name.toList ++ s) = name.toList ++ s :=
  (ExprStart.operand (.word name [] (isName_iff.mp h).1 (.inl h) .nil)).head.elim
    fun c ⟨u, text, blank, _⟩ => by
      rw [List.append_nil] at text
      rw [text]
      exact skipBlanks_of_not_blank blank _

theorem comma_read (h : skipBlanks s = s) :
    padded (char ',') (',' :: ' ' :: s) = .done ',' s := by
  rw [padded, bind_done (blanks_apply _), skipBlanks_of_not_blank (by decide),
    bind_done (char_cons _ _), bind_done (blanks_apply _), skipBlanks_blank, h]
  rfl

theorem comma_misses (h : (skipBlanks s).head? ≠ some ',') : Misses (padded (char ',')) s :=
  .bind_after (blanks_apply s) (char_misses h).bind

/-- A reader of items reads every written item in a text that is short enough. -/
structure Settles (argument : Bool) (item : Reader Expr) (n : Nat) : Prop where
  reads : ∀ (e : Expr) (s : List Char), e.wellFormed argument → e.legible → Stop s →
    (e.written ++ s).length < n → item (e.written ++ s) = .done e s
  misses : ∀ (c : Char) (s : List Char), isCloser c → Misses item (c :: s)

namespace Settles

variable {a : Bool} {item : Reader Expr} {n : Nat} {close : Char}

theorem afterItem_read (h : Settles a item n) {es : List Expr} (formed : wellFormedItems a es)
    (legible : legibleItems es) (closer : isCloser close) (other : close ≠ ',') {m : Nat}
    (room : (afterItem es ++ close :: s).length ≤ m) (short : m ≤ n) :
    manyAfter (padded (char ',')) item m (afterItem es ++ close :: s) =
      .done es (close :: s) := by
  have solid := isCloser_not_blank closer
  induction es generalizing m with
  | nil =>
    refine many_none (comma_misses ?_).bind m
    rw [afterItem, List.nil_append, skipBlanks_of_not_blank solid]
    simpa using other
  | cons e es ih =>
    simp only [wellFormedItems, Bool.and_eq_true] at formed
    simp only [legibleItems, Bool.and_eq_true] at legible
    simp only [afterItem, List.cons_append, List.append_assoc, List.length_cons,
      List.length_append] at room ⊢
    obtain ⟨m, rfl⟩ : ∃ k, m = k + 1 := ⟨m - 1, by omega⟩
    have stop : Stop (afterItem es ++ close :: s) := by
      cases es with
      | nil => exact .closer closer s
      | cons f fs => exact .closer (by decide) _
    have rest : (afterItem es ++ close :: s).length ≤ m := by
      simp only [List.length_append, List.length_cons]
      omega
    have first : (padded (char ',') >>= fun _ => item)
        (',' :: ' ' :: (e.written ++ (afterItem es ++ close :: s))) =
          .done e (afterItem es ++ close :: s) := by
      rw [bind_done (comma_read (expr_skipBlanks formed.1 legible.1 _))]
      refine h.reads e _ formed.1 legible.1 stop ?_
      simp only [List.length_append, List.length_cons]
      omega
    exact many_cons first (ih formed.2 legible.2 rest (by omega))

theorem items_read (h : Settles a item n) {es : List Expr} (formed : wellFormedItems a es)
    (legible : legibleItems es) (closer : isCloser close) (other : close ≠ ',')
    (short : (writtenItems es ++ close :: s).length < n) :
    itemList close item n (writtenItems es ++ close :: s) = .done es s := by
  have solid := isCloser_not_blank closer
  have items : separated (padded (char ',')) item n (writtenItems es ++ close :: s) =
      .done es (close :: s) := by
    cases es with
    | nil => exact separated_none (h.misses close s closer) n
    | cons e es =>
      simp only [wellFormedItems, Bool.and_eq_true] at formed
      simp only [legibleItems, Bool.and_eq_true] at legible
      rw [writtenItems_cons, List.append_assoc] at short ⊢
      have stop : Stop (afterItem es ++ close :: s) := by
        cases es with
        | nil => exact .closer closer s
        | cons f fs => exact .closer (by decide) _
      refine separated_cons (h.reads e _ formed.1 legible.1 stop short)
        (h.afterItem_read formed.2 legible.2 closer other ?_ (Nat.le_refl n))
      simp only [List.length_append, List.length_cons] at short ⊢
      omega
  have start : skipBlanks (writtenItems es ++ close :: s) = writtenItems es ++ close :: s := by
    cases es with
    | nil => exact skipBlanks_of_not_blank solid s
    | cons e es =>
      simp only [wellFormedItems, Bool.and_eq_true] at formed
      simp only [legibleItems, Bool.and_eq_true] at legible
      rw [writtenItems_cons, List.append_assoc]
      exact expr_skipBlanks formed.1 legible.1 _
  have all : padded (separated (padded (char ',')) item n) (writtenItems es ++ close :: s) =
      .done es (close :: s) := by
    rw [padded, bind_done (blanks_apply _), start, bind_done items, bind_done (blanks_apply _),
      skipBlanks_of_not_blank solid]
    rfl
  refine commit_done ?_
  rw [bind_done all, bind_done (char_cons _ _)]
  rfl

end Settles

def afterName : List String → List Char
  | [] => []
  | name :: names => ',' :: ' ' :: (name.toList ++ afterName names)

theorem intercalate_names (name : String) (names : List String) :
    (", ".intercalate (name :: names)).toList = name.toList ++ afterName names := by
  induction names generalizing name with
  | nil => rw [String.intercalate_singleton, afterName, List.append_nil]
  | cons next names ih =>
    rw [String.intercalate_cons_cons, String.toList_append, String.toList_append, ih,
      List.append_assoc]
    rfl

theorem afterName_read {names : List String} (all : names.all isName) {n : Nat}
    (room : names.length ≤ n) :
    manyAfter (padded (char ',')) binder n (afterName names ++ ' ' :: '-' :: '>' :: s) =
      .done names (' ' :: '-' :: '>' :: s) := by
  induction names generalizing n with
  | nil =>
    refine many_none (comma_misses ?_).bind n
    rw [afterName, List.nil_append, skipBlanks_blank, skipBlanks_of_not_blank (by decide)]
    simp
  | cons name names ih =>
    rw [List.all_cons, Bool.and_eq_true] at all
    simp only [List.length_cons] at room
    obtain ⟨n, rfl⟩ : ∃ k, n = k + 1 := ⟨n - 1, by omega⟩
    simp only [afterName, List.cons_append, List.append_assoc]
    have stop : Ends isIdentChar (afterName names ++ ' ' :: '-' :: '>' :: s) := by
      cases names with
      | nil => exact .cons (by decide) _
      | cons next names => exact .cons (by decide) _
    have first : (padded (char ',') >>= fun _ => binder)
        (',' :: ' ' :: (name.toList ++ (afterName names ++ ' ' :: '-' :: '>' :: s))) =
          .done name (afterName names ++ ' ' :: '-' :: '>' :: s) := by
      rw [bind_done (comma_read (name_skipBlanks all.1 _)), binder_append all.1 stop]
    exact many_cons first (ih all.2 (by omega))

theorem parameters_read {name : String} {names : List String} (all : (name :: names).all isName)
    {n : Nat} (room : names.length ≤ n) :
    parameters n ((", ".intercalate (name :: names) ++ " -> ").toList ++ s) =
      .done (name :: names) (' ' :: s) := by
  rw [List.all_cons, Bool.and_eq_true] at all
  have text : (", ".intercalate (name :: names) ++ " -> ").toList ++ s =
      name.toList ++ (afterName names ++ ' ' :: '-' :: '>' :: ' ' :: s) := by
    rw [String.toList_append, intercalate_names, List.append_assoc, List.append_assoc]
    rfl
  have stop : Ends isIdentChar (afterName names ++ ' ' :: '-' :: '>' :: ' ' :: s) := by
    cases names with
    | nil => exact .cons (by decide) _
    | cons next names => exact .cons (by decide) _
  have arrow : word "->" ('-' :: '>' :: ' ' :: s) = .done () (' ' :: s) := word_append "->" _
  rw [text, parameters, bind_done (separated_cons (binder_append all.1 stop)
    (afterName_read all.2 room)), bind_done (blanks_apply _), skipBlanks_blank,
    skipBlanks_of_not_blank (by decide), bind_done arrow]
  rfl

theorem blanks1_read (h : skipBlanks s = s) : blanks1 (' ' :: s) = .done () s := by
  have some : isBlank ' ' = true := by decide
  simp only [blanks1, some, if_true]
  exact congrArg (Outcome.done ()) ((skipBlanks_blank s).trans h)

theorem writtenLocals_skipBlanks (locals : List (String × Expr)) (h : skipBlanks s = s) :
    skipBlanks (writtenLocals locals ++ s) = writtenLocals locals ++ s := by
  cases locals with
  | nil => exact h
  | cons l ls =>
    obtain ⟨name, e⟩ := l
    simp only [writtenLocals, List.cons_append]
    exact skipBlanks_of_not_blank (by decide) _

def paramText (params : List String) : List Char :=
  if params.isEmpty then [] else (", ".intercalate params ++ " -> ").toList

theorem length_paramText (params : List String) : params.length ≤ (paramText params).length := by
  cases params with
  | nil => exact Nat.zero_le _
  | cons name names =>
    have after : names.length ≤ (afterName names).length := by
      induction names with
      | nil => exact Nat.zero_le _
      | cons next names ih =>
        simp only [afterName, List.length_cons, List.length_append]
        omega
    have text : paramText (name :: names) =
        name.toList ++ afterName names ++ " -> ".toList := by
      rw [← intercalate_names, ← String.toList_append]
      rfl
    have arrow : " -> ".toList.length = 4 := rfl
    rw [text, List.length_append, List.length_append, arrow, List.length_cons]
    omega

theorem declared_read {params : List String} (named : params.all isName)
    {locals : List (String × Expr)} (start : ExprStart s) {n : Nat} (room : params.length ≤ n) :
    optional (do
      let names ← parameters n
      blanks
      pure names) (paramText params ++ (writtenLocals locals ++ s)) =
      .done (if params.isEmpty then none else some params) (writtenLocals locals ++ s) := by
  have inner := writtenLocals_skipBlanks locals start.skipBlanks
  cases params with
  | nil =>
    refine optional_none (Misses.bind ?_)
    cases locals with
    | nil => exact parameters_misses start n
    | cons l ls =>
      obtain ⟨name, e⟩ := l
      have taken : Misses binder (writtenLocals ((name, e) :: ls) ++ s) := by
        simp only [writtenLocals, List.cons_append]
        exact binder_reserved "def" (by decide) (by decide) (.cons (by decide) _)
      refine .bind_after (separated_none taken n) (.bind_after (blanks_apply _) ?_)
      rw [inner]
      refine (word_misses ?_).bind
      simp only [writtenLocals, List.cons_append]
      rintro ⟨t, text⟩
      cases text
  | cons name names =>
    simp only [List.length_cons] at room
    refine optional_done ?_
    have text : paramText (name :: names) = (", ".intercalate (name :: names) ++ " -> ").toList :=
      rfl
    rw [text, bind_done (parameters_read named (by omega)), bind_done (blanks_apply _),
      skipBlanks_blank, inner]
    rfl

theorem paramText_skipBlanks {params : List String} (named : params.all isName)
    (h : skipBlanks s = s) : skipBlanks (paramText params ++ s) = paramText params ++ s := by
  cases params with
  | nil => exact h
  | cons name names =>
    rw [List.all_cons, Bool.and_eq_true] at named
    have text : paramText (name :: names) = name.toList ++ (afterName names ++ " -> ".toList) := by
      rw [← List.append_assoc, ← intercalate_names, ← String.toList_append]
      rfl
    rw [text, List.append_assoc]
    exact name_skipBlanks named.1 _

namespace Settles

variable {expr : Reader Expr} {n : Nat}

theorem localDefinition_read (h : Settles false expr n) {name : String} {e : Expr}
    (named : isName name) (formed : e.wellFormed false) (legible : e.legible)
    (short : (e.written ++ ';' :: s).length < n) :
    localDefinition expr ('d' :: 'e' :: 'f' :: ' ' :: (name.toList ++ ' ' :: '=' :: ' ' ::
      (e.written ++ ';' :: s))) = .done (name, e) s := by
  have start := name_skipBlanks named (' ' :: '=' :: ' ' :: (e.written ++ ';' :: s))
  have closer : isCloser ';' := by decide
  have lead : keyword "def" ('d' :: 'e' :: 'f' :: ' ' :: (name.toList ++ ' ' :: '=' :: ' ' ::
      (e.written ++ ';' :: s))) =
      .done () (' ' :: (name.toList ++ ' ' :: '=' :: ' ' :: (e.written ++ ';' :: s))) :=
    keyword_append "def" (.cons (by decide) _)
  rw [localDefinition, bind_done lead, bind_done (blanks1_read start),
    bind_done (commit_done (binder_append named (.cons (by decide) _))),
    bind_done (blanks_apply _), skipBlanks_blank, skipBlanks_of_not_blank (by decide),
    bind_done (commit_done (char_cons _ _)), bind_done (blanks_apply _), skipBlanks_blank,
    expr_skipBlanks formed legible,
    bind_done (commit_done (h.reads e _ formed legible (.closer closer s) short)),
    bind_done (blanks_apply _), skipBlanks_of_not_blank (by decide),
    bind_done (optional_done (char_cons _ _))]
  rfl

theorem locals_read (h : Settles false expr n) {locals : List (String × Expr)}
    (formed : wellFormedLocals locals) (legible : legibleLocals locals) (start : ExprStart s)
    {m : Nat} (room : (writtenLocals locals ++ s).length ≤ m) (short : m ≤ n) :
    many (do
      let l ← localDefinition expr
      blanks
      pure l) m (writtenLocals locals ++ s) = .done locals s := by
  induction locals generalizing m with
  | nil =>
    refine many_none ?_ m
    exact (keyword_misses_expr (by decide) (by decide) (by decide) start).bind.bind
  | cons l ls ih =>
    obtain ⟨name, e⟩ := l
    simp only [wellFormedLocals, Bool.and_eq_true] at formed
    simp only [legibleLocals, Bool.and_eq_true] at legible
    simp only [writtenLocals, List.cons_append, List.append_assoc, List.length_cons,
      List.length_append] at room ⊢
    obtain ⟨m, rfl⟩ : ∃ k, m = k + 1 := ⟨m - 1, by omega⟩
    have rest : (writtenLocals ls ++ s).length ≤ m := by
      simp only [List.length_append]
      omega
    refine many_cons (a := (name, e)) ?_ (ih formed.2 legible.2 rest (by omega))
    rw [bind_done (h.localDefinition_read formed.1.1 formed.1.2 legible.1 (by
        simp only [List.length_append, List.length_cons]
        omega)),
      bind_done (blanks_apply _), skipBlanks_blank, writtenLocals_skipBlanks _ start.skipBlanks]
    rfl

theorem closure_read (h : Settles false expr n) {c : Closure} (formed : c.wellFormed)
    (legible : c.legible) (short : (c.written ++ s).length ≤ n) :
    closure expr n (c.written ++ s) = .done c s := by
  obtain ⟨params, locals, body⟩ := c
  simp only [Closure.wellFormed, Bool.and_eq_true] at formed
  simp only [Closure.legible, Bool.and_eq_true] at legible
  obtain ⟨⟨named, formedLocals⟩, formedBody⟩ := formed
  have text : (Closure.mk params locals body).written ++ s = '{' :: ' ' :: (paramText params ++
      (writtenLocals locals ++ (body.written ++ ' ' :: '}' :: s))) := by
    simp only [Closure.written, paramText, List.cons_append, List.append_assoc, List.nil_append]
  rw [text] at short ⊢
  simp only [List.length_cons, List.length_append] at short
  have count := length_paramText params
  have stop : Stop (' ' :: '}' :: s) := .blank (.closer (by decide) s)
  have start : ExprStart (body.written ++ ' ' :: '}' :: s) :=
    expr_start formedBody legible.2 (AfterWord.brace s)
  have opening := paramText_skipBlanks named
    (writtenLocals_skipBlanks locals start.skipBlanks)
  have shown : (if params.isEmpty then none else some params).getD [] = params := by
    cases params <;> rfl
  refine within_done _ ?_
  rw [bind_done (char_cons _ _), bind_done (blanks_apply _), skipBlanks_blank, opening]
  refine commit_done ?_
  rw [closureBody, bind_done (declared_read named start (by omega)),
    bind_done (h.locals_read formedLocals legible.1 start (m := n) (by
      simp only [List.length_append, List.length_cons]
      omega) (Nat.le_refl n)),
    bind_done (optional_none
      (keyword_misses_expr (by decide) (by decide) (by decide) start).bind),
    bind_done (h.reads body _ formedBody legible.2 stop (by
      simp only [List.length_append, List.length_cons]
      omega)),
    bind_done (blanks_apply _), skipBlanks_blank, skipBlanks_of_not_blank (by decide),
    bind_done (optional_none (char_misses (by simp))), bind_done (blanks_apply _),
    skipBlanks_of_not_blank (by decide), bind_done (char_cons _ _), shown]
  rfl

end Settles

end DocPath.Reader
