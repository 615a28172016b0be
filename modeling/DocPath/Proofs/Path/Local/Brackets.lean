import DocPath.Proofs.Path.Follow
import DocPath.Proofs.Path.Source.Operators
import DocPath.Proofs.Reader.Lookahead

/-!
Parts of paths between brackets: what they hold is read alike whatever is behind the closing
bracket, if the expressions in them are.
-/

namespace DocPath.Reader

/-- Ends whose first character, if there is one, is one of some characters. -/
def Heads (cs : List Char) (t : List Char) : Prop := ∀ c, t.head? = some c → c ∈ cs

theorem apart_heads {cs : List Char} {g : Char → Bool} (none : cs.all fun c => !g c) :
    Apart g (Heads cs) := by
  intro t last c head
  simpa using List.all_eq_true.mp none c (last c head)

theorem clear_heads {cs : List Char} {g : Char → Bool} (none : cs.all fun c => !g c) :
    Clear g (Heads cs) (Heads cs) :=
  ⟨apart_heads none, apart_heads none⟩

/-- What closes an expression: a bracket or a comma, or the text ends. -/
abbrev Closed : List Char → Prop := Heads [')', ']', '}', ',']

theorem Starts.closed {x : Char} (bracket : x ∈ [')', ']', '}', ',']) (t : List Char)
    (last : Starts x t) : Closed t := by
  obtain ⟨u, rfl⟩ := last
  intro c head
  cases head
  exact bracket

section
variable {α : Type} {L R : List Char → Prop} {k n m : Nat} {p q : Reader α}

theorem padded_local (clear : Clear isBlank L R) (h : Local L R k p) : Local L R k (padded p) :=
  (Local.blanks clear).bind fun _ => h.bind fun _ => (Local.blanks clear).bind fun _ => .pure _

theorem padded_carries (right : Apart isBlank R) (h : Carries L R k p q) :
    Carries L R k (padded p) (padded q) :=
  (Carries.blanks right).bind fun _ => h.bind fun _ => (Carries.blanks right).bind fun _ => .pure _

theorem items_carries {x : Char} (bracket : x ∈ [')', ']', '}'])
    (item : Mirrors (Starts x) (Starts x) k p q) (some : Advances p) (first : k ≤ n)
    (second : k ≤ m) :
    Carries (Starts x) (Starts x) k (separated (padded (char ',')) p n)
      (separated (padded (char ',')) q m) := by
  have blank : isBlank x = false := by
    simp only [List.mem_cons, List.not_mem_nil, or_false] at bracket
    rcases bracket with rfl | rfl | rfl <;> decide
  have comma : decide (x = ',') = false := by
    simp only [List.mem_cons, List.not_mem_nil, or_false] at bracket
    rcases bracket with rfl | rfl | rfl <;> decide
  have separator : Local (Starts x) (Starts x) k (padded (char ',')) :=
    padded_local (clear_starts blank) (.char (clear_starts comma))
  exact .separated item (.many (separator.before fun _ => item)
    (.after separator.takes fun _ => some) first second)

end

section
variable {expr expr' : Reader Expr} {n m k : Nat}

theorem selector_carries : Carries (Starts ']') (Starts ']') k selector selector := by
  have number : Local (Starts ']') (Starts ']') k index := index_local (clear_starts (by decide))
  have blanks : Local (Starts ']') (Starts ']') k blanks := .blanks (clear_starts (by decide))
  have dots : Local (Starts ']') (Starts ']') k (word "..") :=
    .word (g := (· = '.')) (clear_starts (by decide)) (by decide)
  have less : Local (Starts ']') (Starts ']') k (optional (char '<')) :=
    .optional (.char (clear_starts (by decide)))
  have range : Mirrors (Starts ']') (Starts ']') k rangeSelector rangeSelector :=
    number.before fun _ => blanks.before fun _ => dots.before fun _ => less.before fun _ =>
      blanks.before fun _ => (Mirrors.commit number.toCarries).bind_sure
        ((Mirrors.commit number.toCarries).toCarries.bind fun _ => .pure _) fun _ => .pure _
  have quoted : Carries (Starts ']') (Starts ']') k stringLiteral stringLiteral :=
    (stringLiteral_mirrors (clear_starts (by decide))).toCarries
  exact .orElse range (.orElse (number.bind fun _ => .pure _).toMirrors
    (quoted.bind fun _ => .pure _))

theorem subscript_encloses : Encloses ']' k subscript subscript := by
  have blanks : Local (Starts ']') (Starts ']') k blanks := .blanks (clear_starts (by decide))
  refine .within _ (.bind (.satisfy _) fun _ => .bind blanks.toCarries fun _ => ?_)
  refine .bind (Mirrors.commit selector_carries).toCarries fun s => ?_
  exact .map (.commit (.bind blanks.toCarries fun _ => .close ())) _

theorem subscript_opens : Opens '[' subscript := by
  refine (Opens.bracket fun _ =>
    Sure.blanks.bind fun _ => (Sure.commit _).bind fun s => ?_).within _
  exact (Sure.commit _).bind fun _ => .pure (Segment.index s)

theorem parenthesized_opens : Opens '(' (parenthesized expr) := .bracket fun _ => .commit _

theorem listLiteral_opens : Opens '[' (listLiteral expr n) :=
  (Opens.bracket fun _ => (Sure.commit _).bind fun items => .pure (Expr.list items)).within _

theorem closure_opens : Opens '{' (closure expr n) :=
  (Opens.bracket fun _ => Sure.blanks.bind fun _ => .commit _).within _

theorem parenthesizedArguments_opens : Opens '(' (parenthesizedArguments expr n) :=
  (Opens.bracket fun _ => .commit _).within _

section
variable (inner : Mirrors Closed Closed k expr expr')
include inner

theorem carries_before {x : Char} (bracket : x ∈ [')', ']', '}', ',']) :
    Carries (Starts x) (Starts x) k expr expr' :=
  inner.toCarries.mono (Starts.closed bracket) (Starts.closed bracket) (Nat.le_refl k)

theorem parenthesized_encloses :
    Encloses ')' k (parenthesized expr) (parenthesized expr') :=
  .bind (.satisfy _) fun _ => .commit (.bind (padded_carries (clear_starts (by decide)).right
    (carries_before inner (by decide))) fun e => .close e)

end

section
variable (first : k ≤ n) (second : k ≤ m)
include first second

theorem itemList_encloses {item item' : Reader Expr} {x : Char} (bracket : x ∈ [')', ']', '}'])
    (items : Mirrors Closed Closed k item item') (some : Advances item) :
    Encloses x k (itemList x item n) (itemList x item' m) := by
  have closes : x ∈ [')', ']', '}', ','] := List.mem_append_left [','] bracket
  have blank : isBlank x = false := by
    simp only [List.mem_cons, List.not_mem_nil, or_false] at bracket
    rcases bracket with rfl | rfl | rfl <;> decide
  refine .commit (.bind (padded_carries (clear_starts blank).right ?_) fun items => .close items)
  exact items_carries bracket (items.mono (Starts.closed closes) (Starts.closed closes)
    (Nat.le_refl k)) some first second

theorem parameters_mirrors :
    Mirrors (Starts '}') (Starts '}') k (parameters n) (parameters m) := by
  have blanks : Local (Starts '}') (Starts '}') k blanks := .blanks (clear_starts (by decide))
  have name : Local (Starts '}') (Starts '}') k binder := binder_local (clear_starts (by decide))
  have comma : Local (Starts '}') (Starts '}') k (padded (char ',')) :=
    padded_local (clear_starts (by decide)) (.char (clear_starts (by decide)))
  have arrow : Local (Starts '}') (Starts '}') k (word "->") :=
    .word (g := fun c => c = '-' || c = '>') (clear_starts (by decide)) (by decide)
  have names : Mirrors (Starts '}') (Starts '}') k (separated (padded (char ',')) binder n)
      (separated (padded (char ',')) binder m) :=
    .of_sure
      (items_carries (by decide) name.toMirrors (firstAndRun_advances _ _).check first second)
      (.separated _ _ n)
  refine names.bind (.separated name.stays (.many (comma.stays.bind fun _ => name.stays) n))
    fun names => ?_
  exact (blanks.bind fun _ => arrow.bind fun _ => .pure names).toMirrors

variable (inner : Mirrors Closed Closed k expr expr')
include inner

theorem listLiteral_encloses (some : Advances expr) :
    Encloses ']' k (listLiteral expr n) (listLiteral expr' m) :=
  .within _ (.bind (.satisfy _) fun _ =>
    .map (itemList_encloses first second (by decide) inner some) _)

omit first second in
theorem definition_carries : Carries (Starts '}') (Starts '}') k
    (do
      let name ← commit binder
      blanks
      let _ ← commit (char '=')
      blanks
      let e ← commit expr
      blanks
      let _ ← optional (char ';')
      Reader.pure (name, e))
    (do
      let name ← commit binder
      blanks
      let _ ← commit (char '=')
      blanks
      let e ← commit expr'
      blanks
      let _ ← optional (char ';')
      Reader.pure (name, e)) := by
  have blanks : Local (Starts '}') (Starts '}') k blanks := .blanks (clear_starts (by decide))
  have name : Local (Starts '}') (Starts '}') k binder := binder_local (clear_starts (by decide))
  have sign : Local (Starts '}') (Starts '}') k (char '=') := .char (clear_starts (by decide))
  have stop : Local (Starts '}') (Starts '}') k (char ';') := .char (clear_starts (by decide))
  exact (Mirrors.commit name.toCarries).toCarries.bind fun name => blanks.toCarries.bind fun _ =>
    (Mirrors.commit sign.toCarries).toCarries.bind fun _ => blanks.toCarries.bind fun _ =>
    (Mirrors.commit (carries_before inner (by decide))).toCarries.bind fun e =>
    blanks.toCarries.bind fun _ => stop.optional.toCarries.bind fun _ => .pure (name, e)

omit first second in
theorem localDefinition_mirrors :
    Mirrors (Starts '}') (Starts '}') k (localDefinition expr) (localDefinition expr') := by
  have blanks1 : Local (Starts '}') (Starts '}') k blanks1 := .blanks1 (clear_starts (by decide))
  refine (keyword_local (clear_starts (by decide)) (by decide)).before fun _ =>
    blanks1.before fun _ => .of_sure (definition_carries inner) ?_
  exact (Sure.commit _).bind fun name => Sure.blanks.bind fun _ => (Sure.commit _).bind fun _ =>
    Sure.blanks.bind fun _ => (Sure.commit _).bind fun e => Sure.blanks.bind fun _ =>
    (Sure.optional _).bind fun _ => .pure (name, e)

omit first second in
theorem localDefinition_advances : Advances (localDefinition expr) :=
  (keyword_advances (by decide)).bind fun _ => Takes.blanks1.bind_any fun _ =>
    (definition_carries inner).takes

theorem closureBody_encloses : Encloses '}' k (closureBody expr n) (closureBody expr' m) := by
  have blanks : Local (Starts '}') (Starts '}') k blanks := .blanks (clear_starts (by decide))
  have blanks1 : Local (Starts '}') (Starts '}') k blanks1 := .blanks1 (clear_starts (by decide))
  have stop : Local (Starts '}') (Starts '}') k (char ';') := .char (clear_starts (by decide))
  have result : Local (Starts '}') (Starts '}') k (keyword "return") :=
    keyword_local (clear_starts (by decide)) (by decide)
  have params := parameters_mirrors first second
  have definition := localDefinition_mirrors inner
  refine .bind (.optional (params.bind_sure (params.toCarries.bind fun names =>
    blanks.toCarries.bind fun _ => .pure names) fun names => Sure.blanks.bind fun _ => .pure names))
    fun names => ?_
  refine .bind (.many (definition.bind_sure (definition.toCarries.bind fun l =>
    blanks.toCarries.bind fun _ => .pure l) fun l => Sure.blanks.bind fun _ => .pure l)
    ?_ first second) fun locals => ?_
  · exact (localDefinition_advances inner).bind fun l =>
      Takes.blanks.bind_any fun _ => (Takes.pure l).any
  · refine .bind (.optional (result.bind fun _ => blanks1).toMirrors) fun _ => ?_
    refine .bind (carries_before inner (by decide)) fun body => .bind blanks.toCarries fun _ => ?_
    exact .bind stop.optional.toCarries fun _ => .bind blanks.toCarries fun _ => .close _

theorem closure_encloses : Encloses '}' k (closure expr n) (closure expr' m) := by
  have blanks : Local (Starts '}') (Starts '}') k blanks := .blanks (clear_starts (by decide))
  exact .within _ (.bind (.satisfy _) fun _ => .bind blanks.toCarries fun _ =>
    .commit (closureBody_encloses first second inner))

theorem argument_mirrors : Mirrors Closed Closed k (argument expr n) (argument expr' m) := by
  have closed : Mirrors Closed Closed k (closure expr n) (closure expr' m) :=
    ((closure_encloses first second inner).mirrors closure_opens closure_opens
      (apart_heads (by decide))).mono (fun _ last => last) (fun _ last => last) (Nat.le_succ k)
  exact (closed.bind_sure (closed.toCarries.bind fun c => .pure (Expr.closure c))
    fun c => .pure (Expr.closure c)).orElse inner

theorem parenthesizedArguments_encloses (some : Advances expr) :
    Encloses ')' k (parenthesizedArguments expr n) (parenthesizedArguments expr' m) := by
  refine .within _ (.bind (.satisfy _) fun _ => itemList_encloses first second (by decide)
    (argument_mirrors first second inner) (.orElse ?_ some))
  exact (closure_encloses first second inner).advances.bind fun c => (Takes.pure _).any

end
end

end DocPath.Reader
