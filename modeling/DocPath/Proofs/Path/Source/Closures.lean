import DocPath.Proofs.Path.Source.Lists

/-!
A text pays for the closures and the arguments of calls that are read from it, given that of the
expressions in them.
-/

namespace DocPath

structure PaysForClosure (c : List Char) (k : Closure) : Prop where
  formed : k.wellFormed
  pays : Pays c k.cost 0 k.load 0
  closed (tail : Bool) : tailOf tail c = false

/-- A text that pays for arguments and ends in their group. -/
structure PaysForArguments (c : List Char) (es : List Expr) : Prop where
  formed : wellFormedItems true es
  pays : Pays c (itemsCost es) (lastSize es) (itemsLoad es) (lastSize es)
  closed (tail : Bool) : tailOf tail c = false

theorem PaysForClosure.expression {c : List Char} {k : Closure} (h : PaysForClosure c k) :
    PaysFor true c (.closure k) := ⟨h.formed, h.pays⟩

namespace Reader

/-- Readers of words that pay nothing. -/
def Neutral {α : Type} (p : Reader α) : Prop := Takes p fun c _ => Pays c 0 0 0 0

namespace Neutral

variable {α β : Type} {p : Reader α} {q : Reader β}

theorem blanks : Neutral blanks := Takes.blanks.mono fun _ _ => Pays.blank

theorem blanks1 : Neutral blanks1 := Takes.blanks1.mono fun _ _ => Pays.blank

theorem of_free {c : List Char} (free : c.all isFree) : Pays c 0 0 0 0 :=
  .of_free free (Nat.zero_le _) (Nat.zero_le _)

theorem char {x : Char} (free : isFree x) : Neutral (char x) := by
  refine (Takes.char x).mono ?_
  rintro c a ⟨rfl, -⟩
  exact of_free (by simp [free])

theorem word {w : String} (free : w.toList.all isFree) : Neutral (word w) := by
  refine (Takes.word w).mono ?_
  rintro c a rfl
  exact of_free free

theorem keyword {w : String} (free : w.toList.all isFree) : Neutral (keyword w) := by
  refine (keyword_takes w).mono ?_
  rintro c a rfl
  exact of_free free

theorem optional (h : Neutral p) : Neutral (optional p) := by
  refine (Takes.optional h).mono ?_
  rintro c o (⟨a, -, pays⟩ | ⟨-, rfl⟩)
  · exact pays
  · exact .nil

theorem bind {f : α → Reader β} (h : Neutral p) (k : ∀ a, Neutral (f a)) : Neutral (p >>= f) := by
  refine (Takes.bind h k).mono ?_
  rintro c b ⟨c₁, c₂, a, rfl, first, second⟩
  exact first.after second

theorem pure (a : α) : Neutral (pure a) := by
  refine (Takes.pure a).mono ?_
  rintro c b ⟨rfl, -⟩
  exact .nil

end Neutral

theorem parameters_takes (n : Nat) : Takes (parameters n) fun c names =>
    names.all isName ∧ Inside c (names.map (marks false ·.toList)).sum 0 0 := by
  have one : Takes binder fun c name =>
      isName name ∧ Pays c (marks false name.toList) 0 0 0 := by
    refine binder_takes.mono ?_
    rintro c name ⟨rfl, ok⟩
    exact ⟨ok, (pays_identifier (isName_iff.mp ok).1).weaken (Nat.le_refl _) (Nat.zero_le _)
      (Nat.le_refl _) (Nat.le_refl _)⟩
  have arrow : Neutral (word "->") := .word (by decide)
  refine ((separated_takes one n).bind fun names => Takes.bind Neutral.blanks fun _ =>
    Takes.bind arrow fun _ => Takes.pure names).mono ?_
  rintro c names ⟨c₁, c₂, ns, rfl, ⟨all, pays⟩, b₁, c₃, u₁, rfl, p₁, b₂, c₄, u₂, rfl, p₂, rfl, rfl⟩
  have tail := pays.append (p₁.after (p₂.after .nil))
  exact ⟨all, tail.weaken (Nat.le_refl _) (Nat.zero_le _) (Nat.zero_le _)⟩

theorem declared_takes (n : Nat) : Takes (optional (do
    let names ← parameters n
    blanks
    pure names)) fun c o => (o.getD []).all isName ∧
      Inside c ((o.getD []).map (marks false ·.toList)).sum 0 0 := by
  refine (((parameters_takes n).bind fun names => Takes.bind Neutral.blanks fun _ =>
    Takes.pure names).optional).mono ?_
  rintro c o (⟨names, rfl, c₁, c₂, ns, rfl, ⟨all, pays⟩, b, c₃, u, rfl, p, rfl, rfl⟩ | ⟨rfl, rfl⟩)
  · exact ⟨all, pays.append (p.after .nil)⟩
  · exact ⟨rfl, Pays.nil.inside⟩

theorem lastSize_concat (args : List Expr) (k : Closure) :
    lastSize (args ++ [.closure k]) = 0 := by
  rw [lastSize_eq, lastOr, List.getLast?_concat]
  rfl

/-- A closure after the parentheses is one more argument, and nothing is held after it. -/
theorem paysForArguments_trailing {c d : List Char} {args : List Expr} {k : Closure}
    (h : PaysForArguments c args) (closed : PaysForClosure d k) :
    PaysForArguments (c ++ d) (args ++ [.closure k]) where
  formed := by
    have formed := h.formed
    rw [wellFormedItems_eq] at formed ⊢
    simpa [Expr.wellFormed, closed.formed] using formed
  pays := by
    refine (h.pays.append closed.pays).weaken ?_ ?_ ?_ ?_
    · simp [itemsCost_eq, Expr.cost]
    · rw [lastSize_concat]
      exact Nat.zero_le _
    · simp [itemsLoad_eq, Expr.load]
    · rw [lastSize_concat]
  closed tail := by rw [tailOf_append, closed.closed]

section
variable {expr : Reader Expr} (h : Takes expr (PaysFor false)) (n : Nat)
include h

theorem localDefinition_takes : Takes (localDefinition expr) fun c l =>
    (isName l.1 && l.2.wellFormed false) ∧
      Pays c (2 + marks false l.1.toList + l.2.cost) 0 l.2.load 0 := by
  have sign : Neutral (commit (char '=')) := Takes.commit (Neutral.char (by decide))
  have semicolon : Neutral (optional (char ';')) := (Neutral.char (by decide)).optional
  refine ((keyword_takes "def").bind fun _ => Takes.bind Neutral.blanks1 fun _ =>
    binder_takes.commit.bind fun name => Takes.bind Neutral.blanks fun _ =>
    Takes.bind sign fun _ => Takes.bind Neutral.blanks fun _ => h.commit.bind fun e =>
    Takes.bind Neutral.blanks fun _ => Takes.bind semicolon fun _ => Takes.pure (name, e)).mono ?_
  rintro c l ⟨c₁, c₂, u, rfl, rfl, b₁, c₃, u₁, rfl, p₁, n, c₄, name, rfl, ⟨rfl, ok⟩, b₂, c₅, u₂,
    rfl, p₂, b₃, c₆, u₃, rfl, p₃, b₄, c₇, u₄, rfl, p₄, v, c₈, e, rfl, paid, b₅, c₉, u₅, rfl, p₅,
    b₆, c₁₀, u₆, rfl, p₆, rfl, rfl⟩
  have word : Pays "def".toList 2 0 0 0 := .of_free (by decide) (by decide) (Nat.zero_le _)
  have value := p₂.after (p₃.after (p₄.after (paid.pays.before (p₅.after (p₆.after .nil)))))
  have all := word.append (p₁.after ((pays_identifier (isName_iff.mp ok).1).append value))
  refine ⟨by simp only [ok, paid.formed, Bool.and_self], ?_⟩
  simp only
  exact all.weaken (by omega) (Nat.zero_le _) (by omega) (Nat.le_refl _)

theorem definitions_takes : Takes (many (do
    let l ← localDefinition expr
    blanks
    pure l) n) fun c ls => wellFormedLocals ls ∧ Pays c (localsCost ls) 0 (localsLoad ls) 0 := by
  refine (((localDefinition_takes h).bind fun l => Takes.bind Neutral.blanks fun _ =>
    Takes.pure l).many ?none ?more n)
  · exact ⟨rfl, .nil⟩
  · rintro c ⟨name, e⟩ d ls ⟨c₁, c₂, l, rfl, ⟨ok, pays⟩, b, c₃, u, rfl, p, rfl, rfl⟩ ⟨all, rest⟩
    refine ⟨by rw [wellFormedLocals, ok, all]; rfl, ?_⟩
    exact (pays.before (p.after .nil)).append rest

theorem closureBody_takes : Takes (closureBody expr n) fun c k =>
    ∃ c', c = c' ++ ['}'] ∧ k.wellFormed ∧ Inside c' k.cost 0 k.load := by
  have returned : Neutral (optional (do keyword "return"; blanks1)) :=
    (Neutral.bind (.keyword (by decide)) fun _ => .blanks1).optional
  have semicolon : Neutral (optional (char ';')) := (Neutral.char (by decide)).optional
  refine ((declared_takes n).bind fun params => (definitions_takes h n).bind fun locals =>
    Takes.bind returned fun _ => h.bind fun body => Takes.bind Neutral.blanks fun _ =>
    Takes.bind semicolon fun _ => Takes.bind Neutral.blanks fun _ => (Takes.char '}').bind fun _ =>
    Takes.pure (Closure.mk (params.getD []) locals body)).mono ?_
  rintro c k ⟨c₁, c₂, params, rfl, ⟨names, pays₁⟩, c₃, c₄, locals, rfl, ⟨formed, pays₂⟩, b₁, c₅,
    u₁, rfl, p₁, c₆, c₇, body, rfl, paid, b₂, c₈, u₂, rfl, p₂, b₃, c₉, u₃, rfl, p₃, b₄, c₁₀, u₄,
    rfl, p₄, e, c₁₁, u₅, rfl, ⟨rfl, -⟩, rfl, rfl⟩
  refine ⟨c₁ ++ (c₃ ++ (b₁ ++ (c₆ ++ (b₂ ++ (b₃ ++ b₄))))), ?_, ?_, ?_⟩
  · simp only [List.append_assoc, List.append_nil]
  · rw [Closure.wellFormed, names, formed, paid.formed]
    rfl
  · have value := p₁.after (paid.pays.before (p₂.after (p₃.after p₄)))
    refine (pays₁.append (pays₂.append value)).weaken ?_ (Nat.zero_le _) ?_
    · rw [Closure.cost]
      omega
    · rw [Closure.load]
      omega

theorem closure_takes : Takes (closure expr n) PaysForClosure := by
  refine Takes.within _ (((Takes.char '{').bind fun _ => Takes.bind Neutral.blanks fun _ =>
    (closureBody_takes h n).commit).mono ?_)
  rintro c k ⟨c₁, c₂, x, rfl, ⟨rfl, -⟩, b, c₃, u, rfl, p, c', rfl, formed, pays⟩
  have text : ['{'] ++ (b ++ (c' ++ ['}'])) = '{' :: (b ++ c' ++ ['}']) := by
    simp only [List.append_assoc, List.cons_append, List.nil_append]
  rw [text]
  refine ⟨formed, (Inside.after p pays).brace, fun tail => ?_⟩
  rw [← List.cons_append, tailOf_concat]
  rfl

theorem argument_takes : Takes (argument expr n) (PaysFor true) := by
  have block : Takes (do let c ← closure expr n; pure (.closure c)) (PaysFor true) := by
    refine ((closure_takes h n).bind fun k => Takes.pure (Expr.closure k)).mono ?_
    rintro c e ⟨c₁, c₂, k, rfl, paid, rfl, rfl⟩
    rw [List.append_nil]
    exact paid.expression
  exact block.orElse (h.mono fun _ _ paid => paid.argument)

theorem parenthesizedArguments_takes :
    Takes (parenthesizedArguments expr n) PaysForArguments := by
  refine Takes.within _ (((Takes.char '(').bind fun _ =>
    itemList_takes (argument_takes h n) ')' n).mono ?_)
  rintro c es ⟨c₁, c₂, x, rfl, ⟨rfl, -⟩, c', rfl, paid⟩
  refine ⟨paid.formed, paid.pays.group, fun tail => ?_⟩
  rw [← List.append_assoc, tailOf_concat]
  rfl

theorem callArguments_takes : Takes (callArguments expr n) PaysForArguments := by
  have block := closure_takes h n
  have spaced : Takes (do blanks; closure expr n) PaysForClosure := by
    refine (Takes.bind Neutral.blanks fun _ => block).mono ?_
    rintro c k ⟨c₁, c₂, u, rfl, p, paid⟩
    exact ⟨paid.formed, p.after paid.pays, fun tail => by rw [tailOf_append, paid.closed]⟩
  refine Takes.orElse ?group ?alone
  · refine ((parenthesizedArguments_takes h n).bind fun args => spaced.optional.bind fun trailing =>
      Takes.pure (args ++ (trailing.map Expr.closure).toList)).mono ?_
    rintro c es ⟨c₁, c₂, args, rfl, paid, c₃, c₄, trailing, rfl, last, rfl, rfl⟩
    rcases last with ⟨k, rfl, closed⟩ | ⟨rfl, rfl⟩
    · rw [List.append_nil]
      exact paysForArguments_trailing paid closed
    · simpa using paid
  · refine (Takes.bind Neutral.blanks fun _ => block.bind fun k =>
      Takes.pure [Expr.closure k]).mono ?_
    rintro c es ⟨c₁, c₂, u, rfl, p, c₃, c₄, k, rfl, closed, rfl, rfl⟩
    refine ⟨?_, p.after (closed.pays.before .nil), fun tail => ?_⟩
    · simpa [wellFormedItems, Expr.wellFormed] using closed.formed
    · rw [tailOf_append, List.append_nil, closed.closed]

end

end Reader

end DocPath
