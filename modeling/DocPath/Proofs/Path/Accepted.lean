import DocPath.Proofs.Eval.Direct
import DocPath.Proofs.Eval.Parts
import DocPath.Proofs.Path.Source.Whole

/-!
What a text that is read as a path cannot fail with: all its calls are of known methods, with as
many arguments as these accept, and all its closures are arguments.
-/

namespace DocPath

/-- A call of a known method with an accepted number of arguments, or a closure that is an
argument. -/
def Part.Sound : Part → Prop
  | .call name args => isKnownCall name args.length
  | .closure argument _ => argument

mutual
theorem Expr.parts_sound : (e : Expr) → {argument : Bool} → e.wellFormed argument →
    ∀ x ∈ e.parts argument, x.Sound
  | .literal _, _, _ => by simp [Expr.parts]
  | .ident _, _, _ => by simp [Expr.parts]
  | .list items, _, formed => by
    simp only [Expr.wellFormed] at formed
    simp only [Expr.parts]
    exact partsOfItems_sound items formed
  | .path base segments, _, formed => by
    simp only [Expr.wellFormed, Bool.and_eq_true] at formed
    simp only [Expr.parts, List.forall_mem_append]
    exact ⟨base.parts_sound formed.1.1, partsOfSegments_sound segments formed.2⟩
  | .unary _ operand, _, formed => by
    simp only [Expr.wellFormed] at formed
    simp only [Expr.parts]
    exact operand.parts_sound formed
  | .binary _ left right, _, formed => by
    simp only [Expr.wellFormed, Bool.and_eq_true] at formed
    simp only [Expr.parts, List.forall_mem_append]
    exact ⟨left.parts_sound formed.1, right.parts_sound formed.2⟩
  | .ternary condition yes no, _, formed => by
    simp only [Expr.wellFormed, Bool.and_eq_true] at formed
    simp only [Expr.parts, List.forall_mem_append]
    exact ⟨⟨condition.parts_sound formed.1.1, yes.parts_sound formed.1.2⟩,
      no.parts_sound formed.2⟩
  | .elvis value fallback, _, formed => by
    simp only [Expr.wellFormed, Bool.and_eq_true] at formed
    simp only [Expr.parts, List.forall_mem_append]
    exact ⟨value.parts_sound formed.1, fallback.parts_sound formed.2⟩
  | .closure c, argument, formed => by
    simp only [Expr.wellFormed, Bool.and_eq_true] at formed
    simp only [Expr.parts, List.forall_mem_cons]
    exact ⟨formed.1, c.parts_sound formed.2⟩
theorem Closure.parts_sound : (c : Closure) → c.wellFormed → ∀ x ∈ c.parts, x.Sound
  | .mk _ locals body, formed => by
    simp only [Closure.wellFormed, Bool.and_eq_true] at formed
    simp only [Closure.parts, List.forall_mem_append]
    exact ⟨partsOfLocals_sound locals formed.1.2, body.parts_sound formed.2⟩
theorem Segment.parts_sound : (g : Segment) → g.wellFormed → ∀ x ∈ g.parts, x.Sound
  | .call name args, formed => by
    simp only [Segment.wellFormed, Bool.and_eq_true] at formed
    simp only [Segment.parts, List.forall_mem_cons]
    exact ⟨formed.1, partsOfItems_sound args formed.2⟩
  | .spread inner, formed => by
    simp only [Segment.wellFormed, Bool.and_eq_true] at formed
    simp only [Segment.parts]
    exact inner.parts_sound formed.2
  | .field _, _ | .index _, _ | .wildcard, _ | .descent, _ => by simp [Segment.parts]
theorem partsOfItems_sound : (es : List Expr) → {argument : Bool} → wellFormedItems argument es →
    ∀ x ∈ partsOfItems argument es, x.Sound
  | [], _, _ => by simp [partsOfItems]
  | e :: es, _, formed => by
    simp only [wellFormedItems, Bool.and_eq_true] at formed
    simp only [partsOfItems, List.forall_mem_append]
    exact ⟨e.parts_sound formed.1, partsOfItems_sound es formed.2⟩
theorem partsOfLocals_sound : (ls : List (String × Expr)) → wellFormedLocals ls →
    ∀ x ∈ partsOfLocals ls, x.Sound
  | [], _ => by simp [partsOfLocals]
  | (_, e) :: ls, formed => by
    simp only [wellFormedLocals, Bool.and_eq_true] at formed
    simp only [partsOfLocals, List.forall_mem_append]
    exact ⟨e.parts_sound formed.1.2, partsOfLocals_sound ls formed.2⟩
theorem partsOfSegments_sound : (gs : List Segment) → wellFormedSegments gs →
    ∀ x ∈ partsOfSegments gs, x.Sound
  | [], _ => by simp [partsOfSegments]
  | g :: gs, formed => by
    simp only [wellFormedSegments, Bool.and_eq_true] at formed
    simp only [partsOfSegments, List.forall_mem_append]
    exact ⟨g.parts_sound formed.1.1, partsOfSegments_sound gs formed.2⟩
end

namespace Path

/-- Failures that are not for the form of a path. -/
def IsLate (e : EvalError) : Prop := (∀ name, e ≠ .unknownMethod name) ∧ e ≠ strayClosureError

theorem isLate_of_ordinary {e : EvalError} (h : e.Ordinary) : IsLate e := by
  refine ⟨fun name same => ?_, fun same => ?_⟩
  · subst same
    cases h
  · generalize other : strayClosureError = f at same
    subst same
    cases h with
    | ofMethod m message =>
      have labels : ∀ m : Method, m.label ≠ "closure" := by
        intro m
        cases m <;> decide
      exact labels m (EvalError.arguments.inj other).1.symm
    | closureArity expected given =>
      -- The two messages start with different letters.
      have heads := congrArg (fun t : String => t.toList.head?) (EvalError.arguments.inj other).2
      simp [String.toList_append] at heads
    | _ => cases other

theorem isLate_of_lookup (s : Scope) (names : List String) : s.Permits IsLate names := by
  intro x _
  unfold Scope.lookup
  split
  · exact failsOnly_ok _
  · exact (failsOnly_error _).mpr ⟨by simp, by simp [strayClosureError]⟩

theorem permits_of_sound {xs : List Part} (sound : ∀ x ∈ xs, x.Sound) : Permits IsLate xs := by
  intro x mem
  have h := sound x mem
  cases x with
  | call name args =>
    intro unknown
    obtain ⟨m, known, -⟩ := isKnownCall_parts h
    rw [known] at unknown
    cases unknown
  | closure argument c =>
    intro stray
    subst stray
    cases h

/-- A path that is read names known methods with accepted numbers of arguments, and its closures
are arguments. So no evaluation of it, at any value, fails for an unknown method or for a closure
that is not passed to a method. -/
theorem read_is_sound {text : String} {p : Path} (read : Path.read text = .ok p) :
    (∀ name args, .call name args ∈ p.parts → ∃ m, Method.named? name = some m ∧
      m.minArgs ≤ args.length ∧ args.length ≤ m.maxArgs) ∧
    (∀ c, .closure false c ∉ p.parts) ∧
    ∀ root params e, p.eval root params = .error e ∨ p.evalBorrowed root params = .error e →
      (∀ name, e.source ≠ .unknownMethod name) ∧ e.source ≠ strayClosureError := by
  have formed := (readChars_pays read).formed
  simp only [wellFormed, Bool.and_eq_true] at formed
  have sound := partsOfSegments_sound p.segments formed.2
  refine ⟨fun name args mem => ?_, fun c mem => ?_, fun root params e failed => ?_⟩
  · obtain ⟨m, known, accepts, -⟩ := isKnownCall_parts (sound _ mem)
    simp only [Method.accepts, Bool.and_eq_true, decide_eq_true_eq] at accepts
    exact ⟨m, known, accepts⟩
  · cases sound _ mem
  · rw [evalBorrowed_eq, or_self] at failed
    obtain ⟨i, g, -, -, -, late | ⟨-, name, k, missing⟩⟩ :=
      evalFrom_blames (fun e => isLate_of_ordinary) p.segments 0 root (permits_of_sound sound)
        (isLate_of_lookup _ _) failed
    · exact late
    · rw [missing]
      exact ⟨by simp, by simp [strayClosureError]⟩

/-- A closure inside an argument of a spread call. -/
theorem read_is_sound_nested :
    ∃ p, Path.read "a*.find { it.b.any { !it } }" = .ok p ∧
      (∀ c, .closure false c ∉ p.parts) ∧
      ∀ root params e, p.eval root params = .error e → e.source ≠ .unknownMethod "find" := by
  have accepted : (Path.read "a*.find { it.b.any { !it } }").toOption.isSome := by decide +kernel
  cases read : Path.read "a*.find { it.b.any { !it } }" with
  | ok p =>
    have sound := read_is_sound read
    exact ⟨p, rfl, sound.2.1, fun root params e failed =>
      (sound.2.2 root params e (.inl failed)).1 _⟩
  | error e =>
    rw [read] at accepted
    cases accepted

end Path

end DocPath
