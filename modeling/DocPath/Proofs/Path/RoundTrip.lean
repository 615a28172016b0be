import DocPath.Proofs.Path.Reading

/-!
Printing and reading back. A printable path is the same after both.
-/

namespace DocPath

namespace Path

theorem chars_eq_written {p : Path} (h : unbracketedSegments p.segments) : p.chars = p.written := by
  obtain ⟨segments⟩ := p
  cases segments with
  | nil => rfl
  | cons g gs =>
    simp only [unbracketedSegments, Bool.and_eq_true] at h
    simp only [chars, written, g.chars_eq_written h.1, pointed_eq_written gs h.2]

/-- A printable path is read back from its text. -/
theorem read_render (p : Path) (h : p.isPrintable) : Path.read p.render = .ok p := by
  simp only [isPrintable, Bool.and_eq_true] at h
  rw [Path.read, render, String.toList_ofList, chars_eq_written h.2]
  exact readChars_written h.1.1 h.1.2

theorem read_render_nested :
    (Path.mk [.field "first-order", .call "findAll" [.closure (.mk ["x"] [("y", .ident "x")]
      (.binary .sub (.path (.literal (.number (.int 1))) [.call "abs" []]) (.unary .neg
        (.path (.ident "y") [.field "a b", .spread (.field "c"), .index (.single (-1))]))))],
      .wildcard]).isPrintable = true ∧
    Path.read (Path.mk [.field "first-order", .call "findAll" [.closure (.mk ["x"]
      [("y", .ident "x")] (.binary .sub (.path (.literal (.number (.int 1))) [.call "abs" []])
        (.unary .neg (.path (.ident "y") [.field "a b", .spread (.field "c"),
          .index (.single (-1))]))))], .wildcard]).render =
      .ok (Path.mk [.field "first-order", .call "findAll" [.closure (.mk ["x"]
        [("y", .ident "x")] (.binary .sub (.path (.literal (.number (.int 1))) [.call "abs" []])
          (.unary .neg (.path (.ident "y") [.field "a b", .spread (.field "c"),
            .index (.single (-1))]))))], .wildcard]) :=
  ⟨by decide +kernel, read_render _ (by decide +kernel)⟩

/-- Whether an equal path is read from the text of a path. -/
def readsBack (p : Path) : Bool :=
  match Path.read p.render with
  | .ok q => q.sameAs p
  | .error _ => false

/-- A closure inside a list is refused, a decimal with a fraction that is kept as a whole number
is read as a fraction, and the sign of a zero as an operator. -/
theorem listed_closure_not_readsBack :
    (Path.mk [.call "collect" [.list [.closure (.mk [] [] (.ident "it"))]]]).readsBack = false ∧
      (Path.mk [.call "find" [.literal (.number (.bigInteger
        ⟨false, 999999999999999999999, 1, by decide, by decide⟩))]]).readsBack = false ∧
      (Path.mk [.call "find" [.literal (.number (.bigDecimal
        ⟨true, 0, 1, by decide, by decide⟩))]]).readsBack = false := by
  decide +kernel

end Path

end DocPath
