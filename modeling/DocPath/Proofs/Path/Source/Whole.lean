import DocPath.Proofs.Path.Source.Operators

/-!
A text that is read as a path has at least the marks and the load of the path, and the path has a
form that the grammar can denote.
-/

namespace DocPath

open Reader

structure PaysForPath (c : List Char) (p : Path) : Prop where
  formed : p.wellFormed
  pays : Pays c p.cost 0 p.load 0

theorem paysForPath_root (p : Path) (root : p = ⟨[]⟩) {c : List Char} (free : c.all isFree) :
    PaysForPath c p := by
  subst root
  exact ⟨rfl, .of_free free (Nat.zero_le _) (Nat.zero_le _)⟩

theorem paysForPath_cons {c d rest : List Char} {g : Segment} {gs : List Segment}
    (formed : g.wellFormed) (first : g.isSpread = false)
    (pays : Pays c (g.cost true) g.size g.load g.hold)
    (ends : ∀ tail, tailOf tail c = true → g.endsTail = true)
    (links : PaysForLinks true rest d gs)
    (apart : g.endsInStar = true → (d ++ rest).head? ≠ some '*') :
    PaysForPath (c ++ d) ⟨g :: gs⟩ := by
  refine ⟨?_, ?_⟩
  · simp only [Path.wellFormed, List.head?_cons, Option.any_some, first, Bool.not_false,
      Bool.true_and]
    exact links.formed_cons formed apart
  · have count (tail : Bool) : Path.cost ⟨g :: gs⟩ ≤ marks tail (c ++ d) :=
      links.segmentsCost_le (ends tail) (pays.marks tail)
    cases gs with
    | nil =>
      have none := links.none rfl
      subst none
      rw [List.append_nil] at count ⊢
      refine ⟨count, fun m plain => ?_⟩
      exact (pays.grows m plain).weaken (Nat.zero_le _) (Nat.le_refl _) (Nat.zero_le _)
    | cons b bs =>
      exact (pays.join (links.joins (by simp)) count).weaken (Nat.le_refl _) (Nat.zero_le _)
        (Nat.le_refl _) (Nat.le_refl _)

namespace Reader

variable {expr : Reader Expr}

theorem segments_takes (h : Takes expr (PaysFor false)) (n : Nat) :
    Takes (segments expr n) fun c gs => PaysForPath c ⟨gs⟩ := by
  intro s gs r read
  obtain ⟨g, t, first, rest⟩ := done_of_bind read
  obtain ⟨gs, u, second, given⟩ := done_of_bind rest
  cases given
  obtain ⟨c₂, text₂, links⟩ := links_done h n n second
  rcases done_of_orElse first with index | ⟨-, segment⟩
  · obtain ⟨c₁, text₁, i, c', rfl, rfl, inside⟩ := subscript_takes true s g t index
    refine ⟨_, by rw [text₁, text₂, List.append_assoc], paysForPath_cons rfl rfl inside.square
      (fun tail last => ?_) links fun star => by cases star⟩
    rw [← List.cons_append, tailOf_concat] at last
    cases last
  · obtain ⟨c₁, text₁, paid⟩ := segment_takes h n true s g t segment
    refine ⟨_, by rw [text₁, text₂, List.append_assoc], paysForPath_cons paid.formed ?_ paid.pays
      paid.ends links fun star => ?_⟩
    · have plain := paid.plain
      cases g <;> first | rfl | cases plain
    · rw [← text₂]
      refine segment_star segment ?_
      have plain := paid.plain
      cases g <;> first | rfl | cases star | cases plain

theorem path_takes (n : Nat) : Takes (path n) PaysForPath := by
  refine Takes.orElse (.orElse ?dollar ?empty) ?segments
  case dollar =>
    refine ((Takes.char '$').bind fun _ => (Takes.ahead (do blanks; atEnd)).bind fun _ =>
      Takes.pure (Path.mk [])).mono ?_
    rintro c p ⟨c₁, c₂, x, rfl, ⟨rfl, -⟩, c₃, c₄, u, rfl, rfl, rfl, rfl⟩
    exact paysForPath_root _ rfl (by decide)
  case empty =>
    intro s p r read
    obtain ⟨u, t, first, given⟩ := done_of_bind read
    obtain ⟨rfl, rfl⟩ := done_of_atEnd first
    cases given
    exact ⟨[], rfl, paysForPath_root _ rfl rfl⟩
  case segments =>
    refine ((segments_takes (expression_takes n) n).bind fun gs => Takes.pure (Path.mk gs)).mono ?_
    rintro c p ⟨c₁, c₂, gs, rfl, paid, rfl, rfl⟩
    rw [List.append_nil]
    exact paid

end Reader

/-- Any text of a path pays for the path. -/
theorem Path.readChars_pays {s : List Char} {p : Path} (read : Path.readChars s = .ok p) :
    PaysForPath s p := by
  unfold Path.readChars at read
  split at read
  · next q r whole =>
    cases read
    obtain ⟨p, t, first, rest⟩ := done_of_bind whole
    obtain ⟨u, v, ended, given⟩ := done_of_bind rest
    obtain ⟨rfl, rfl⟩ := done_of_atEnd ended
    cases given
    obtain ⟨c, text, b, c', b', rfl, front, back, paid⟩ :=
      padded_takes (path_takes (s.length + 1)) s _ _ first
    rw [text, List.append_nil]
    exact ⟨paid.formed, paid.pays.padded front back⟩
  · cases read
  · cases read

end DocPath
