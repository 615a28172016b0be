import DocPath.Proofs.Path.Measure

/-!
Trees that are equal as syntax have the same measures, although the literals in them may differ
in their representation.
-/

namespace DocPath

/-- Everything about an expression that the measures of the tree around it use. -/
structure Expr.Alike (e f : Expr) : Prop where
  cost : e.cost = f.cost
  size : e.size = f.size
  load : e.load = f.load
  tail : e.endsTail = f.endsTail
  whole : e.endsInWhole = f.endsInWhole
  atomic : e.isAtomic = f.isAtomic
  compound : e.isCompound = f.isCompound

structure Segment.Alike (g h : Segment) : Prop where
  cost (hyphens : Bool) : g.cost hyphens = h.cost hyphens
  size : g.size = h.size
  load : g.load = h.load
  hold : g.hold = h.hold
  tail : g.endsTail = h.endsTail
  digit : g.startsInDigit = h.startsInDigit
  attached : g.isAttached = h.isAttached

structure ItemsAlike (es fs : List Expr) : Prop where
  cost : itemsCost es = itemsCost fs
  last : lastSize es = lastSize fs
  load : itemsLoad es = itemsLoad fs

structure SegmentsAlike (gs hs : List Segment) : Prop where
  cost (hyphens tail : Bool) : segmentsCost hyphens tail gs = segmentsCost hyphens tail hs
  size : segmentsSize gs = segmentsSize hs
  load : segmentsLoad gs = segmentsLoad hs
  tail : gs.getLast?.any (·.endsTail) = hs.getLast?.any (·.endsTail)
  digit : gs.head?.any Segment.startsInDigit = hs.head?.any Segment.startsInDigit
  isEmpty : gs.isEmpty = hs.isEmpty

theorem Number.alike {x y : Number} (h : x.sameAs y) :
    x.cost = y.cost ∧ x.size = y.size ∧ x.isWhole = y.isWhole := by
  cases x <;> cases y <;> first | exact ⟨rfl, rfl, rfl⟩ | cases h

theorem literal_alike {v w : Value} (h : v.sameAs w) :
    (Expr.literal v).Alike (.literal w) := by
  cases v with
  | number x =>
    cases w with
    | number y =>
      simp only [Value.sameAs] at h
      obtain ⟨cost, size, whole⟩ := Number.alike h
      exact ⟨cost, size, rfl, rfl, whole, rfl, rfl⟩
    | _ => simp [Value.sameAs] at h
  | bool b =>
    cases w with
    | bool c =>
      simp only [Value.sameAs, beq_iff_eq] at h
      subst h
      exact ⟨rfl, rfl, rfl, rfl, rfl, rfl, rfl⟩
    | _ => simp [Value.sameAs] at h
  | string s =>
    cases w with
    | string t =>
      simp only [Value.sameAs, beq_iff_eq] at h
      subst h
      exact ⟨rfl, rfl, rfl, rfl, rfl, rfl, rfl⟩
    | _ => simp [Value.sameAs] at h
  | _ => cases w <;> first | exact ⟨rfl, rfl, rfl, rfl, rfl, rfl, rfl⟩ | simp [Value.sameAs] at h

section
variable {e f e' f' e'' f'' : Expr} {gs hs : List Segment}

theorem ItemsAlike.list {es fs : List Expr} (h : ItemsAlike es fs) :
    (Expr.list es).Alike (.list fs) := ⟨h.cost, rfl, h.load, rfl, rfl, rfl, rfl⟩

theorem Expr.Alike.hold (h : e.Alike f) : e.hold = f.hold := by
  rw [Expr.hold, Expr.hold, h.atomic, h.size]

theorem Expr.Alike.path (h : e.Alike f) (k : SegmentsAlike gs hs) :
    (Expr.path e gs).Alike (.path f hs) where
  cost := by
    have point : keepsPoint e gs = keepsPoint f hs := by
      rw [keepsPoint, keepsPoint, h.whole, k.digit]
    rw [Expr.cost, Expr.cost, h.cost, h.tail, point, k.cost]
  size := by rw [Expr.size, Expr.size, h.size, k.size]
  load := by rw [Expr.load, Expr.load, h.load, h.hold, k.load]
  tail := k.tail
  whole := rfl
  atomic := rfl
  compound := rfl

theorem Expr.Alike.unary (op : UnaryOp) (h : e.Alike f) :
    (Expr.unary op e).Alike (.unary op f) where
  cost := h.cost
  size := by rw [Expr.size, Expr.size, h.size]
  load := h.load
  tail := by simp only [Expr.endsTail, h.compound, h.tail]
  whole := by simp only [Expr.endsInWhole, h.compound, h.whole]
  atomic := rfl
  compound := rfl

theorem Expr.Alike.binary (op : BinaryOp) (h : e.Alike f) (k : e'.Alike f') :
    (Expr.binary op e e').Alike (.binary op f f') where
  cost := by rw [Expr.cost, Expr.cost, h.cost, k.cost]
  size := by rw [Expr.size, Expr.size, h.size, k.size]
  load := by rw [Expr.load, Expr.load, h.load, k.load]
  tail := by simp only [Expr.endsTail, k.compound, k.tail]
  whole := by simp only [Expr.endsInWhole, k.compound, k.whole]
  atomic := rfl
  compound := rfl

theorem Expr.Alike.ternary (h : e.Alike f) (k : e'.Alike f') (l : e''.Alike f'') :
    (Expr.ternary e e' e'').Alike (.ternary f f' f'') where
  cost := by rw [Expr.cost, Expr.cost, h.cost, k.cost, l.cost]
  size := by rw [Expr.size, Expr.size, h.size, k.size, l.size]
  load := by rw [Expr.load, Expr.load, h.load, k.load, l.load]
  tail := l.tail
  whole := l.whole
  atomic := rfl
  compound := rfl

theorem Expr.Alike.elvis (h : e.Alike f) (k : e'.Alike f') :
    (Expr.elvis e e').Alike (.elvis f f') where
  cost := by rw [Expr.cost, Expr.cost, h.cost, k.cost]
  size := by rw [Expr.size, Expr.size, h.size, k.size]
  load := by rw [Expr.load, Expr.load, h.load, k.load]
  tail := k.tail
  whole := k.whole
  atomic := rfl
  compound := rfl

end

section
variable {g h : Segment} {gs hs : List Segment}

theorem Segment.Alike.refl (g : Segment) : g.Alike g :=
  ⟨fun _ => rfl, rfl, rfl, rfl, rfl, rfl, rfl⟩

theorem ItemsAlike.call (name : String) {es fs : List Expr} (h : ItemsAlike es fs) :
    (Segment.call name es).Alike (.call name fs) where
  cost _ := by rw [Segment.cost, Segment.cost, h.cost]
  size := by rw [Segment.size, Segment.size, h.last]
  load := h.load
  hold := h.last
  tail := rfl
  digit := rfl
  attached := rfl

theorem Segment.Alike.spread (k : g.Alike h) : (Segment.spread g).Alike (.spread h) where
  cost hyphens := by rw [Segment.cost, Segment.cost, k.cost]
  size := by rw [Segment.size, Segment.size, k.size]
  load := k.load
  hold := k.hold
  tail := k.tail
  digit := rfl
  attached := rfl

theorem SegmentsAlike.nil : SegmentsAlike [] [] := ⟨fun _ _ => rfl, rfl, rfl, rfl, rfl, rfl⟩

theorem SegmentsAlike.cons (k : g.Alike h) (l : SegmentsAlike gs hs) :
    SegmentsAlike (g :: gs) (h :: hs) where
  cost hyphens tail := by
    rw [segmentsCost, segmentsCost, pointCost, pointCost, k.attached, k.cost, k.tail, l.cost]
  size := by rw [segmentsSize, segmentsSize, k.attached, k.size, l.size]
  load := by rw [segmentsLoad, segmentsLoad, k.load, k.hold, l.isEmpty, l.load]
  tail := by
    have last := l.tail
    have same := l.isEmpty
    cases gs <;> cases hs <;> cases same
    · exact k.tail
    · rw [List.getLast?_cons_cons, List.getLast?_cons_cons]
      exact last
  digit := k.digit
  isEmpty := rfl

end

theorem ItemsAlike.cons {e f : Expr} {es fs : List Expr} (k : e.Alike f) (l : ItemsAlike es fs)
    (same : es.isEmpty = fs.isEmpty) : ItemsAlike (e :: es) (f :: fs) where
  cost := by rw [itemsCost, itemsCost, k.cost, l.cost]
  last := by
    have last := l.last
    cases es <;> cases fs <;> cases same
    · exact k.size
    · exact last
  load := by rw [itemsLoad, itemsLoad, k.load, l.load]

mutual
theorem Expr.alike : ∀ e f : Expr, e.sameAs f → e.Alike f
  | .literal v, f, h => by
    cases f <;> simp only [Expr.sameAs, Bool.false_eq_true] at h
    exact literal_alike h
  | .list es, f, h => by
    cases f <;> simp only [Expr.sameAs, Bool.false_eq_true] at h
    exact (items_alike es _ h).1.list
  | .ident name, f, h => by
    cases f <;> simp only [Expr.sameAs, Bool.false_eq_true, beq_iff_eq] at h
    subst h
    exact ⟨rfl, rfl, rfl, rfl, rfl, rfl, rfl⟩
  | .path base gs, f, h => by
    cases f <;> simp only [Expr.sameAs, Bool.false_eq_true, Bool.and_eq_true] at h
    exact (base.alike _ h.1).path (segments_alike gs _ h.2)
  | .unary op e, f, h => by
    cases f <;> simp only [Expr.sameAs, Bool.false_eq_true, Bool.and_eq_true, beq_iff_eq] at h
    obtain ⟨rfl, h⟩ := h
    exact (e.alike _ h).unary op
  | .binary op l r, f, h => by
    cases f <;> simp only [Expr.sameAs, Bool.false_eq_true, Bool.and_eq_true, beq_iff_eq] at h
    obtain ⟨⟨rfl, h⟩, k⟩ := h
    exact (l.alike _ h).binary op (r.alike _ k)
  | .ternary a b c, f, h => by
    cases f <;> simp only [Expr.sameAs, Bool.false_eq_true, Bool.and_eq_true] at h
    exact (a.alike _ h.1.1).ternary (b.alike _ h.1.2) (c.alike _ h.2)
  | .elvis a b, f, h => by
    cases f <;> simp only [Expr.sameAs, Bool.false_eq_true, Bool.and_eq_true] at h
    exact (a.alike _ h.1).elvis (b.alike _ h.2)
  | .closure k, f, h => by
    cases f <;> simp only [Expr.sameAs, Bool.false_eq_true] at h
    obtain ⟨cost, load⟩ := k.alike _ h
    exact ⟨cost, rfl, load, rfl, rfl, rfl, rfl⟩
theorem Closure.alike : ∀ k l : Closure, k.sameAs l → k.cost = l.cost ∧ k.load = l.load
  | .mk ps ls b, .mk ps' ls' b', h => by
    simp only [Closure.sameAs, Bool.and_eq_true, beq_iff_eq] at h
    obtain ⟨⟨rfl, locals⟩, body⟩ := h
    obtain ⟨cost, load⟩ := locals_alike ls ls' locals
    have value := b.alike b' body
    rw [Closure.cost, Closure.cost, Closure.load, Closure.load, cost, load, value.cost, value.load]
    exact ⟨rfl, rfl⟩
theorem Segment.alike : ∀ g h : Segment, g.sameAs h → g.Alike h
  | .field a, h, same => by
    cases h <;> simp only [Segment.sameAs, Bool.false_eq_true, beq_iff_eq] at same
    subst same
    exact .refl _
  | .index i, h, same => by
    cases h <;> simp only [Segment.sameAs, Bool.false_eq_true, beq_iff_eq] at same
    subst same
    exact .refl _
  | .wildcard, h, same => by
    cases h <;> simp only [Segment.sameAs, Bool.false_eq_true] at same
    exact .refl _
  | .descent, h, same => by
    cases h <;> simp only [Segment.sameAs, Bool.false_eq_true] at same
    exact .refl _
  | .call name es, h, same => by
    cases h <;> simp only [Segment.sameAs, Bool.false_eq_true, Bool.and_eq_true, beq_iff_eq] at same
    obtain ⟨rfl, args⟩ := same
    exact (items_alike es _ args).1.call name
  | .spread g, h, same => by
    cases h <;> simp only [Segment.sameAs, Bool.false_eq_true] at same
    exact (g.alike _ same).spread
theorem items_alike : ∀ es fs : List Expr, sameExprs es fs →
    ItemsAlike es fs ∧ es.isEmpty = fs.isEmpty
  | [], fs, h => by
    cases fs <;> simp only [sameExprs, Bool.false_eq_true] at h
    exact ⟨⟨rfl, rfl, rfl⟩, rfl⟩
  | e :: es, fs, h => by
    cases fs <;> simp only [sameExprs, Bool.false_eq_true, Bool.and_eq_true] at h
    obtain ⟨rest, same⟩ := items_alike es _ h.2
    exact ⟨rest.cons (e.alike _ h.1) same, rfl⟩
theorem locals_alike : ∀ ls ms : List (String × Expr), sameLocals ls ms →
    localsCost ls = localsCost ms ∧ localsLoad ls = localsLoad ms
  | [], ms, h => by
    cases ms <;> simp only [sameLocals, Bool.false_eq_true] at h
    exact ⟨rfl, rfl⟩
  | (n, e) :: ls, ms, h => by
    cases ms with
    | nil => simp only [sameLocals, Bool.false_eq_true] at h
    | cons m ms =>
      obtain ⟨n', e'⟩ := m
      simp only [sameLocals, Bool.and_eq_true, beq_iff_eq] at h
      obtain ⟨⟨name, value⟩, rest⟩ := h
      obtain ⟨cost, load⟩ := locals_alike ls ms rest
      have own := e.alike e' value
      rw [localsCost, localsCost, localsLoad, localsLoad, name, own.cost, own.load, cost, load]
      exact ⟨rfl, rfl⟩
theorem segments_alike : ∀ gs hs : List Segment, sameSegments gs hs → SegmentsAlike gs hs
  | [], hs, h => by
    cases hs <;> simp only [sameSegments, Bool.false_eq_true] at h
    exact .nil
  | g :: gs, hs, h => by
    cases hs <;> simp only [sameSegments, Bool.false_eq_true, Bool.and_eq_true] at h
    exact (segments_alike gs _ h.2).cons (g.alike _ h.1)
end

theorem Path.alike {p q : Path} (h : p.sameAs q) : p.cost = q.cost ∧ p.load = q.load := by
  obtain ⟨gs⟩ := p
  obtain ⟨hs⟩ := q
  have all := segments_alike gs hs h
  refine ⟨?_, all.load⟩
  cases gs with
  | nil =>
    cases hs with
    | nil => rfl
    | cons b bs => cases all.isEmpty
  | cons g gs =>
    cases hs with
    | nil => cases all.isEmpty
    | cons b bs =>
      simp only [sameAs, sameSegments, Bool.and_eq_true] at h
      have first := g.alike b h.1
      have rest := segments_alike gs bs h.2
      simp only [cost, first.cost, first.tail, rest.cost]

end DocPath
