import DocPath.Proofs.Eval.Searching

/-!
A spread segment against `collect` with a closure that applies the segment to its argument. Both
apply the segment to the items of a value in order. A property that an item does not have ends the
spread; inside of the closure it makes the result for that item null.
-/

namespace DocPath

/-- A list of computations stops with a failure, after some results and before the rest. -/
def StopsAt {ε α β : Type} (f : α → Except ε β) (as : List α) (e : ε) (done : List β)
    (rest : List α) : Prop :=
  ∃ front a, as = front ++ a :: rest ∧ front.mapM f = .ok done ∧ f a = .error e

section
variable {ε α β : Type} {f : α → Except ε β} {as front rest : List α} {done : List β} {e : ε}

theorem mapM_behind (first : front.mapM f = .ok done) (rest : List α) :
    (front ++ rest).mapM f = (rest.mapM f).map (done ++ ·) := by
  rw [List.mapM_append, first]
  cases rest.mapM f <;> rfl

theorem mapM_eq_error_iff : as.mapM f = .error e ↔ ∃ done rest, StopsAt f as e done rest := by
  constructor
  · induction as with
    | nil => exact fun failed => nomatch failed
    | cons a as ih =>
      intro failed
      rw [List.mapM_cons] at failed
      cases first : f a with
      | error e' =>
        rw [first] at failed
        cases failed
        exact ⟨[], as, [], a, rfl, rfl, first⟩
      | ok b =>
        rw [first] at failed
        cases more : as.mapM f with
        | ok bs =>
          rw [more] at failed
          cases failed
        | error e' =>
          rw [more] at failed
          cases failed
          obtain ⟨done, rest, front, c, rfl, before, stop⟩ := ih more
          refine ⟨b :: done, rest, a :: front, c, rfl, ?_, stop⟩
          rw [List.mapM_cons, first, before]
          rfl
  · rintro ⟨done, rest, front, a, rfl, before, stop⟩
    rw [mapM_behind before, List.mapM_cons, stop]
    rfl

end

def missingAsNull : Eval Value → Eval Value
  | .error (.missingProperty ..) => .ok .null
  | r => r

theorem missingAsNull_of_other {r : Eval Value} (other : ∀ n k, r ≠ .error (.missingProperty n k)) :
    missingAsNull r = r := by
  unfold missingAsNull
  split
  · next n k => exact absurd rfl (other n k)
  · rfl

theorem mapM_missingAsNull {f : Value → Eval Value} {vs : List Value}
    (other : ∀ n k, vs.mapM f ≠ .error (.missingProperty n k)) :
    vs.mapM (fun v => missingAsNull (f v)) = vs.mapM f := by
  induction vs with
  | nil => rfl
  | cons v vs ih =>
    rw [List.mapM_cons] at other
    rw [List.mapM_cons, List.mapM_cons]
    cases first : f v with
    | error e =>
      rw [first] at other
      have kept : missingAsNull (.error e) = .error e := by
        refine missingAsNull_of_other fun n k same => ?_
        cases same
        exact other n k rfl
      rw [kept]
      rfl
    | ok w =>
      rw [first] at other
      have more : ∀ n k, vs.mapM f ≠ .error (.missingProperty n k) := by
        intro n k failed
        refine other n k ?_
        rw [failed]
        rfl
      rw [ih more]
      rfl

/-- The closure of the implicit parameter followed by a segment. -/
def Closure.ofSegment (g : Segment) : Closure := .mk [] [] (.path (.ident "it") [g])

section
variable {g : Segment} {s : Scope} {v : Value}

theorem Closure.call_ofSegment (free : "it" ∉ g.free) (v : Value) (s : Scope) :
    (ofSegment g).call [v] s = missingAsNull (g.eval v s) := by
  have hidden : Scope.Agree g.free (s.bind "it" v) s := by
    intro x mem
    have other : x ≠ "it" := fun same => free (same ▸ mem)
    rw [Scope.lookup_bind, if_neg other]
  have given : (s.bind "it" v).lookup "it" = .ok v := s.lookup_bind_self "it" v
  have applied : evalSegments [g] v (s.bind "it" v) = g.eval v s := by
    rw [evalSegments, g.eval_agree v hidden]
    cases g.eval v s <;> rfl
  show Expr.eval (.path (.ident "it") [g]) (s.bind "it" v) = _
  simp only [Expr.eval, given, bind, Except.bind, applied]
  rfl

theorem Segment.eval_spread :
    (Segment.spread g).eval v s = (v.items.mapM fun i => g.eval i s).map .list := by
  rw [Segment.eval]

theorem collect_ofSegment (free : "it" ∉ g.free) (present : v ≠ .null) (other : v.kind ≠ .map) :
    Method.collect.callWith (some (.ofSegment g)) v s =
      (v.items.mapM fun i => missingAsNull (g.eval i s)).map .list := by
  have call : (fun i => (Closure.ofSegment g).call [i] s) =
      fun i => missingAsNull (g.eval i s) :=
    funext fun i => Closure.call_ofSegment free i s
  rw [Method.callWith_closure (f := Method.collectIn) (fun _ _ => rfl) _ present]
  cases v with
  | map m => exact absurd rfl other
  | _ =>
    rw [← call]
    rfl

end

/-- Applying a segment to every item of a value gives what `collect` gives with the closure of `it`
followed by the segment, the same list or the same failure, unless the segment misses a property at
an item to which both come. There the spread fails, while `collect` puts null in the place of that
item and goes on with the items behind it. -/
theorem spread_is_collect (g : Segment) (free : "it" ∉ g.free) (s : Scope) (v : Value)
    (present : v ≠ .null) (other : v.kind ≠ .map) :
    let spread := (Segment.spread g).eval v s
    let collect := fun v => Method.collect.callWith (some (.ofSegment g)) v s
    ((∀ n k, spread ≠ .error (.missingProperty n k)) → collect v = spread) ∧
    (∀ n k, spread = .error (.missingProperty n k) ↔
      ∃ done rest, StopsAt (fun i => g.eval i s) v.items (.missingProperty n k) done rest) ∧
    ∀ n k done rest, StopsAt (fun i => g.eval i s) v.items (.missingProperty n k) done rest →
      collect v = (collect (.list rest)).map fun more => .list (done ++ .null :: more.items) := by
  intro spread collect
  have spread_eq : spread = (v.items.mapM fun i => g.eval i s).map .list := Segment.eval_spread
  have collect_eq {w : Value} (present : w ≠ .null) (other : w.kind ≠ .map) :
      collect w = (w.items.mapM fun i => missingAsNull (g.eval i s)).map .list :=
    collect_ofSegment free present other
  have failed_iff (e : EvalError) :
      spread = .error e ↔ (v.items.mapM fun i => g.eval i s) = .error e := by
    rw [spread_eq]
    cases v.items.mapM fun i => g.eval i s <;> simp [Except.map]
  refine ⟨fun never => ?_, fun n k => ?_, ?_⟩
  · rw [collect_eq present other, spread_eq]
    refine congrArg _ (mapM_missingAsNull fun n k failed => ?_)
    exact never n k ((failed_iff _).mpr failed)
  · rw [failed_iff, mapM_eq_error_iff]
  · rintro n k done rest ⟨front, i, split, before, stop⟩
    have kept : (front.mapM fun i => missingAsNull (g.eval i s)) = .ok done := by
      rw [mapM_missingAsNull (by simp [before]), before]
    have null : missingAsNull (g.eval i s) = .ok .null := congrArg missingAsNull stop
    rw [collect_eq present other, collect_eq (w := .list rest) nofun nofun, split,
      mapM_behind kept, List.mapM_cons, null, Value.items]
    cases rest.mapM fun i => missingAsNull (g.eval i s) <;> rfl

/-- A field of a map, a number and null: the number has no fields. -/
theorem spread_is_collect_number :
    let g : Segment := .field "a"
    let v : Value := .list [.map [("a", .bool true)], .number (.int 1), .null]
    let s : Scope := .ofParams [("it", .bool false)]
    ("it" ∉ g.free ∧ v ≠ .null ∧ v.kind ≠ .map) ∧
      (Segment.spread g).eval v s = .error (.missingProperty "a" .number) ∧
      Method.collect.callWith (some (.ofSegment g)) v s =
        .ok (.list [.bool true, .null, .null]) := by
  intro g v s
  have free : "it" ∉ g.free := by simp [g, Segment.free]
  have stop : StopsAt (fun i => g.eval i s) v.items (.missingProperty "a" .number) [.bool true]
      [.null] := ⟨[.map [("a", .bool true)]], .number (.int 1), rfl, rfl, rfl⟩
  obtain ⟨-, fails, goes⟩ := spread_is_collect g free s v nofun nofun
  exact ⟨⟨free, nofun, nofun⟩, (fails _ _).mpr ⟨_, _, stop⟩, goes _ _ _ _ stop⟩

end DocPath
