import DocPath.Proofs.Document.Answers
import DocPath.Proofs.Document.RootPath
import DocPath.Proofs.Eval.Parts

/-!
Which names an evaluation can miss: only those that are free in the path and are not supplied. So
no answer misses a name once every free name of its path is supplied.
-/

namespace DocPath

/-- A name that is missed is one of some names, and parameters do not supply it. -/
def EvalError.MissesOnly (names : List String) (params : List (String × Value))
    (e : EvalError) : Prop :=
  ∀ n, e = .undefinedParameter n → n ∈ names ∧ params.lookup n = none

theorem EvalError.Ordinary.missesOnly {names : List String} {params : List (String × Value)}
    {e : EvalError} (h : e.Ordinary) : e.MissesOnly names params := by
  rintro n rfl
  cases h

theorem Path.eval_misses {p : Path} {root : Value} {params : List (String × Value)}
    {e : QueryError} (failed : p.eval root params = .error e) :
    e.source.MissesOnly p.free params := by
  have unbound : (Scope.ofParams params).Permits (EvalError.MissesOnly p.free params) p.free := by
    refine Scope.permits_of fun x free missing n same => ?_
    cases same
    exact ⟨free, by simpa [Scope.get?, Scope.ofParams] using missing⟩
  have other : DocPath.Permits (EvalError.MissesOnly p.free params) (partsOfSegments p.segments) :=
    permits_of (by rintro name n ⟨⟩) (by rintro n ⟨⟩) _
  obtain ⟨i, g, -, -, -, misses | ⟨-, name, k, missing⟩⟩ :=
    evalFrom_blames (fun _ => EvalError.Ordinary.missesOnly) p.segments 0 root other unbound failed
  · exact misses
  · rw [missing]
    rintro n ⟨⟩

theorem Failure.ofQuery_undefined {text n : String} {e : QueryError}
    (h : ofQuery text e = .undefinedParameter n) : e.source = .undefinedParameter n := by
  obtain ⟨index, segment, source⟩ := e
  cases source <;> cases h
  rfl

theorem settle_undefined {p : Path} {text n : String} {r : Except QueryError Value}
    (failed : settle p text r = .error (.undefinedParameter n)) :
    ∃ e, r = .error e ∧ e.source = .undefinedParameter n := by
  cases r with
  | ok v => cases failed
  | error e =>
    refine ⟨e, rfl, ?_⟩
    simp only [settle] at failed
    split at failed
    · split at failed
      · cases failed
      · exact Failure.ofQuery_undefined (Except.error.inj failed)
    · exact Failure.ofQuery_undefined (Except.error.inj failed)

theorem Element.path_undefined {e : Element} {text n : String}
    (failed : e.path text = .error (.undefinedParameter n)) :
    ∃ p, Path.read text = .ok p ∧ n ∈ p.free := by
  unfold Element.path compile at failed
  cases read : Path.read text with
  | error e =>
    rw [read] at failed
    cases failed
  | ok p =>
    simp only [read, bind, Except.bind] at failed
    split at failed
    · next settled =>
      cases failed
      obtain ⟨e, evaluated, source⟩ := settle_undefined settled
      exact ⟨p, rfl, (Path.eval_misses evaluated n source).1⟩
    · cases failed

theorem Form.give_undefined {Config Document Tree : Type} [Reading Config Document Tree]
    {form : Form} {config : Config} {p : Path} {text n : String} {v : Value}
    (failed : form.give config p text v = .error (.undefinedParameter n)) :
    ∃ below q, form = .relative below ∧ Path.read below = .ok q ∧ n ∈ q.free := by
  obtain other | ⟨below, e, relative, refused⟩ := give_failure failed
  · cases other
  · obtain ⟨q, read, free⟩ := Element.path_undefined refused
    exact ⟨below, q, relative, read, free⟩

namespace View

variable {Config Document Tree : Type} [Reading Config Document Tree]
  [LawfulReading Config Document Tree]

/-- A name that an answer misses is free in its path and not supplied, or is free in a path that
starts from the element that was found. -/
def MissesUnbound (view : View Config) (d : Document) : Prop :=
  ∀ path form n, (view.ask (.find path form) d).1 = .error (.undefinedParameter n) →
    (∃ p, Path.read (view.fullPath path) = .ok p ∧ n ∈ p.free ∧ view.params.lookup n = none) ∨
    ∃ below q, form = .relative below ∧ Path.read below = .ok q ∧ n ∈ q.free

theorem missesUnbound (view : View Config) (d : Document) : view.MissesUnbound d := by
  intro path form n failed
  obtain ⟨e, same⟩ | other | ⟨p, root, read, -, settled | ⟨v, -, given⟩⟩ := ask_failure failed
  · cases same
  · cases other
  · obtain ⟨e, evaluated, source⟩ := settle_undefined settled
    exact .inl ⟨p, read, Path.eval_misses evaluated n source⟩
  · exact .inr (Form.give_undefined given)

end View

theorem lookup_withEntries {entries params : List (String × Value)} {x : String}
    (supplied : x ∈ entries.map Prod.fst ∨ (params.lookup x).isSome) :
    ((withEntries params entries).lookup x).isSome := by
  induction entries generalizing params with
  | nil => simpa [withEntries] using supplied
  | cons p entries ih =>
    show ((withEntries (insertEntry p.1 p.2 params) entries).lookup x).isSome
    apply ih
    simp only [List.map_cons, List.mem_cons] at supplied
    rw [lookup_insertEntry]
    by_cases same : x = p.1
    · exact .inr (by simp [same])
    · simpa [same] using supplied

namespace Session

variable {Config Document Tree : Type} [Reading Config Document Tree]

theorem run_params {s : Session Config Document} {on : String} {h : Handle Config} {d : Document}
    (handle : s.handle? on = some h) (document : s.document? h = some d) (into : String)
    (entries : List (String × Value)) (q : Question) :
    (s.run [.params on into entries, .ask into q]).1 =
      [some (.ok .done), some (View.ask ⟨(s.view h).config, h.rootPath,
        withEntries h.params entries⟩ q d).1] := by
  have kept : (s.put into { h with params := withEntries h.params entries }).document?
      { h with params := withEntries h.params entries } = some d := document
  simp only [run, step_params handle document]
  rw [reply_ask (s.handle?_put into _) kept]
  rfl

variable [LawfulReading Config Document Tree]

/-- A handle that was given all free names of a path answers without missing one. -/
def SuppliesFree (s : Session Config Document) : Prop :=
  ∀ on into h d entries path, s.handle? on = some h → s.document? h = some d →
    (∀ p, Path.read (joinRootPath h.rootPath path) = .ok p →
      ∀ x ∈ p.free, x ∈ entries.map Prod.fst ∨ (h.params.lookup x).isSome) →
    ∀ n, (s.run [.params on into entries, .ask into (.find path .value)]).1 ≠
      [some (.ok .done), some (.error (.undefinedParameter n))]

theorem suppliesFree (s : Session Config Document) : s.SuppliesFree := by
  intro on into h d entries path handle document supplied n missed
  rw [s.run_params handle document] at missed
  have failed := Option.some.inj (List.cons.inj (List.cons.inj missed).2).1
  obtain ⟨p, read, free, unbound⟩ | ⟨below, q, relative, -⟩ := View.missesUnbound _ d path _ n failed
  · have found := lookup_withEntries (supplied p read n free)
    rw [unbound] at found
    cases found
  · cases relative

end Session

/-- A path misses only names that are free in it and not supplied, whatever it is evaluated on. So
a handle on a document of either kind never misses a name once it was given all free names of the
path as parameters. -/
theorem undefined_parameter_is_free :
    (∀ (p : Path) (root : Value) (params : List (String × Value)) (e : QueryError) (n : String),
      p.eval root params = .error e ∨ p.evalBorrowed root params = .error e →
      e.source = .undefinedParameter n → n ∈ p.free ∧ params.lookup n = none) ∧
    (∀ (view : View JsonConfig) (d : JsonDocument), view.MissesUnbound d) ∧
    (∀ (view : View XmlConfig) (d : MarkupDocument), view.MissesUnbound d) ∧
    (∀ s : Session JsonConfig JsonDocument, s.SuppliesFree) ∧
    ∀ s : Session XmlConfig MarkupDocument, s.SuppliesFree := by
  refine ⟨fun p root params e n failed source => ?_, View.missesUnbound, View.missesUnbound,
    Session.suppliesFree, Session.suppliesFree⟩
  rw [Path.evalBorrowed_eq, or_self] at failed
  exact Path.eval_misses failed n source

/-- A name inside a closure that binds another one. -/
theorem undefined_parameter_is_free_closure :
    ∃ e, (Path.mk [.call "find" [.closure (.mk ["x"] [("y", .ident "x")]
        (.binary .eq (.ident "y") (.ident "z")))]]).eval (.list [.null]) [("x", .null)] = .error e ∧
      e.source = .undefinedParameter "z" ∧
      "z" ∈ (Path.mk [.call "find" [.closure (.mk ["x"] [("y", .ident "x")]
        (.binary .eq (.ident "y") (.ident "z")))]]).free ∧
      [("x", Value.null)].lookup "z" = none := by
  have failed : (Path.mk [.call "find" [.closure (.mk ["x"] [("y", .ident "x")]
      (.binary .eq (.ident "y") (.ident "z")))]]).eval (.list [.null]) [("x", .null)] =
      .error ⟨0, _, .undefinedParameter "z"⟩ := rfl
  exact ⟨_, failed, rfl, undefined_parameter_is_free.1 _ _ _ _ _ (.inl failed) rfl⟩

end DocPath
