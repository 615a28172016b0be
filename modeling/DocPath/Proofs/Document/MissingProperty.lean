import DocPath.Proofs.Document.Answers
import DocPath.Proofs.Document.RootPath
import DocPath.Proofs.Eval.Parts

/-!
Where a missing property shows. It never leaves an expression, so a path misses one only at a
segment that looks a key up itself; and where that segment is a field of the path, the answer to a
question is null.
-/

namespace DocPath

namespace EvalError

def isMissing : EvalError → Bool
  | .missingProperty .. => true
  | _ => false

/-- Failures other than a missing property. -/
def IsOther (e : EvalError) : Prop := e.isMissing = false

theorem Ordinary.isOther {e : EvalError} (h : e.Ordinary) : e.IsOther := by
  cases h <;> rfl

end EvalError

theorem permits_isOther (xs : List Part) : Permits EvalError.IsOther xs :=
  permits_of (P := EvalError.IsOther) (fun _ => rfl) rfl xs

theorem Scope.permits_isOther (names : List String) (s : Scope) :
    s.Permits EvalError.IsOther names :=
  permits_of (P := EvalError.IsOther) fun _ _ _ => rfl

theorem Expr.eval_isOther (e : Expr) (s : Scope) : FailsOnly EvalError.IsOther (e.eval s) :=
  e.eval_failsOnly (fun _ => EvalError.Ordinary.isOther) (permits_isOther _)
    (s.permits_isOther _)

theorem Closure.call_isOther (c : Closure) (vs : List Value) (s : Scope) :
    FailsOnly EvalError.IsOther (c.call vs s) :=
  c.call_failsOnly (fun _ => EvalError.Ordinary.isOther) vs (permits_isOther _)
    (s.permits_isOther _)

theorem evalArguments_isOther (es : List Expr) (s : Scope) :
    Meets EvalError.IsOther (fun as => ∀ c, .closure c ∈ as → c.FailsOnly EvalError.IsOther)
      (evalArguments es s) :=
  evalArguments_meets (fun _ => EvalError.Ordinary.isOther) es (permits_isOther _)
    (s.permits_isOther _)

theorem Path.eval_missing {p : Path} {root : Value} {params : List (String × Value)}
    {e : QueryError} (failed : p.eval root params = .error e) (missing : e.source.isMissing) :
    ∃ g, p.segments[e.index]? = some g ∧ g.looksUp := by
  obtain ⟨i, g, found, place, -, blames⟩ := evalFrom_blames (P := EvalError.IsOther)
    (fun _ => EvalError.Ordinary.isOther) p.segments 0 root (permits_isOther _)
    (Scope.permits_isOther _ _) failed
  rw [Nat.zero_add] at place
  rcases blames with other | ⟨looksUp, -⟩
  · rw [EvalError.IsOther, missing] at other
    cases other
  · exact ⟨g, place ▸ found, looksUp⟩

theorem settle_null {p : Path} {text : String} {e : QueryError} (missing : e.source.isMissing)
    (field : (p.segments[e.index]?).any Segment.isField) :
    settle p text (.error e) = .ok .null := by
  obtain ⟨index, segment, source⟩ := e
  cases source with
  | missingProperty name k => simp only [settle, field, if_true]
  | _ => cases missing

theorem settle_missing {p : Path} {text text' : String} {r : Except QueryError Value} {i : Nat}
    {segment name : String} {k : Kind}
    (failed : settle p text r = .error (.invalidPath text' i segment (.missingProperty name k))) :
    r = .error ⟨i, segment, .missingProperty name k⟩ ∧
      (p.segments[i]?).any Segment.isField = false := by
  cases r with
  | ok v => cases failed
  | error e =>
    obtain ⟨index, seg, source⟩ := e
    cases source with
    | missingProperty name k =>
      simp only [settle] at failed
      split at failed
      · cases failed
      · next other =>
        cases failed
        exact ⟨rfl, by simpa using other⟩
    | _ => cases failed

namespace View

variable {Config Document Tree : Type} [Reading Config Document Tree]
  [LawfulReading Config Document Tree]

/-- The value at a path is null where one of its fields misses a property; any other missing
property is named with a segment that looks a key up and is no field. -/
structure NullAtFields (view : View Config) (path : String) (d : Document) : Prop where
  null : ∀ p root e, Path.read (view.fullPath path) = .ok p →
    (Reading.tree view.config d).1 = .ok root →
    p.eval (LawfulReading.start Config p root) view.params = .error e → e.source.isMissing →
    (p.segments[e.index]?).any Segment.isField →
    (view.ask (.find path .value) d).1 = .ok (.value .null)
  named : ∀ text i segment name k,
    (view.ask (.find path .value) d).1 =
      .error (.invalidPath text i segment (.missingProperty name k)) →
    ∃ p g, Path.read (view.fullPath path) = .ok p ∧ p.segments[i]? = some g ∧ g.looksUp ∧
      g.isField = false

theorem nullAtFields (view : View Config) (path : String) (d : Document) :
    view.NullAtFields path d where
  null p root e read tree failed missing field := by
    rw [view.ask_value read d, tree]
    simp only [Except.bind, LawfulReading.run_eq, failed, settle_null missing field, Except.map,
      LawfulReading.shape_null]
  named text i segment name k failed := by
    obtain ⟨e, same⟩ | other | ⟨p, root, read, -, settled | ⟨v, -, given⟩⟩ := ask_failure failed
    · cases same
    · cases other
    · obtain ⟨evaluated, notField⟩ := settle_missing settled
      obtain ⟨g, found, looksUp⟩ := Path.eval_missing evaluated rfl
      rw [found] at notField
      exact ⟨p, g, read, found, looksUp, notField⟩
    · cases given

end View

theorem FailsOnly.ne_missing {α : Type} {r : Eval α} (h : FailsOnly EvalError.IsOther r)
    (name : String) (k : Kind) : r ≠ .error (.missingProperty name k) := by
  intro failed
  cases h _ failed

/-- No expression, closure or argument fails with a missing property. So a path misses one only at
a key, a subscript with a key or a call of `get` or `getAt`, of a value or of every item; and the
value at a path is null where one of its fields, alone or spread, misses a property, in documents
of both kinds. -/
theorem missing_property_stays_at_lookups :
    (∀ (e : Expr) (s : Scope) (name : String) (k : Kind),
      e.eval s ≠ .error (.missingProperty name k)) ∧
    (∀ (c : Closure) (vs : List Value) (s : Scope) (name : String) (k : Kind),
      c.call vs s ≠ .error (.missingProperty name k)) ∧
    (∀ (es : List Expr) (s : Scope) (name : String) (k : Kind),
      evalArguments es s ≠ .error (.missingProperty name k) ∧
      ∀ as c vs, evalArguments es s = .ok as → .closure c ∈ as →
        c.call vs ≠ .error (.missingProperty name k)) ∧
    (∀ (p : Path) (root : Value) (params : List (String × Value)) (e : QueryError),
      p.eval root params = .error e → e.source.isMissing →
      ∃ g, p.segments[e.index]? = some g ∧ g.looksUp) ∧
    (∀ (view : View JsonConfig) (path : String) (d : JsonDocument), view.NullAtFields path d) ∧
    ∀ (view : View XmlConfig) (path : String) (d : MarkupDocument), view.NullAtFields path d := by
  refine ⟨fun e s => (e.eval_isOther s).ne_missing, fun c vs s => (c.call_isOther vs s).ne_missing,
    fun es s name k => ?_, fun p root params e => Path.eval_missing, View.nullAtFields,
    View.nullAtFields⟩
  have ⟨fails, calls⟩ := evalArguments_isOther es s
  exact ⟨fails.ne_missing name k, fun as c vs evaluated mem =>
    (calls as evaluated c mem vs).ne_missing name k⟩

/-- A call of `get` is named, and a field behind a subscript reads as null. -/
theorem missing_property_stays_at_lookups_call :
    (∃ e, (Path.mk [.call "get" [.literal (.string "c")]]).eval (.bool true) [] = .error e ∧
      e.source.isMissing ∧ ∃ g, (Path.mk [.call "get" [.literal (.string "c")]]).segments[e.index]? =
        some g ∧ g.looksUp) ∧
    (View.ask ⟨({} : JsonConfig), "", []⟩ (.find "[0].c" .value)
      (JsonDocument.mk (.text "[true]") "UTF-8" none [])).1 = .ok (.value .null) := by
  have failed : (Path.mk [.call "get" [.literal (.string "c")]]).eval (.bool true) [] =
      .error ⟨0, "get('c')", .missingProperty "c" .boolean⟩ := rfl
  have ⟨_, _, _, located, json, _⟩ := missing_property_stays_at_lookups
  refine ⟨⟨_, failed, rfl, located _ _ _ _ failed rfl⟩, ?_⟩
  exact (json ⟨({} : JsonConfig), "", []⟩ "[0].c"
    (JsonDocument.mk (.text "[true]") "UTF-8" none [])).null
      ⟨[.index (.single 0), .field "c"]⟩ (.list [.bool true])
      ⟨1, "c", .missingProperty "c" .boolean⟩ rfl rfl rfl rfl rfl

end DocPath
