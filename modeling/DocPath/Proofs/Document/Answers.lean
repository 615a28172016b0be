import DocPath.Document.Json
import DocPath.Document.Markup
import DocPath.Proofs.Eval.Direct

/-!
How answers fail. A question with a path fails for its text, for the document, at a segment of the
path, or because the value at the path does not have the form that was asked for.
-/

namespace DocPath

namespace Failure

def isOfDocument : Failure → Bool
  | .document _ | .charset _ => true
  | _ => false

def isOfForm : Failure → Bool
  | .notFound _ | .coercion .. | .object _ => true
  | _ => false

end Failure

/-- Readings whose questions evaluate the path on a value of the tree. -/
class LawfulReading (Config : Type) (Document Tree : outParam Type)
    [Reading Config Document Tree] where
  /-- The value that a path starts from. -/
  start : Path → Tree → Value
  run_eq : ∀ p text params root,
    Reading.run Config p text params root = settle p text (p.eval (start p root) params)
  shape_null : ∀ p, Reading.shape Config p .null = .null
  ofDocument : ∀ (config : Config) d f, (Reading.tree config d).1 = .error f → f.isOfDocument

namespace Source

theorem decode_failure {label : String} {source : Source} {f : Failure}
    (failed : source.decode label = .error f) : f.isOfDocument := by
  cases source with
  | text s => cases failed
  | bytes bs =>
    unfold decode at failed
    dsimp only at failed
    split at failed <;> cases failed
    rfl

end Source

theorem JsonDocument.parse_failure {charset : String} {source : Source} {f : Failure}
    (failed : parse charset source = .error f) : f.isOfDocument := by
  unfold parse at failed
  cases decoded : source.decode charset with
  | error e =>
    rw [decoded] at failed
    cases failed
    exact Source.decode_failure decoded
  | ok text =>
    rw [decoded] at failed
    simp only [bind, Except.bind] at failed
    split at failed <;> cases failed
    rfl

theorem MarkupDocument.parse_failure {mode : MarkupMode} {doctype : Bool} {text : String}
    {f : Failure} (failed : parse mode doctype text = .error f) : f.isOfDocument := by
  unfold parse at failed
  split at failed
  all_goals
    split at failed <;> cases failed
    rfl

instance : LawfulReading JsonConfig JsonDocument Value where
  start _ v := v
  run_eq p text params root :=
    congrArg (settle p text) (Path.evalBorrowed_eq p root params)
  shape_null _ := rfl
  ofDocument config d f failed := by
    simp only [Reading.tree, JsonDocument.tree, JsonDocument.read] at failed
    split at failed
    · cases failed
    · next e d' h =>
      cases failed
      split at h
      · cases h
      · split at h
        · cases h
        · next parsed =>
          cases h
          exact JsonDocument.parse_failure parsed

instance : LawfulReading XmlConfig MarkupDocument Element where
  start := startOf
  run_eq _ _ _ _ := rfl
  shape_null _ := rfl
  ofDocument config d f failed := by
    simp only [Reading.tree, MarkupDocument.root] at failed
    split at failed
    · cases failed
    · split at failed
      · cases failed
      · next e h =>
        cases failed
        cases decoded : d.source.decode d.charset with
        | error e =>
          rw [decoded] at h
          cases h
          exact Source.decode_failure decoded
        | ok text =>
          rw [decoded] at h
          exact MarkupDocument.parse_failure h

theorem coerce_failure {t : Target} {text : String} {v : Value} {f : Failure}
    (failed : coerce t text v = .error f) : f.isOfForm := by
  unfold coerce at failed
  split at failed
  · cases failed
    rfl
  · split at failed <;> cases failed
    rfl

theorem coerceElement_failure {text : String} {v : Value} {f : Failure}
    (failed : coerceElement text v = .error f) : f.isOfForm := by
  unfold coerceElement at failed
  split at failed
  · cases failed
    rfl
  · split at failed <;> cases failed
    rfl

theorem toObject_failure {mapper : ObjectMapper} {s : Shape} {text : String} {v : Value}
    {f : Failure} (failed : toObject mapper s text v = .error f) : f.isOfForm := by
  unfold toObject at failed
  split at failed <;> cases failed
  rfl

theorem error_of_map {α β ε : Type} {r : Except ε α} {f : α → β} {e : ε}
    (failed : r.map f = .error e) : r = .error e := by
  cases r with
  | ok a => cases failed
  | error e' =>
    cases failed
    rfl

theorem Form.give_failure {Config Document Tree : Type} [Reading Config Document Tree]
    {form : Form} {config : Config} {p : Path} {text : String} {v : Value} {f : Failure}
    (failed : form.give config p text v = .error f) :
    f.isOfForm ∨ ∃ below e, form = .relative below ∧ Element.path e below = .error f := by
  cases form with
  | value => cases failed
  | typed t => exact .inl (coerce_failure (error_of_map failed))
  | object s => exact .inl (toObject_failure (error_of_map failed))
  | node => exact .inl (coerceElement_failure (error_of_map failed))
  | children => exact .inl (coerce_failure (error_of_map failed))
  | relative below =>
    simp only [give] at failed
    cases element : coerceElement text v with
    | error f' =>
      rw [element] at failed
      cases failed
      exact .inl (coerceElement_failure element)
    | ok e =>
      rw [element] at failed
      exact .inr ⟨below, e, rfl, error_of_map failed⟩

namespace View

variable {Config Document Tree : Type} [Reading Config Document Tree]
  [LawfulReading Config Document Tree]

theorem ask_failure {view : View Config} {path : String} {form : Form} {d : Document} {f : Failure}
    (failed : (view.ask (.find path form) d).1 = .error f) :
    (∃ e, f = .path (view.fullPath path) e) ∨ f.isOfDocument ∨
      ∃ p root, Path.read (view.fullPath path) = .ok p ∧
        (Reading.tree view.config d).1 = .ok root ∧
        let r := settle p (view.fullPath path)
          (p.eval (LawfulReading.start Config p root) view.params)
        r = .error f ∨ ∃ v, r = .ok v ∧ form.give view.config p (view.fullPath path) v = .error f := by
  unfold ask compile at failed
  cases read : Path.read (view.fullPath path) with
  | error e =>
    simp only [read] at failed
    cases failed
    exact .inl ⟨e, rfl⟩
  | ok p =>
    simp only [read, find] at failed
    cases tree : Reading.tree view.config d with
    | mk root d' =>
      cases root with
      | error e =>
        simp only [tree] at failed
        cases failed
        exact .inr (.inl (LawfulReading.ofDocument view.config d f (by rw [tree])))
      | ok root =>
        refine .inr (.inr ⟨p, root, rfl, rfl, ?_⟩)
        simp only [tree, LawfulReading.run_eq] at failed
        cases settled : settle p (view.fullPath path)
            (p.eval (LawfulReading.start Config p root) view.params) with
        | error e =>
          simp only [settled] at failed
          cases failed
          exact .inl rfl
        | ok v =>
          simp only [settled] at failed
          exact .inr ⟨v, rfl, failed⟩

end View

end DocPath
