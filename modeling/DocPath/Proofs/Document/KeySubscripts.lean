import DocPath.Proofs.Document.MissingProperty
import DocPath.Proofs.Path.QuotedLookups

/-!
Keys in subscripts against keys after a dot. Both look the key up in the same way, so a question
with one is answered like the question with the other. Only where the path in front leads to a value
without properties, or to a list with one, the field is answered with null and the subscript is
refused.
-/

namespace DocPath

open Reader

theorem Value.field_missing {v : Value} {name : String} {e : EvalError}
    (failed : v.field name = .error e) : e.isMissing :=
  v.field_failsOnly (P := fun e => e.isMissing) (fun _ _ => rfl) name e failed

theorem Failure.atPath_document {f : Failure} (document : f.isOfDocument) (text : String) :
    f.atPath text = f := by
  cases f with
  | document _ => rfl
  | charset _ => rfl
  | _ => cases document

namespace Path

variable {front : Path} {tail : List Segment} {start v : Value} {params : List (String × Value)}
  {key : String} {e : EvalError}

theorem eval_concat (front : Path) (g : Segment) (start : Value) (params : List (String × Value)) :
    Path.eval ⟨front.segments ++ [g]⟩ start params =
      (front.eval start params).bind fun v =>
        (g.eval v (.ofParams params)).mapError fun e => ⟨front.segments.length, g.text, e⟩ := by
  unfold eval
  rw [evalFrom_append]
  refine congrArg _ (funext fun v => ?_)
  simp only [evalFrom, Nat.zero_add]
  cases g.eval v (.ofParams params) <;> rfl

theorem settle_middle (front : Path) (g : Segment) (tail : List Segment) (text : String)
    (start : Value) (params : List (String × Value)) :
    settle ⟨front.segments ++ g :: tail⟩ text
        (Path.eval ⟨front.segments ++ g :: tail⟩ start params) =
      answerBelow ⟨front.segments ++ [g]⟩ ⟨tail⟩ text params start := by
  have joined := @settle_joined ⟨front.segments ++ [g]⟩ ⟨tail⟩ text start params
  rwa [List.append_assoc, List.singleton_append] at joined

theorem settle_field_missing (text : String) (led : front.eval start params = .ok v)
    (failed : v.field key = .error e) :
    settle ⟨front.segments ++ .field key :: tail⟩ text
      (Path.eval ⟨front.segments ++ .field key :: tail⟩ start params) = .ok .null := by
  have missed : (Segment.field key).eval v (.ofParams params) = .error e := failed
  rw [settle_middle, answerBelow, eval_concat, led, Except.bind, missed]
  refine settle_null (Value.field_missing failed) ?_
  simp [Segment.isField]

theorem settle_subscript_missing (text : String) (led : front.eval start params = .ok v)
    (failed : v.field key = .error e) :
    settle ⟨front.segments ++ .index (.key key) :: tail⟩ text
      (Path.eval ⟨front.segments ++ .index (.key key) :: tail⟩ start params) =
        .error (.invalidPath text front.segments.length (Segment.index (.key key)).text e) := by
  have missed : (Segment.index (.key key)).eval v (.ofParams params) = .error e := failed
  rw [settle_middle, answerBelow, eval_concat, led, Except.bind, missed]
  have missing := Value.field_missing failed
  cases e with
  | missingProperty name k => simp [Except.mapError, settle, Segment.isField, Failure.ofQuery]
  | _ => cases missing

theorem settle_lookups (text : String)
    (found : ∀ v e, front.eval start params = .ok v → v.field key ≠ .error e) :
    settle ⟨front.segments ++ .index (.key key) :: tail⟩ text
        (Path.eval ⟨front.segments ++ .index (.key key) :: tail⟩ start params) =
      settle ⟨front.segments ++ .field key :: tail⟩ text
        (Path.eval ⟨front.segments ++ .field key :: tail⟩ start params) := by
  rw [settle_middle, settle_middle, answerBelow, answerBelow, eval_concat, eval_concat]
  cases led : front.eval start params with
  | error e =>
    have inside := evalFrom_index led
    rw [Nat.zero_add] at inside
    have alone (g : Segment) : settle ⟨front.segments ++ [g]⟩ text (.error e) =
        settle front text (.error e) := @settle_root front ⟨[g]⟩ text e inside
    exact (alone _).trans (alone _).symm
  | ok v =>
    cases held : v.field key with
    | error e => exact absurd held (found v e led)
    | ok w =>
      have field : (Segment.field key).eval v (.ofParams params) = .ok w := held
      have subscript : (Segment.index (.key key)).eval v (.ofParams params) = .ok w := held
      simp only [Except.bind, field, subscript, Except.mapError, List.length_append,
        List.length_singleton]

end Path

namespace View

variable {view : View JsonConfig} {d : JsonDocument} {p t t' key : String} {front : Path}
  {tail : List Segment}

theorem ask_refused {Config Document Tree : Type} [Reading Config Document Tree]
    (view : View Config) {f : SyntaxError} (refused : Path.read (view.fullPath p) = .error f)
    (form : Form) (d : Document) :
    (view.ask (.find p form) d).1 = .error (.path (view.fullPath p) f) := by
  unfold ask compile
  simp only [refused]

theorem ask_json {path : Path} (read : Path.read (view.fullPath p) = .ok path) :
    (view.ask (.find p .value) d).1 = (d.tree view.config).1.bind fun root =>
      (settle path (view.fullPath p) (path.eval root view.params)).map .value := by
  rw [view.ask_value read]
  simp only [Reading.tree, Reading.run, Reading.shape, Path.evalBorrowed_eq]

theorem read_lookups (view : View JsonConfig) {path base : Path} {q : Quote} {c : List Char}
    (read : Path.read p = .ok path) (full : trim p ≠ "")
    (whole : Path.read (view.fullPath p) = .ok base) (spelled : Spells q c key.toList)
    (rest : String) :
    Path.ReadAlike (base.beside (view.fullPath p)) key
      (view.fullPath (p ++ String.ofList (dotKey q c) ++ rest))
      (view.fullPath (p ++ String.ofList (subscriptKey q c) ++ rest)) := by
  unfold fullPath at whole ⊢
  exact Path.read_lookups read full whole spelled rest

variable (front)
  (field : Path.read (view.fullPath t) = .ok ⟨front.segments ++ .field key :: tail⟩)
  (subscript : Path.read (view.fullPath t') = .ok ⟨front.segments ++ .index (.key key) :: tail⟩)
include field subscript

theorem ask_missing {root v : Value} {e : EvalError} (tree : (d.tree view.config).1 = .ok root)
    (led : front.eval root view.params = .ok v) (failed : v.field key = .error e) :
    (view.ask (.find t .value) d).1 = .ok (.value .null) ∧
      (view.ask (.find t' .value) d).1 =
        .error (.invalidPath (view.fullPath t') front.segments.length
          (Segment.index (.key key)).text e) := by
  rw [ask_json field, ask_json subscript, tree]
  simp only [Except.bind, Path.settle_field_missing _ led failed,
    Path.settle_subscript_missing _ led failed]
  exact ⟨rfl, rfl⟩

theorem ask_lookups
    (found : ∀ root v e, (d.tree view.config).1 = .ok root → front.eval root view.params = .ok v →
      v.field key ≠ .error e) :
    (view.ask (.find t' .value) d).1 =
      (view.ask (.find t .value) d).1.mapError (Failure.atPath (view.fullPath t')) := by
  rw [ask_json field, ask_json subscript]
  cases tree : (d.tree view.config).1 with
  | error f =>
    have document := LawfulReading.ofDocument view.config d f tree
    exact congrArg Except.error (Failure.atPath_document document _).symm
  | ok root =>
    simp only [Except.bind]
    rw [Path.settle_lookups _ fun v e => found root v e tree, settle_atPath _ _ (view.fullPath t)]
    cases settle ⟨front.segments ++ .field key :: tail⟩ (view.fullPath t)
      (Path.eval ⟨front.segments ++ .field key :: tail⟩ root view.params) <;> rfl

end View

/-- How a handle answers two texts of which one has a field where the other has a subscript with its
key. Either neither is a path; or both lead through the same segments but for these two. Then the
answers are the same value, or the same failure at the same segment, unless the path in front leads
to a value where the lookup fails: there the field is null and the subscript misses a property. -/
inductive View.AnsweredAlike (view : View JsonConfig) (d : JsonDocument) (rs : List Segment)
    (key t t' : String) : Prop
  | refused {f f' : SyntaxError}
      (field : (view.ask (.find t .value) d).1 = .error (.path (view.fullPath t) f))
      (subscript : (view.ask (.find t' .value) d).1 = .error (.path (view.fullPath t') f'))
  | read {tail : List Segment}
      (field : Path.read (view.fullPath t) = .ok ⟨rs ++ .field key :: tail⟩)
      (subscript : Path.read (view.fullPath t') =
        .ok ⟨rs ++ .index (.key key) :: tail⟩)
      (missing : ∀ root v e, (d.tree view.config).1 = .ok root →
        Path.eval ⟨rs⟩ root view.params = .ok v → v.field key = .error e →
        e.isMissing ∧ (view.ask (.find t .value) d).1 = .ok (.value .null) ∧
          (view.ask (.find t' .value) d).1 = .error (.invalidPath (view.fullPath t')
            rs.length (Segment.index (.key key)).text e))
      (found : (∀ root v e, (d.tree view.config).1 = .ok root →
          Path.eval ⟨rs⟩ root view.params = .ok v → v.field key ≠ .error e) →
        (view.ask (.find t' .value) d).1 =
          (view.ask (.find t .value) d).1.mapError (Failure.atPath (view.fullPath t')))

theorem View.answeredAlike {view : View JsonConfig} {rs : List Segment}
    {key t t' : String} (alike : Path.ReadAlike rs key (view.fullPath t) (view.fullPath t'))
    (d : JsonDocument) : view.AnsweredAlike d rs key t t' := by
  rcases alike with ⟨f, f', first, second⟩ | ⟨tail, first, second⟩
  · exact .refused (ask_refused view first _ d) (ask_refused view second _ d)
  · exact .read first second
      (fun root v e tree led failed =>
        ⟨Value.field_missing failed, ask_missing ⟨rs⟩ first second tree led failed⟩)
      (ask_lookups ⟨rs⟩ first second)

/-- A key between quotes, after a dot and in a subscript, behind a path that is not blank and in
front of any text: the two are read alike, and answered alike wherever the lookup of the key does
not fail. -/
theorem key_subscript_answers (view : View JsonConfig) (d : JsonDocument) {p key : String}
    {path base : Path} {q : Quote} {c : List Char} (read : Path.read p = .ok path)
    (full : trim p ≠ "") (whole : Path.read (view.fullPath p) = .ok base)
    (spelled : Spells q c key.toList) (rest : String) :
    view.AnsweredAlike d (base.beside (view.fullPath p)) key
      (p ++ String.ofList (dotKey q c) ++ rest)
      (p ++ String.ofList (subscriptKey q c) ++ rest) :=
  View.answeredAlike (view.read_lookups read full whole spelled rest) d

/-- A key of a truth value: null after a dot, and refused in a subscript. -/
theorem key_subscript_answers_truth :
    let view : View JsonConfig := ⟨{}, "", []⟩
    let d : JsonDocument := ⟨.text "\x7b\"a\": true\x7d", "UTF-8", none, []⟩
    let dotted := "a" ++ String.ofList (dotKey .single ['k']) ++ ""
    let bracketed := "a" ++ String.ofList (subscriptKey .single ['k']) ++ ""
    Path.read "a" = .ok ⟨[.field "a"]⟩ ∧ trim "a" ≠ "" ∧
      Path.read (view.fullPath "a") = .ok ⟨[.field "a"]⟩ ∧ Spells .single ['k'] "k".toList ∧
      view.AnsweredAlike d [.field "a"] "k" dotted bracketed ∧
      (view.ask (.find dotted .value) d).1 = .ok (.value .null) ∧
      (view.ask (.find bracketed .value) d).1 = .error (.invalidPath (view.fullPath bracketed) 1
        (Segment.index (.key "k")).text (.missingProperty "k" .boolean)) := by
  intro view d dotted bracketed
  have read : Path.read "a" = .ok ⟨[.field "a"]⟩ := rfl
  have full : trim "a" ≠ "" := by decide
  have whole : Path.read (view.fullPath "a") = .ok ⟨[.field "a"]⟩ := by
    rw [View.fullPath, joinRootPath, Path.read, String.toList_ofList]
    rfl
  have field : Path.read (view.fullPath dotted) = .ok ⟨[.field "a", .field "k"]⟩ := by
    rw [View.fullPath, joinRootPath, Path.read, String.toList_ofList, String.toList_append,
      String.toList_append, String.toList_ofList]
    rfl
  have spelled : Spells .single ['k'] "k".toList := .cons (.plain (by decide) (by decide)) .nil
  have tree : (d.tree view.config).1 = .ok (.map [("a", .bool true)]) := rfl
  have alike := key_subscript_answers view d read full whole spelled ""
  rw [Path.beside_segments whole (List.cons_ne_nil _ _)] at alike
  refine ⟨read, full, whole, spelled, alike, ?_⟩
  cases alike with
  | refused refused _ =>
    rw [View.ask_json field, tree] at refused
    cases refused
  | read _ _ missing _ => exact (missing _ (.bool true) _ tree rfl rfl).2

end DocPath
