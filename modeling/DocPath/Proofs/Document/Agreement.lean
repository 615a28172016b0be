import DocPath.Document.Json
import DocPath.Proofs.Document.Steps
import DocPath.Proofs.Eval.Direct

/-!
Two ways to ask a document in JSON: a handle follows the leading keys and indices of a path
directly, and a document that was read already evaluates the path as it is. They give the same
value, or the same failure up to the path text that it names.
-/

namespace DocPath

def Failure.atPath (text : String) : Failure → Failure
  | .path _ source => .path text source
  | .invalidPath _ index segment reason => .invalidPath text index segment reason
  | .notFound _ => .notFound text
  | .coercion _ source => .coercion text source
  | .object _ => .object text
  | f => f

theorem Failure.ofQuery_atPath (text other : String) (e : QueryError) :
    (Failure.ofQuery other e).atPath text = .ofQuery text e := by
  obtain ⟨index, segment, source⟩ := e
  cases source <;> rfl

theorem settle_atPath (p : Path) (text other : String) (r : Except QueryError Value) :
    settle p text r = (settle p other r).mapError (Failure.atPath text) := by
  cases r with
  | ok v => rfl
  | error e =>
    have plain : (.error (.ofQuery text e) : Except Failure Value) =
        (Except.error (.ofQuery other e)).mapError (Failure.atPath text) :=
      congrArg Except.error (Failure.ofQuery_atPath text other e).symm
    simp only [settle]
    split
    · split
      · rfl
      · exact plain
    · exact plain

theorem joinRootPath_empty (path : String) : joinRootPath "" path = trim path := rfl

namespace JsonDocument

variable {config : JsonConfig} {source : Source} {j : Json}

theorem tree_unread (read : parse config.charset source = .ok j) :
    (tree config ⟨source, config.charset, none, []⟩).1 = .ok (.ofJson config.numbers j) := by
  simp only [tree, JsonDocument.read, read]
  rfl

theorem find_unread (read : parse config.charset source = .ok j) (p : Path) (text : String) :
    (View.find ⟨config, "", []⟩ p text (JsonDocument.mk source config.charset none [])).1 =
      settle p text (p.eval (.ofJson config.numbers j) []) := by
  have root := tree_unread read
  unfold View.find
  simp only [Reading.tree]
  split
  · next v d h =>
    rw [h] at root
    cases root
    show settle p text (p.evalBorrowed _ []) = _
    rw [Path.evalBorrowed_eq]
  · next e d h =>
    rw [h] at root
    cases root

theorem compile_error {path : String} {e : Failure} (h : compile path = .error e) :
    e.atPath path = e := by
  unfold compile at h
  split at h <;> cases h
  rfl

theorem ask_unread {path : String}
    (read : parse config.charset source = .ok j) (trimmed : trim path = path) :
    (View.ask ⟨config, "", []⟩ (.find path .value)
        (JsonDocument.mk source config.charset none [])).1 =
      ((j.ask config path).mapError (Failure.atPath path)).map .value := by
  unfold View.ask
  simp only [View.fullPath, joinRootPath_empty, trimmed]
  unfold Json.ask
  cases compiled : compile path with
  | error e =>
    simp only [bind, Except.bind]
    exact congrArg Except.error (compile_error compiled).symm
  | ok p =>
    have found := find_unread read p path
    rw [settle_atPath p path p.render] at found
    simp only [bind, Except.bind]
    split
    · next v d h =>
      rw [h] at found
      rw [← found]
      rfl
    · next e d h =>
      rw [h] at found
      rw [← found]
      rfl

end JsonDocument

/-- Looking leading keys and indices up directly changes no evaluation. So a handle without root
path and parameters, opened under the default configuration, answers as a document that was read
already: with the same value, or the same failure up to the path text that it names. -/
theorem direct_lookup_agrees :
    (∀ (p : Path) (root : Value) (params : List (String × Value)),
      p.evalBorrowed root params = p.eval root params) ∧
    ∀ (s : Session JsonConfig JsonDocument) (name : String) (source : Source) (j : Json)
      (path : String), JsonDocument.parse s.config.charset source = .ok j → trim path = path →
      (s.run [.openSource name (.ok source) none, .ask name (.find path .value)]).1 =
        [some (.ok .done),
          some (((j.ask s.config path).mapError (Failure.atPath path)).map .value)] := by
  refine ⟨Path.evalBorrowed_eq, ?_⟩
  intro s name source j path read trimmed
  have opened : s.step (.openSource name (.ok source) none) =
      (some (.ok .done), s.openDocument name source { document := 0 } s.config) := rfl
  simp only [Session.run, opened]
  rw [Session.reply_ask (s.handle?_openDocument ..) (s.document?_openDocument ..)]
  exact congrArg (fun r => [some (.ok .done), some r]) (JsonDocument.ask_unread read trimmed)

theorem direct_lookup_agrees_index :
    JsonDocument.parse ({} : Session JsonConfig JsonDocument).config.charset (.text "[1]") =
        .ok (.array [.number "1"]) ∧
      trim "[-1]" = "[-1]" ∧
      (({} : Session JsonConfig JsonDocument).run
        [.openSource "d" (.ok (.text "[1]")) none, .ask "d" (.find "[-1]" .value)]).1 =
        [some (.ok .done), some (((((Json.array [.number "1"]).ask
          ({} : Session JsonConfig JsonDocument).config "[-1]").mapError
            (Failure.atPath "[-1]")).map .value))] :=
  ⟨rfl, rfl, direct_lookup_agrees.2 _ _ _ _ _ rfl rfl⟩

end DocPath
