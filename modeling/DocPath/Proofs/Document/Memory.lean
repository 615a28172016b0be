import DocPath.Document.Json
import DocPath.Proofs.Document.Steps
import DocPath.Proofs.Eval.Direct

/-!
What documents in JSON keep of earlier readings never shows. A session answers as one without
documents does, in which a handle carries the source and the charset of its document and every
question reads the source from the start.
-/

namespace DocPath

/-- A handle with the source that it reads and the charset of its document. -/
structure PlainHandle where
  source : Source
  charset : String
  config? : Option JsonConfig := none
  rootPath : String := ""
  params : List (String × Value) := []

namespace PlainHandle

def tree (h : PlainHandle) (numbers : NumberPolicy) : Except Failure Value := do
  let j ← JsonDocument.parse h.charset h.source
  .ok (.ofJson numbers j)

def find (h : PlainHandle) (numbers : NumberPolicy) (p : Path) (text : String) :
    Except Failure Value := do
  let root ← h.tree numbers
  settle p text (p.eval root h.params)

def answer (h : PlainHandle) (config : JsonConfig) (q : Question) :
    Except Failure (Answer JsonConfig) :=
  match q with
  | .config => .ok (.config config)
  | .pretty => do
    let root ← h.tree config.numbers
    .ok (.text root.toJson.pretty)
  | .find path form => do
    let text := joinRootPath h.rootPath path
    let p ← compile text
    let v ← h.find config.numbers p text
    form.give config p text v

end PlainHandle

/-- A session without documents. -/
structure PlainSession where
  default? : Option JsonConfig := none
  handles : List (String × PlainHandle) := []

namespace PlainSession

def config (s : PlainSession) : JsonConfig := s.default?.getD {}

def handle? (s : PlainSession) (name : String) : Option PlainHandle := s.handles.lookup name

def put (name : String) (h : PlainHandle) (s : PlainSession) : PlainSession :=
  { s with handles := insertEntry name h s.handles }

def derive (s : PlainSession) (on into : String) (f : PlainHandle → PlainHandle) :
    Reply JsonConfig × PlainSession :=
  match s.handle? on with
  | none => (none, s)
  | some h => (some (.ok .done), s.put into (f h))

def step (s : PlainSession) (t : Step JsonConfig) : Reply JsonConfig × PlainSession :=
  match t with
  | .openSource _ (.error e) _ => (some (.error e), s)
  | .openSource into (.ok source) own =>
    let own := own.map fun f => f s.config
    (some (.ok .done),
      s.put into { source, charset := (own.getD s.config).charset, config? := own })
  | .using on into config =>
    s.derive on into fun h => { h with config? := some config, charset := config.charset }
  | .rootPath on into path => s.derive on into fun h => { h with rootPath := path }
  | .params on into entries =>
    s.derive on into fun h => { h with
      params := entries.foldl (fun m p => insertEntry p.1 p.2 m) h.params }
  | .setDefault config => (some (.ok .done), { s with default? := some config })
  | .reset => (some (.ok .done), { s with default? := none })
  | .ask on q =>
    (match s.handle? on with
      | none => none
      | some h => some (h.answer (h.config?.getD s.config) q), s)

def run (s : PlainSession) : List (Step JsonConfig) → List (Reply JsonConfig) × PlainSession
  | [] => ([], s)
  | t :: ts =>
    let (r, s) := s.step t
    let (rs, s) := run s ts
    (r :: rs, s)

end PlainSession

namespace JsonDocument

/-- Everything that a document keeps is what its source gives. -/
structure Faithful (d : JsonDocument) : Prop where
  json : ∀ j, d.json? = some j → parse d.charset d.source = .ok j
  trees : ∀ n v, d.trees.lookup n = some v →
    ∃ j, parse d.charset d.source = .ok j ∧ v = .ofJson n j

structure ReadFrom (d e : JsonDocument) : Prop where
  source : e.source = d.source
  charset : e.charset = d.charset
  faithful : e.Faithful

variable {d : JsonDocument}

theorem Faithful.refl (h : d.Faithful) : d.ReadFrom d := ⟨rfl, rfl, h⟩

theorem faithful_unread (source : Source) (charset : String) :
    (JsonDocument.mk source charset none []).Faithful := by
  constructor
  · intro j kept
    cases kept
  · intro n v kept
    cases kept

theorem Faithful.read (h : d.Faithful) :
    d.read.1 = parse d.charset d.source ∧ d.ReadFrom d.read.2 := by
  unfold JsonDocument.read
  split
  · next j kept => exact ⟨(h.json j kept).symm, h.refl⟩
  · split
    · next j parsed =>
      refine ⟨parsed.symm, rfl, rfl, ?_, h.trees⟩
      intro k kept
      cases kept
      exact parsed
    · next e refused => exact ⟨refused.symm, h.refl⟩

theorem Faithful.treeOf (h : d.Faithful) {j : Json} (parsed : parse d.charset d.source = .ok j)
    (numbers : NumberPolicy) :
    (d.treeOf numbers j).1 = .ofJson numbers j ∧ d.ReadFrom (d.treeOf numbers j).2 := by
  unfold JsonDocument.treeOf
  split
  · next v kept =>
    obtain ⟨k, again, value⟩ := h.trees numbers v kept
    rw [parsed] at again
    cases again
    exact ⟨value, h.refl⟩
  · refine ⟨rfl, rfl, rfl, h.json, ?_⟩
    intro n v kept
    rw [List.lookup_cons] at kept
    split at kept
    · next same =>
      cases kept
      rw [beq_iff_eq] at same
      exact ⟨j, parsed, by rw [same]⟩
    · exact h.trees n v kept

theorem Faithful.tree (h : d.Faithful) (config : JsonConfig) :
    (d.tree config).1 = (parse d.charset d.source).map (.ofJson config.numbers) ∧
      d.ReadFrom (d.tree config).2 := by
  obtain ⟨value, after⟩ := h.read
  unfold JsonDocument.tree
  split
  · next j e read =>
    rw [read] at value after
    have parsed : parse e.charset e.source = .ok j := by
      rw [after.source, after.charset]
      exact value.symm
    obtain ⟨tree, last⟩ := after.faithful.treeOf parsed config.numbers
    refine ⟨?_, last.source.trans after.source, last.charset.trans after.charset, last.faithful⟩
    rw [← value]
    exact congrArg Except.ok tree
  · next failure e read =>
    rw [read] at value after
    refine ⟨?_, after⟩
    rw [← value]
    rfl

end JsonDocument

def Handle.plain (h : Handle JsonConfig) (d : JsonDocument) : PlainHandle :=
  ⟨d.source, d.charset, h.config?, h.rootPath, h.params⟩

@[simp] theorem Handle.plain_rootPath (h : Handle JsonConfig) (d : JsonDocument) :
    (h.plain d).rootPath = h.rootPath := rfl

namespace JsonDocument.Faithful

variable {d : JsonDocument} (faithful : d.Faithful) (config : JsonConfig) (h : Handle JsonConfig)
include faithful

theorem plain_tree :
    (Reading.tree config d).1 = (h.plain d).tree config.numbers := by
  show (d.tree config).1 = _
  rw [(faithful.tree config).1]
  unfold PlainHandle.tree Handle.plain
  cases parse d.charset d.source <;> rfl

theorem find (p : Path) (text : String) :
    ((View.mk config h.rootPath h.params).find p text d).1 =
        (h.plain d).find config.numbers p text ∧
      d.ReadFrom ((View.mk config h.rootPath h.params).find p text d).2 := by
  have value : (Reading.tree config d).1 = (h.plain d).tree config.numbers :=
    faithful.plain_tree config h
  have after : d.ReadFrom (Reading.tree config d).2 := (faithful.tree config).2
  unfold View.find PlainHandle.find
  rw [← value]
  split
  · next root e read =>
    rw [read] at after ⊢
    refine ⟨?_, after⟩
    show settle p text (p.evalBorrowed root h.params) = settle p text (p.eval root h.params)
    rw [Path.evalBorrowed_eq]
  · next failure e read =>
    rw [read] at after ⊢
    exact ⟨rfl, after⟩

theorem pretty :
    ((View.mk config h.rootPath h.params).ask .pretty d).1 = (h.plain d).answer config .pretty ∧
      d.ReadFrom ((View.mk config h.rootPath h.params).ask .pretty d).2 := by
  have value : (Reading.tree config d).1 = (h.plain d).tree config.numbers :=
    faithful.plain_tree config h
  have after : d.ReadFrom (Reading.tree config d).2 := (faithful.tree config).2
  unfold View.ask PlainHandle.answer
  dsimp only
  rw [← value]
  split
  · next root e read =>
    rw [read] at after ⊢
    exact ⟨rfl, after⟩
  · next failure e read =>
    rw [read] at after ⊢
    exact ⟨rfl, after⟩

theorem ask (q : Question) :
    ((View.mk config h.rootPath h.params).ask q d).1 = (h.plain d).answer config q ∧
      d.ReadFrom ((View.mk config h.rootPath h.params).ask q d).2 := by
  cases q with
  | config => exact ⟨rfl, faithful.refl⟩
  | pretty => exact faithful.pretty config h
  | find path form =>
    unfold View.ask PlainHandle.answer
    dsimp only [View.fullPath]
    rw [Handle.plain_rootPath]
    cases compile (joinRootPath h.rootPath path) with
    | error e => exact ⟨rfl, faithful.refl⟩
    | ok p =>
      obtain ⟨value, after⟩ := faithful.find config h p (joinRootPath h.rootPath path)
      dsimp only [bind, Except.bind]
      rw [← value]
      split
      · next v e found =>
        rw [found] at after ⊢
        exact ⟨rfl, after⟩
      · next failure e found =>
        rw [found] at after ⊢
        exact ⟨rfl, after⟩

end JsonDocument.Faithful

namespace Session

def IsPlain (s : Session JsonConfig JsonDocument) (h : Handle JsonConfig) (k : PlainHandle) :
    Prop :=
  ∃ d, s.document? h = some d ∧ d.Faithful ∧ k = h.plain d

/-- A plain session says what a session says. -/
structure Tells (s : Session JsonConfig JsonDocument) (l : PlainSession) : Prop where
  default : l.default? = s.default?
  handles : ∀ name, (s.handle? name = none ∧ l.handle? name = none) ∨
    ∃ h k, s.handle? name = some h ∧ l.handle? name = some k ∧ s.IsPlain h k

variable {s : Session JsonConfig JsonDocument} {l : PlainSession} {h : Handle JsonConfig}
  {k : PlainHandle}

theorem tells_empty : ({} : Session JsonConfig JsonDocument).Tells {} :=
  ⟨rfl, fun _ => .inl ⟨rfl, rfl⟩⟩

theorem Tells.config (t : s.Tells l) : l.config = s.config := by
  rw [PlainSession.config, t.default]
  rfl

theorem Tells.put (t : s.Tells l) (name : String) (plain : s.IsPlain h k) :
    (s.put name h).Tells (l.put name k) := by
  refine ⟨t.default, fun other => ?_⟩
  simp only [Session.put, PlainSession.put, handle?, PlainSession.handle?, lookup_insertEntry]
  by_cases same : other = name
  · rw [if_pos same, if_pos same]
    exact .inr ⟨h, k, rfl, rfl, plain⟩
  · rw [if_neg same, if_neg same]
    exact t.handles other

theorem Tells.keep (t : s.Tells l) {ds : List JsonDocument}
    (kept : ∀ (i : Nat) (d : JsonDocument), s.documents[i]? = some d → d.Faithful →
      ∃ e, ds[i]? = some e ∧ d.ReadFrom e) :
    ({ s with documents := ds } : Session JsonConfig JsonDocument).Tells l := by
  refine ⟨t.default, fun name => ?_⟩
  rcases t.handles name with none | ⟨h, k, handle, plain, d, found, faithful, rfl⟩
  · exact .inl none
  · obtain ⟨e, again, read⟩ := kept _ d found faithful
    refine .inr ⟨h, _, handle, plain, e, again, read.faithful, ?_⟩
    rw [Handle.plain, Handle.plain, read.source, read.charset]

theorem Tells.openDocument (t : s.Tells l) (into : String) (source : Source)
    (h : Handle JsonConfig) (config : JsonConfig) :
    (s.openDocument into source h config).Tells
      (l.put into ⟨source, config.charset, h.config?, h.rootPath, h.params⟩) := by
  have more : ({ s with documents := s.documents ++ [Reading.unread source config] } :
      Session JsonConfig JsonDocument).Tells l := by
    refine t.keep fun i d found faithful => ⟨d, ?_, faithful.refl⟩
    rw [List.getElem?_append_left (List.getElem?_eq_some_iff.mp found).1, found]
  refine more.put into ⟨Reading.unread source config, ?_, JsonDocument.faithful_unread .., rfl⟩
  exact List.getElem?_concat_length

theorem Tells.reconfigure (t : s.Tells l) (into : String) {d : JsonDocument}
    (found : s.document? h = some d) (faithful : d.Faithful) (config : JsonConfig) :
    (s.reconfigure into h config d).Tells
      (l.put into { h.plain d with config? := some config, charset := config.charset }) := by
  unfold Session.reconfigure
  dsimp only
  split
  · next like =>
    have same : config.charset = d.charset := beq_iff_eq.mp like
    refine t.put into ⟨d, found, faithful, ?_⟩
    rw [Handle.plain, Handle.plain, same]
  · exact t.openDocument into d.source { h with config? := some config } config

theorem Tells.ask (t : s.Tells l) {d : JsonDocument} (found : s.document? h = some d)
    (faithful : d.Faithful) (q : Question) :
    (s.ask h q d).1 = (h.plain d).answer (h.config?.getD s.config) q ∧
      (s.ask h q d).2.Tells l := by
  obtain ⟨value, after⟩ := faithful.ask (h.config?.getD s.config) h q
  unfold Session.ask Session.view
  generalize (View.mk (h.config?.getD s.config) h.rootPath h.params).ask q d = r at value after ⊢
  refine ⟨value, t.keep fun i e same other => ?_⟩
  rw [List.getElem?_set]
  by_cases here : h.document = i
  · subst here
    cases found.symm.trans same
    rw [if_pos rfl, if_pos (List.getElem?_eq_some_iff.mp found).1]
    exact ⟨_, rfl, after⟩
  · rw [if_neg here]
    exact ⟨e, same, other.refl⟩

theorem Tells.derive (t : s.Tells l) {u : Step JsonConfig} {on into : String}
    {f : PlainHandle → PlainHandle} (works : u.on? = some on) (plain : l.step u = l.derive on into f)
    (made : ∀ h d, s.handle? on = some h → s.document? h = some d → d.Faithful →
      ∃ s', s.step u = (some (.ok .done), s') ∧ s'.Tells (l.put into (f (h.plain d)))) :
    (s.step u).1 = (l.step u).1 ∧ (s.step u).2.Tells (l.step u).2 := by
  rw [plain, PlainSession.derive]
  rcases t.handles on with ⟨none, none'⟩ | ⟨h, k, handle, handle', d, found, faithful, rfl⟩
  · rw [step_missing works none, none']
    exact ⟨rfl, t⟩
  · obtain ⟨s', step, after⟩ := made h d handle found faithful
    rw [step, handle']
    exact ⟨rfl, after⟩

/-- What one step preserves: it answers as the plain step does, and the plain session after it
says what the session says. -/
theorem Tells.step (t : s.Tells l) (u : Step JsonConfig) :
    (s.step u).1 = (l.step u).1 ∧ (s.step u).2.Tells (l.step u).2 := by
  cases u with
  | openSource into source own =>
    cases source with
    | error e => exact ⟨rfl, t⟩
    | ok source =>
      refine ⟨rfl, ?_⟩
      simp only [Session.step, PlainSession.step, t.config]
      exact t.openDocument into source _ _
  | «using» on into config =>
    refine t.derive rfl rfl fun h d handle found faithful => ?_
    exact ⟨_, step_using handle found into config, t.reconfigure into found faithful config⟩
  | rootPath on into path =>
    refine t.derive rfl rfl fun h d handle found faithful => ?_
    exact ⟨_, step_rootPath handle found into path, t.put into ⟨d, found, faithful, rfl⟩⟩
  | params on into entries =>
    refine t.derive rfl rfl fun h d handle found faithful => ?_
    exact ⟨_, step_params handle found into entries, t.put into ⟨d, found, faithful, rfl⟩⟩
  | setDefault config => exact ⟨rfl, rfl, t.handles⟩
  | reset => exact ⟨rfl, rfl, t.handles⟩
  | ask on q =>
    rw [PlainSession.step, t.config]
    rcases t.handles on with ⟨none, plain⟩ | ⟨h, k, handle, plain, d, found, faithful, rfl⟩
    · rw [step_missing rfl none, plain]
      exact ⟨rfl, t⟩
    · obtain ⟨value, after⟩ := t.ask found faithful q
      rw [step_ask handle found, plain]
      exact ⟨congrArg some value, after⟩

theorem Tells.run (t : s.Tells l) (us : List (Step JsonConfig)) :
    (s.run us).1 = (l.run us).1 ∧ (s.run us).2.Tells (l.run us).2 := by
  induction us generalizing s l with
  | nil => exact ⟨rfl, t⟩
  | cons u us ih =>
    obtain ⟨reply, after⟩ := t.step u
    obtain ⟨replies, last⟩ := ih after
    refine ⟨?_, last⟩
    show (s.step u).1 :: ((s.step u).2.run us).1 = (l.step u).1 :: ((l.step u).2.run us).1
    rw [reply, replies]

end Session

/-- Whether a step puts a handle under a name or changes what handles without a configuration
follow. -/
def Step.bearsOn {Config : Type} (name : String) : Step Config → Bool
  | .openSource _ (.error _) _ => false
  | .openSource into (.ok _) _ => into == name
  | .using _ into _ => into == name
  | .rootPath _ into _ => into == name
  | .params _ into _ => into == name
  | .setDefault _ => true
  | .reset => true
  | .ask _ _ => false

namespace PlainSession

variable {l : PlainSession} {name : String}

/-- Two sessions that answer the questions to one handle alike. -/
structure Agrees (name : String) (l l' : PlainSession) : Prop where
  default : l'.default? = l.default?
  handle : l'.handle? name = l.handle? name

theorem agrees_put {into : String} (other : (into == name) = false) (h : PlainHandle) :
    l.Agrees name (l.put into h) := by
  refine ⟨rfl, ?_⟩
  rw [handle?, put, lookup_insertEntry, if_neg fun same => ?_]
  · rfl
  · rw [same, beq_self_eq_true] at other
    cases other

theorem agrees_derive {on into : String} (other : (into == name) = false)
    (f : PlainHandle → PlainHandle) : l.Agrees name (l.derive on into f).2 := by
  unfold derive
  cases l.handle? on with
  | none => exact ⟨rfl, rfl⟩
  | some h => exact agrees_put other (f h)

theorem agrees_step {u : Step JsonConfig} (apart : u.bearsOn name = false) :
    l.Agrees name (l.step u).2 := by
  cases u with
  | openSource into source own =>
    cases source with
    | error e => exact ⟨rfl, rfl⟩
    | ok source => exact agrees_put apart _
  | «using» on into config => exact agrees_derive apart _
  | rootPath on into path => exact agrees_derive apart _
  | params on into entries => exact agrees_derive apart _
  | setDefault config => cases apart
  | reset => cases apart
  | ask on q => exact ⟨rfl, rfl⟩

theorem agrees_run {us : List (Step JsonConfig)} (apart : ∀ u ∈ us, u.bearsOn name = false) :
    l.Agrees name (l.run us).2 := by
  induction us generalizing l with
  | nil => exact ⟨rfl, rfl⟩
  | cons u us ih =>
    have first : l.Agrees name (l.step u).2 := agrees_step (apart u List.mem_cons_self)
    have rest := ih (l := (l.step u).2) fun v mem => apart v (List.mem_cons_of_mem u mem)
    exact ⟨rest.default.trans first.default, rest.handle.trans first.handle⟩

theorem run_cons (t : Step JsonConfig) (ts : List (Step JsonConfig)) :
    l.run (t :: ts) =
      ((l.step t).1 :: ((l.step t).2.run ts).1, ((l.step t).2.run ts).2) := rfl

theorem run_append (ts us : List (Step JsonConfig)) :
    l.run (ts ++ us) =
      ((l.run ts).1 ++ ((l.run ts).2.run us).1, ((l.run ts).2.run us).2) := by
  induction ts generalizing l with
  | nil => rfl
  | cons t ts ih => rw [List.cons_append, run_cons, ih, run_cons, List.cons_append]

theorem last_answer (ts : List (Step JsonConfig)) (q : Question) :
    (l.run (ts ++ [.ask name q])).1.getLast? = some ((l.run ts).2.step (.ask name q)).1 := by
  rw [run_append]
  exact List.getLast?_concat

theorem Agrees.ask {l' : PlainSession} (agrees : l.Agrees name l') (q : Question) :
    (l'.step (.ask name q)).1 = (l.step (.ask name q)).1 := by
  unfold step config
  dsimp only
  rw [agrees.handle, agrees.default]

end PlainSession

/-- Every step of every session answers as without documents. So an answer depends on nothing that
other handles or earlier questions did: steps that bear not on a handle can go in before a question
to it. -/
theorem session_forgets_documents :
    (∀ ts, (Session.run ({} : Session JsonConfig JsonDocument) ts).1 =
      (PlainSession.run {} ts).1) ∧
    ∀ ts us name q, (∀ u ∈ us, u.bearsOn name = false) →
      (Session.run ({} : Session JsonConfig JsonDocument) (ts ++ us ++ [.ask name q])).1.getLast? =
        (Session.run ({} : Session JsonConfig JsonDocument) (ts ++ [.ask name q])).1.getLast? := by
  have plain := fun ts => (Session.tells_empty.run ts).1
  refine ⟨plain, fun ts us name q apart => ?_⟩
  rw [plain, plain, PlainSession.last_answer, PlainSession.last_answer, PlainSession.run_append]
  exact congrArg some ((PlainSession.agrees_run apart).ask q)

/-- Another handle with another configuration reads the document before the last question. -/
theorem session_forgets_documents_shared :
    (∀ u ∈ ([.ask "a" (.find "[0]" .value), .using "a" "b" { numbers := .bigDecimal },
        .ask "b" (.find "[0]" .value)] : List (Step JsonConfig)), u.bearsOn "a" = false) ∧
      (Session.run ({} : Session JsonConfig JsonDocument)
        ([.openSource "a" (.ok (.text "[1.5]")) none] ++
          [.ask "a" (.find "[0]" .value), .using "a" "b" { numbers := .bigDecimal },
            .ask "b" (.find "[0]" .value)] ++ [.ask "a" (.find "[0]" .value)])).1.getLast? =
      (Session.run ({} : Session JsonConfig JsonDocument)
        ([.openSource "a" (.ok (.text "[1.5]")) none] ++
          [.ask "a" (.find "[0]" .value)])).1.getLast? :=
  ⟨by decide, session_forgets_documents.2 _ _ "a" (.find "[0]" .value) (by decide)⟩

end DocPath
