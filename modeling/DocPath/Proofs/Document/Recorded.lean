import DocPath.Proofs.Document.Agreement
import DocPath.Proofs.Document.Memory
import DocPath.Proofs.Document.Parameters
import DocPath.Proofs.Document.RootPath
import DocPath.Proofs.Entries

/-!
A document records the settings that its source is read with when it is made, and later questions
read with these, whatever configuration they are put under. A handle with a configuration of its
own has a document that was made under the same settings. A handle that follows the default keeps
the settings that the default had when its source was opened.
-/

namespace DocPath

/-- Readings in which a document records the settings that its source is read with. -/
class RecordedReading (Config : Type) (Document Tree : outParam Type)
    [Reading Config Document Tree] where
  /-- The second configuration with the recorded settings of the first. -/
  readAs : Config → Config → Config
  /-- A document of a source that was made under a configuration, whatever was asked since. -/
  Records : Source → Config → Document → Prop
  unread : ∀ (source : Source) (config : Config),
    Records source config (Reading.unread source config)
  source_eq : ∀ {source : Source} {config : Config} {d : Document}, Records source config d →
    Reading.source Config d = source
  again : ∀ {source : Source} {config : Config} {d : Document} (other : Config),
    Records source config d → Records source config (Reading.tree other d).2
  like : ∀ {source : Source} {config other : Config} {d : Document}, Records source config d →
    Reading.readsLike d other → Records source other d
  readAs_self : ∀ config : Config, readAs config config = config
  mapper_readAs : ∀ config other : Config,
    Reading.mapper (readAs config other) = Reading.mapper other
  /-- What a document gives is decided by its source, what it records and the question. -/
  tree_eq : ∀ {source : Source} {config : Config} {d d' : Document} (other : Config),
    Records source config d → Records source (readAs config other) d' →
    (Reading.tree other d).1 = (Reading.tree (readAs config other) d').1

instance : RecordedReading JsonConfig JsonDocument Value where
  readAs opened config := { config with charset := opened.charset }
  Records source config d := d.source = source ∧ d.charset = config.charset ∧ d.Faithful
  unread source config := ⟨rfl, rfl, JsonDocument.faithful_unread source config.charset⟩
  source_eq records := records.1
  again other records := by
    obtain ⟨-, after⟩ := records.2.2.tree other
    exact ⟨after.source.trans records.1, after.charset.trans records.2.1, after.faithful⟩
  like records like := ⟨records.1, (beq_iff_eq.mp like).symm, records.2.2⟩
  readAs_self _ := rfl
  mapper_readAs _ _ := rfl
  tree_eq other records records' := by
    show (JsonDocument.tree _ _).1 = (JsonDocument.tree _ _).1
    rw [(records.2.2.tree _).1, (records'.2.2.tree _).1, records.1, records'.1, records.2.1,
      records'.2.1]

namespace MarkupDocument

def given (source : Source) (config : XmlConfig) : Except Failure Element :=
  (source.decode config.charset).bind (parse config.mode config.doctype)

/-- A document of a source that was made under a configuration; the root element that it keeps is
what the source gives. -/
structure MadeUnder (source : Source) (config : XmlConfig) (d : MarkupDocument) : Prop where
  of : d.source = source
  charset : d.charset = config.charset
  mode : d.mode = config.mode
  doctype : d.doctype = config.doctype
  root : ∀ e, d.root? = some e → given source config = .ok e

theorem MadeUnder.root_eq {source : Source} {config : XmlConfig} {d : MarkupDocument}
    (made : d.MadeUnder source config) :
    d.root.1 = given source config ∧ d.root.2.MadeUnder source config := by
  have read : (d.source.decode d.charset).bind (parse d.mode d.doctype) = given source config := by
    rw [made.of, made.charset, made.mode, made.doctype, given]
  unfold MarkupDocument.root
  split
  · next e kept => exact ⟨(made.root e kept).symm, made⟩
  · rw [read]
    split
    · next e value =>
      refine ⟨value.symm, made.of, made.charset, made.mode, made.doctype, ?_⟩
      rintro _ ⟨rfl⟩
      exact value
    · next failure value => exact ⟨value.symm, made⟩

end MarkupDocument

instance : RecordedReading XmlConfig MarkupDocument Element where
  readAs opened config :=
    { config with mode := opened.mode, charset := opened.charset, doctype := opened.doctype }
  Records source config d := d.MadeUnder source config
  unread source config := ⟨rfl, rfl, rfl, rfl, fun _ kept => nomatch kept⟩
  source_eq made := made.of
  again _ made := made.root_eq.2
  like {source config other d} made like := by
    obtain ⟨⟨charset, mode⟩, doctype⟩ :
        (d.charset = other.charset ∧ d.mode = other.mode) ∧ d.doctype = other.doctype := by
      simpa only [Reading.readsLike, Bool.and_eq_true, beq_iff_eq] using like
    refine ⟨made.of, charset, mode, doctype, fun e kept => ?_⟩
    rw [← made.root e kept, MarkupDocument.given, MarkupDocument.given, ← charset, ← mode,
      ← doctype, made.charset, made.mode, made.doctype]
  readAs_self _ := rfl
  mapper_readAs _ _ := rfl
  tree_eq _ made made' := made.root_eq.1.trans made'.root_eq.1.symm

variable {Config Document Tree : Type} [Reading Config Document Tree]

namespace Session

def after (ts : List (Step Config)) : Session Config Document := (run {} ts).2

theorem run_append (s : Session Config Document) (ts us : List (Step Config)) :
    (s.run (ts ++ us)).2 = ((s.run ts).2.run us).2 := by
  induction ts generalizing s with
  | nil => rfl
  | cons t ts ih => exact ih (s.step t).2

theorem after_concat (ts : List (Step Config)) (t : Step Config) :
    (after (ts ++ [t]) : Session Config Document) = ((after ts).step t).2 := by
  have one : ∀ s : Session Config Document, (s.run [t]).2 = (s.step t).2 := fun s => rfl
  rw [after, run_append, one, after]

/-- The configuration that a handle's document was made under: the handle's own, or else the
default of the session at the step that opened the source as this document. Documents are counted
in the order in which they are made, so there is one such step. -/
def OpenedUnder (ts : List (Step Config)) (h : Handle Config) (source : Source)
    (opened : Config) : Prop :=
  h.config? = some opened ∨ h.config? = none ∧ ∃ before into later,
    ts = before ++ .openSource into (.ok source) none :: later ∧
      h.document = (after before : Session Config Document).documents.length ∧
      opened = (after before : Session Config Document).config

theorem OpenedUnder.later {ts : List (Step Config)} {h : Handle Config} {source : Source}
    {opened : Config} (under : OpenedUnder ts h source opened) (t : Step Config) :
    OpenedUnder (ts ++ [t]) h source opened := by
  obtain own | ⟨none, before, into, later, rfl, document, same⟩ := under
  · exact .inl own
  · exact .inr ⟨none, before, into, later ++ [t], by simp, document, same⟩

theorem length_after_opened (before later : List (Step Config)) (into : String) (source : Source) :
    (after before : Session Config Document).documents.length <
      (after (before ++ .openSource into (.ok source) none :: later) :
        Session Config Document).documents.length := by
  have opened := length_openDocument (after before : Session Config Document) into source
    { document := 0 } (after before : Session Config Document).config
  calc (after before : Session Config Document).documents.length
      < ((after before : Session Config Document).step
          (.openSource into (.ok source) none)).2.documents.length :=
        Nat.lt_of_succ_le (Nat.le_of_eq opened.symm)
    _ ≤ (((after before : Session Config Document).step
          (.openSource into (.ok source) none)).2.run later).2.documents.length := length_run _ later
    _ = _ := congrArg (·.documents.length)
        (run_append {} before (.openSource into (.ok source) none :: later)).symm

theorem OpenedUnder.unique {ts : List (Step Config)} {h : Handle Config} {source source' : Source}
    {opened opened' : Config} (under : OpenedUnder ts h source opened)
    (under' : OpenedUnder ts h source' opened') : opened = opened' := by
  obtain own | ⟨none, before, into, later, steps, document, rfl⟩ := under
  · obtain own' | ⟨none', -⟩ := under'
    · exact Option.some.inj (own.symm.trans own')
    · rw [own] at none'
      cases none'
  · obtain own' | ⟨-, before', into', later', steps', document', rfl⟩ := under'
    · rw [none] at own'
      cases own'
    · -- Of two openings, the later one makes a later document.
      rcases List.append_eq_append_iff.mp (steps.symm.trans steps') with
        ⟨us, rfl, rest⟩ | ⟨us, rfl, rest⟩
      · cases us with
        | nil => rw [List.append_nil]
        | cons u us =>
          obtain ⟨rfl, -⟩ := List.cons.inj rest
          have less : (after before : Session Config Document).documents.length < _ :=
            length_after_opened before us into source
          omega
      · cases us with
        | nil => rw [List.append_nil]
        | cons u us =>
          obtain ⟨rfl, -⟩ := List.cons.inj rest
          have less : (after before' : Session Config Document).documents.length < _ :=
            length_after_opened before' us into' source'
          omega

/-- The session with a new handle: a source is opened, and the handle is given a configuration, a
root path and parameters. -/
def fresh (s : Session Config Document) (name : String) (source : Source) (view : View Config) :
    Session Config Document :=
  (s.run [.openSource name (.ok source) none, .using name name view.config,
    .rootPath name name view.rootPath, .params name name view.params]).2

theorem run_rootPath_params {s : Session Config Document} {name : String} {n : Nat}
    {c : Option Config} {d : Document}
    (handle : s.handle? name = some { document := n, config? := c })
    (document : s.documents[n]? = some d) (root : String) {params : List (String × Value)}
    (keys : (params.map Prod.fst).Nodup) :
    ((s.run [.rootPath name name root, .params name name params]).2.handle? name =
        some ⟨n, c, root, params⟩) ∧
      (s.run [.rootPath name name root, .params name name params]).2.documents[n]? = some d := by
  have entries : withEntries [] params = params := entriesOf_of_nodup keys
  have bound := step_params (s.handle?_put name { document := n, config? := c, rootPath := root })
    document name params
  simp only [run, step_rootPath handle document, bound, entries]
  exact ⟨handle?_put .., document⟩

/-- A handle answers every path as a new handle does. -/
def AnswersAs (s : Session Config Document) (name : String) (source : Source) (view : View Config) :
    Prop :=
  ∀ path form, (s.step (.ask name (.find path form))).1 =
    ((s.fresh name source view).step (.ask name (.find path form))).1

end Session

variable [RecordedReading Config Document Tree]

open RecordedReading

theorem Form.give_readAs (form : Form) (opened config : Config) (p : Path) (text : String) :
    form.give (readAs opened config) p text = form.give config p text := by
  funext v
  cases form with
  | object s => simp only [Form.give, mapper_readAs]
  | value => rfl
  | typed t => rfl
  | node => rfl
  | children => rfl
  | relative path => rfl

namespace View

variable {source : Source} {opened : Config} {d : Document}

theorem ask_readAs (view : View Config) (records : Records source opened d) {d' : Document}
    (records' : Records source (readAs opened view.config) d') (path : String) (form : Form) :
    (view.ask (.find path form) d).1 =
      (View.ask { view with config := readAs opened view.config } (.find path form) d').1 := by
  have same := tree_eq view.config records records'
  generalize again : View.mk (readAs opened view.config) view.rootPath view.params = other
  have config : other.config = readAs opened view.config := by rw [← again]
  have params : other.params = view.params := by rw [← again]
  have full : other.fullPath path = view.fullPath path := by rw [← again]; rfl
  cases read : Path.read (view.fullPath path) with
  | error e =>
    unfold ask compile
    simp only [full, read]
  | ok p =>
    have read' : Path.read (other.fullPath path) = .ok p := by rw [full, read]
    rw [view.ask_find read, other.ask_find read', config, params, full, same, form.give_readAs]

theorem records_ask (view : View Config) (records : Records source opened d) (q : Question) :
    Records source opened (view.ask q d).2 := by
  have after := again view.config records
  unfold ask
  cases q with
  | config => exact records
  | pretty =>
    dsimp only
    cases read : Reading.tree view.config d with
    | mk tree e =>
      rw [read] at after
      cases tree <;> exact after
  | find path form =>
    dsimp only
    cases compile (view.fullPath path) with
    | error e => exact records
    | ok p =>
      unfold find
      cases read : Reading.tree view.config d with
      | mk tree e =>
        rw [read] at after
        cases tree with
        | error f => exact after
        | ok tree =>
          dsimp only
          cases Reading.run Config p (view.fullPath path) view.params tree <;> exact after

end View

namespace Session

structure Tracks (ts : List (Step Config)) (s : Session Config Document) (h : Handle Config)
    (d : Document) (source : Source) (opened : Config) : Prop where
  document : s.document? h = some d
  records : Records source opened d
  params : (h.params.map Prod.fst).Nodup
  opened : OpenedUnder ts h source opened

def Tracked (ts : List (Step Config)) (s : Session Config Document) : Prop :=
  ∀ name h, s.handle? name = some h → ∃ d source opened, Tracks ts s h d source opened

variable {ts : List (Step Config)} {s : Session Config Document} {h : Handle Config} {d : Document}
  {source : Source} {opened : Config} {name : String}

theorem Tracked.later (tracked : Tracked ts s) (t : Step Config) : Tracked (ts ++ [t]) s := by
  intro name h handle
  obtain ⟨d, source, opened, known⟩ := tracked name h handle
  exact ⟨d, source, opened, { known with opened := known.opened.later t }⟩

theorem Tracked.setDefault (tracked : Tracked ts s) (default? : Option Config) :
    Tracked ts { s with default? } := by
  intro name h handle
  obtain ⟨d, source, opened, known⟩ := tracked name h handle
  exact ⟨d, source, opened, { known with }⟩

theorem Tracked.put (tracked : Tracked ts s) (known : Tracks ts s h d source opened)
    (into : String) : Tracked ts (s.put into h) := by
  intro name k handle
  simp only [Session.put, handle?, lookup_insertEntry] at handle
  split at handle
  · cases handle
    exact ⟨d, source, opened, { known with }⟩
  · obtain ⟨d, source, opened, known⟩ := tracked name k handle
    exact ⟨d, source, opened, { known with }⟩

theorem Tracks.more (known : Tracks ts s h d source opened) (ds : List Document) :
    Tracks ts { s with documents := s.documents ++ ds } h d source opened := by
  have inside : h.document < s.documents.length := by
    have found : s.documents[h.document]? = some d := known.document
    exact (List.getElem?_eq_some_iff.mp found).1
  refine { known with document := ?_ }
  show (s.documents ++ ds)[h.document]? = some d
  rw [List.getElem?_append_left inside]
  exact known.document

theorem Tracked.openDocument (tracked : Tracked ts s) (into : String) {config : Config}
    (params : (h.params.map Prod.fst).Nodup)
    (under : OpenedUnder ts { h with document := s.documents.length } source config) :
    Tracked ts (s.openDocument into source h config) := by
  have more : Tracked ts { s with documents := s.documents ++ [Reading.unread source config] } := by
    intro name k handle
    obtain ⟨d, source, opened, known⟩ := tracked name k handle
    exact ⟨d, source, opened, known.more _⟩
  have fresh : Tracks ts { s with documents := s.documents ++ [Reading.unread source config] }
      { h with document := s.documents.length } (Reading.unread source config) source config :=
    ⟨List.getElem?_concat_length, unread source config, params, under⟩
  exact more.put fresh into

theorem Tracked.reconfigure (tracked : Tracked ts s) (known : Tracks ts s h d source opened)
    (into : String) (config : Config) : Tracked ts (s.reconfigure into h config d) := by
  have under : OpenedUnder ts { h with config? := some config } source config := .inl rfl
  unfold Session.reconfigure
  dsimp only
  split
  · next like =>
    have kept : Tracks ts s { h with config? := some config } d source config :=
      ⟨known.document, RecordedReading.like known.records like, known.params, under⟩
    exact tracked.put kept into
  · rw [source_eq known.records]
    exact tracked.openDocument into known.params (.inl rfl)

theorem Tracked.ask (tracked : Tracked ts s) (found : s.document? h = some d) (q : Question) :
    Tracked ts (s.ask h q d).2 := by
  intro name k handle
  obtain ⟨e, source, opened, known⟩ := tracked name k handle
  have held : s.documents[h.document]? = some d := found
  have here : s.documents[k.document]? = some e := known.document
  by_cases same : h.document = k.document
  · rw [same] at held
    obtain rfl : e = d := Option.some.inj (here.symm.trans held)
    have set : (s.documents.set h.document ((s.view h).ask q e).2)[k.document]? =
        some ((s.view h).ask q e).2 := by
      rw [same, List.getElem?_set_self (List.getElem?_eq_some_iff.mp held).1]
    exact ⟨_, source, opened, set, View.records_ask _ known.records q, known.params, known.opened⟩
  · have set : (s.documents.set h.document ((s.view h).ask q d).2)[k.document]? = some e := by
      rw [List.getElem?_set_ne same]
      exact here
    exact ⟨e, source, opened, set, known.records, known.params, known.opened⟩

theorem nodup_withEntries {params : List (String × Value)} (keys : (params.map Prod.fst).Nodup)
    (entries : List (String × Value)) : ((withEntries params entries).map Prod.fst).Nodup := by
  induction entries generalizing params with
  | nil => exact keys
  | cons p entries ih => exact ih (nodup_insertEntry keys)

theorem Tracked.onHandle (tracked : Tracked ts s) {t : Step Config} (works : t.on? = some name)
    (derived : ∀ h d source opened, s.handle? name = some h → Tracks ts s h d source opened →
      Tracked ts (s.step t).2) : Tracked ts (s.step t).2 := by
  refine step_onHandle works tracked fun h _ handle _ => ?_
  obtain ⟨d, source, opened, known⟩ := tracked name h handle
  exact derived h d source opened handle known

theorem Tracked.step (tracked : Tracked ts (after ts : Session Config Document))
    (t : Step Config) :
    Tracked (ts ++ [t]) ((after ts : Session Config Document).step t).2 := by
  have still := tracked.later t
  cases t with
  | openSource into source own =>
    cases source with
    | error e => exact still
    | ok source =>
      refine still.openDocument into List.nodup_nil ?_
      cases own with
      | none => exact .inr ⟨rfl, ts, into, [], rfl, rfl, rfl⟩
      | some f => exact .inl rfl
  | setDefault config => exact still.setDefault (some config)
  | reset => exact still.setDefault none
  | «using» on into config =>
    refine still.onHandle rfl fun h d source opened handle known => ?_
    rw [step_using handle known.document]
    exact still.reconfigure known into config
  | rootPath on into path =>
    refine still.onHandle rfl fun h d source opened handle known => ?_
    have derived : Tracks _ _ { h with rootPath := path } d source opened := { known with }
    rw [step_rootPath handle known.document]
    exact still.put derived into
  | params on into entries =>
    refine still.onHandle rfl fun h d source opened handle known => ?_
    have derived : Tracks _ _ { h with params := withEntries h.params entries } d source opened :=
      { known with params := nodup_withEntries known.params entries }
    rw [step_params handle known.document]
    exact still.put derived into
  | ask on q =>
    refine still.onHandle rfl fun h d source opened handle known => ?_
    rw [step_ask handle known.document]
    exact still.ask known.document q

theorem Tracked.run (tracked : Tracked ts (after ts : Session Config Document))
    (us : List (Step Config)) :
    Tracked (ts ++ us) (after (ts ++ us) : Session Config Document) := by
  induction us generalizing ts with
  | nil => rwa [List.append_nil]
  | cons u us ih =>
    have next : Tracked (ts ++ [u]) (after (ts ++ [u]) : Session Config Document) := by
      rw [after_concat]
      exact tracked.step u
    have whole := ih next
    rwa [List.append_assoc, List.singleton_append] at whole

theorem tracked_after (ts : List (Step Config)) :
    Tracked ts (after ts : Session Config Document) := by
  have start : Tracked [] (after [] : Session Config Document) := by
    intro name h handle
    cases handle
  exact start.run ts

theorem reconfigure_spec (document : s.document? h = some d) (records : Records source opened d)
    (into : String) (config : Config) :
    ∃ n e, (s.reconfigure into h config d).handle? into =
        some { h with document := n, config? := some config } ∧
      (s.reconfigure into h config d).documents[n]? = some e ∧ Records source config e := by
  unfold Session.reconfigure
  dsimp only
  split
  · next like =>
    exact ⟨h.document, d, s.handle?_put into _, document, RecordedReading.like records like⟩
  · rw [source_eq records]
    exact ⟨_, _, s.handle?_openDocument .., s.document?_openDocument .., unread source config⟩

theorem fresh_spec (s : Session Config Document) (name : String) (source : Source)
    (view : View Config) (keys : (view.params.map Prod.fst).Nodup) :
    ∃ k e, (s.fresh name source view).handle? name = some k ∧
      (s.fresh name source view).document? k = some e ∧ Records source view.config e ∧
      (s.fresh name source view).view k = view := by
  have handle := s.handle?_openDocument name source { document := 0 } s.config
  have document := s.document?_openDocument name source { document := 0 } s.config
  have uses : ((s.openDocument name source { document := 0 } s.config).step
      (.using name name view.config)).2 =
        (s.openDocument name source { document := 0 } s.config).reconfigure name
          { document := s.documents.length } view.config (Reading.unread source s.config) := by
    rw [step_using handle document]
  obtain ⟨n, e, handle', document', records⟩ :=
    reconfigure_spec document (unread source s.config) name view.config
  rw [← uses] at handle' document'
  have last := run_rootPath_params handle' document' view.rootPath keys
  exact ⟨_, e, last.1, last.2, records, rfl⟩

theorem answersAs (handle : s.handle? name = some h) (known : Tracks ts s h d source opened) :
    s.AnswersAs name source { s.view h with config := readAs opened (s.view h).config } := by
  intro path form
  obtain ⟨k, e, handle', document', records, view⟩ := s.fresh_spec name source
    { s.view h with config := readAs opened (s.view h).config } known.params
  rw [reply_ask handle known.document, reply_ask handle' document', view]
  exact congrArg some (View.ask_readAs _ known.records records path form)

/-- Every handle answers every path as a new handle on its source does, with the same root path and
parameters, whose configuration is the reported one with the recorded settings of the one
configuration that its document was made under. Where these settings are the reported ones, and for
every handle with a configuration of its own, that is the reported configuration itself. -/
def ReadsAsOpened (ts : List (Step Config)) : Prop :=
  ∀ name h, (after ts : Session Config Document).handle? name = some h →
    ∃ d opened, (after ts : Session Config Document).document? h = some d ∧
      OpenedUnder ts h (Reading.source Config d) opened ∧
      (∀ other, OpenedUnder ts h (Reading.source Config d) other → other = opened) ∧
      let view := (after ts : Session Config Document).view h
      (after ts : Session Config Document).AnswersAs name (Reading.source Config d)
        { view with config := readAs opened view.config } ∧
      (h.config?.isSome ∨ readAs opened view.config = view.config →
        (after ts : Session Config Document).AnswersAs name (Reading.source Config d) view)

theorem readsAsOpened (ts : List (Step Config)) : ReadsAsOpened ts := by
  intro name h handle
  obtain ⟨d, source, opened, known⟩ := tracked_after ts name h handle
  have answers := answersAs handle known
  have under := known.opened
  rw [← source_eq known.records] at answers under
  refine ⟨d, opened, known.document, under, fun other => (·.unique under), answers, ?_⟩
  rintro (own | same)
  · have reported : ((after ts : Session Config Document).view h).config = opened := by
      obtain some | ⟨none, -⟩ := known.opened
      · simp [view, some]
      · rw [none] at own
        cases own
    rwa [reported, readAs_self, ← reported] at answers
  · rwa [same] at answers

end Session

/-- After every session, on documents of either kind, a handle reads as its document was made: with
the charset, and for markup the mode and the switch for document types, of its own configuration or
of the default at the opening. The number policy and the object mapper are the reported ones. -/
theorem handles_read_as_opened (ts : List (Step JsonConfig)) (us : List (Step XmlConfig)) :
    Session.ReadsAsOpened ts ∧ Session.ReadsAsOpened us :=
  ⟨Session.readsAsOpened ts, Session.readsAsOpened us⟩

def accented : Source :=
  .bytes [0x3c, 0x61, 0x3e, 0x63, 0x61, 0x66, 0xe9, 0x3c, 0x2f, 0x61, 0x3e]

def latinConfig : XmlConfig := { charset := "ISO-8859-1" }

def openedTwice : List (Step XmlConfig) :=
  [.setDefault latinConfig, .openSource "d" (.ok accented) none, .reset,
    .openSource "e" (.ok accented) none]

/-- Both handles report what there is without a default, and only the second one reads with it. -/
theorem handles_read_as_opened_twice :
    (Session.after openedTwice).handle? "d" = some { document := 0 } ∧
      (Session.after openedTwice).handle? "e" = some { document := 1 } ∧
      (Session.after openedTwice).config = {} ∧
      (Session.after openedTwice).AnswersAs "d" accented ⟨latinConfig, "", []⟩ ∧
      (Session.after openedTwice).AnswersAs "e" accented ⟨{}, "", []⟩ := by
  refine ⟨rfl, rfl, rfl, ?first, ?second⟩
  case first =>
    obtain ⟨d, opened, document, -, unique, answers, -⟩ :=
      (handles_read_as_opened [] openedTwice).2 "d" { document := 0 } rfl
    cases document
    have under := unique latinConfig (.inr ⟨rfl, [.setDefault latinConfig], "d",
      [.reset, .openSource "e" (.ok accented) none], rfl, rfl, rfl⟩)
    rwa [← under] at answers
  case second =>
    obtain ⟨d, opened, document, -, unique, -, answers⟩ :=
      (handles_read_as_opened [] openedTwice).2 "e" { document := 1 } rfl
    cases document
    have under := unique {} (.inr ⟨rfl, [.setDefault latinConfig,
      .openSource "d" (.ok accented) none, .reset], "e", [], rfl, rfl, rfl⟩)
    exact answers (.inr (by rw [← under]; rfl))

end DocPath
