import DocPath.Document.Reading
import DocPath.Text.Basic

/-!
Sessions with handles on documents. A handle is never changed: each step that configures one makes
another, which shares the document where it is still read the same way. Handles without a
configuration of their own follow the default of the session.
-/

namespace DocPath

structure Handle (Config : Type) where
  document : Nat
  /-- The handle's own configuration. -/
  config? : Option Config := none
  rootPath : String := ""
  params : List (String × Value) := []

/-- The default configuration, the documents in the order in which they were opened, and the
handles under their names. -/
structure Session (Config Document : Type) where
  default? : Option Config := none
  documents : List Document := []
  handles : List (String × Handle Config) := []

/-- Steps of a session. A step that makes a handle says under which name it is put; the others
only name the handle they work on. -/
inductive Step (Config : Type) where
  /-- Opens a source, under the default or a configuration derived from it. -/
  | openSource (into : String) (source : Except Failure Source) (own : Option (Config → Config))
  | using (on into : String) (config : Config)
  | rootPath (on into : String) (path : String)
  | params (on into : String) (entries : List (String × Value))
  | setDefault (config : Config)
  | reset
  | ask (on : String) (question : Question)

abbrev Reply (Config : Type) := Option (Except Failure (Answer Config))

variable {Config Document Tree : Type} [Reading Config Document Tree]

namespace Session

def config (s : Session Config Document) : Config := s.default?.getD Reading.builtIn

def view (s : Session Config Document) (h : Handle Config) : View Config :=
  ⟨h.config?.getD s.config, h.rootPath, h.params⟩

def handle? (s : Session Config Document) (name : String) : Option (Handle Config) :=
  s.handles.lookup name

def document? (s : Session Config Document) (h : Handle Config) : Option Document :=
  s.documents[h.document]?

def put (name : String) (h : Handle Config) (s : Session Config Document) :
    Session Config Document :=
  { s with handles := insertEntry name h s.handles }

def openDocument (into : String) (source : Source) (h : Handle Config) (config : Config)
    (s : Session Config Document) : Session Config Document :=
  put into { h with document := s.documents.length }
    { s with documents := s.documents ++ [Reading.unread source config] }

/-- A handle with a configuration of its own. The document is shared if it is still read in the
same way. -/
def reconfigure (into : String) (h : Handle Config) (config : Config) (d : Document)
    (s : Session Config Document) : Session Config Document :=
  let h := { h with config? := some config }
  if Reading.readsLike d config then s.put into h
  else s.openDocument into (Reading.source Config d) h config

def ask (h : Handle Config) (q : Question) (d : Document) (s : Session Config Document) :
    Except Failure (Answer Config) × Session Config Document :=
  let (a, d) := (s.view h).ask q d
  (a, { s with documents := s.documents.set h.document d })

def step (s : Session Config Document) (t : Step Config) : Reply Config × Session Config Document :=
  let done (s : Session Config Document) : Reply Config × Session Config Document :=
    (some (.ok .done), s)
  let onHandle (name : String)
      (k : Handle Config → Document → Reply Config × Session Config Document) :
      Reply Config × Session Config Document :=
    match s.handle? name with
    | none => (none, s)
    | some h =>
      match s.document? h with
      | none => (none, s)
      | some d => k h d
  match t with
  | .openSource into source own =>
    match source with
    | .error e => (some (.error e), s)
    | .ok source =>
      let own := own.map fun f => f s.config
      done (s.openDocument into source { document := 0, config? := own } (own.getD s.config))
  | .using on into config => onHandle on fun h d => done (s.reconfigure into h config d)
  | .rootPath on into path => onHandle on fun h _ => done (s.put into { h with rootPath := path })
  | .params on into entries =>
    onHandle on fun h _ => done (s.put into { h with
      params := entries.foldl (fun m p => insertEntry p.1 p.2 m) h.params })
  | .setDefault config => done { s with default? := some config }
  | .reset => done { s with default? := none }
  | .ask on q => onHandle on fun h d =>
    let (a, s) := s.ask h q d
    (some a, s)

def run (s : Session Config Document) :
    List (Step Config) → List (Reply Config) × Session Config Document
  | [] => ([], s)
  | t :: ts =>
    let (r, s) := s.step t
    let (rs, s) := run s ts
    (r :: rs, s)

end Session
end DocPath
