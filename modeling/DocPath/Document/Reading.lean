import DocPath.Document.Query
import DocPath.Document.Basic
import DocPath.Markup.Basic

/-!
Documents that are read when a question first needs them, and the questions put to them. A
question with a path is refused for the path before the document is read.
-/

namespace DocPath

/-- The form in which the value at a path is given out. -/
inductive Form where
  | value
  | typed (t : Target)
  | object (s : Shape)
  /-- The single element that was found. -/
  | node
  /-- The elements that were found. -/
  | children
  /-- The value at a path that starts from the element that was found. -/
  | relative (path : String)

inductive Question where
  | find (path : String) (form : Form)
  /-- The whole document on several lines. -/
  | pretty
  | config

inductive Answer (Config : Type) where
  | done
  | value (v : Value)
  | typed (r : Typed)
  | object (o : Object)
  | text (s : String)
  | config (c : Config)

/-- How documents are read under configurations, and how paths are asked of the tree that was
read. `Document` is a document together with what reading it has given so far. -/
class Reading (Config : Type) (Document Tree : outParam Type) where
  /-- The configuration where nothing is configured. -/
  builtIn : Config
  mapper : Config → ObjectMapper
  /-- A document that has not been read. -/
  unread : Source → Config → Document
  source : Document → Source
  /-- Whether the document is read as the configuration says. -/
  readsLike : Document → Config → Bool
  /-- The tree of the document, and the document with what reading it gave. -/
  tree : Config → Document → Except Failure Tree × Document
  /-- Evaluation of a path on a tree. -/
  run : Path → String → List (String × Value) → Tree → Except Failure Value
  /-- A value as it reads in the document. -/
  shape : Path → Value → Value
  /-- A value that is to become an object. -/
  whole : Value → Value
  pretty : Tree → String

/-- What questions start with: a configuration, the path in front of theirs, and the named values
that closures see. -/
structure View (Config : Type) where
  config : Config
  rootPath : String := ""
  params : List (String × Value) := []

variable {Config Document Tree : Type} [Reading Config Document Tree]

def coerceElement (text : String) (v : Value) : Except Failure Element :=
  if v.isNull then .error (.notFound text)
  else
    match v.toElement with
    | .ok e => .ok e
    | .error e => .error (.coercion text e)

def Form.give (form : Form) (config : Config) (p : Path) (text : String) (v : Value) :
    Except Failure (Answer Config) :=
  match form with
  | .value => .ok (.value (Reading.shape Config p v))
  | .typed t => (coerce t text (Reading.shape Config p v)).map .typed
  | .object s => (toObject (Reading.mapper config) s text (Reading.whole Config v)).map .object
  | .node => (coerceElement text v).map fun e => .typed (.node e)
  | .children => (coerce (.list .node) text v).map .typed
  | .relative path => do
    let e ← coerceElement text v
    (e.path path).map .value

namespace View

def fullPath (view : View Config) (path : String) : String := joinRootPath view.rootPath path

def find (view : View Config) (p : Path) (text : String) (d : Document) :
    Except Failure Value × Document :=
  match Reading.tree view.config d with
  | (.ok root, d) => (Reading.run Config p text view.params root, d)
  | (.error e, d) => (.error e, d)

def ask (view : View Config) (q : Question) (d : Document) :
    Except Failure (Answer Config) × Document :=
  match q with
  | .config => (.ok (.config view.config), d)
  | .pretty =>
    match Reading.tree view.config d with
    | (.ok root, d) => (.ok (.text (Reading.pretty Config root)), d)
    | (.error e, d) => (.error e, d)
  | .find path form =>
    let text := view.fullPath path
    match compile text with
    | .error e => (.error e, d)
    | .ok p =>
      match view.find p text d with
      | (.ok v, d) => (form.give view.config p text v, d)
      | (.error e, d) => (.error e, d)

end View
end DocPath
