import DocPath.Document.Basic
import DocPath.Eval.Basic
import DocPath.Object.Reader

/-!
Questions to a document: a path text under a root path, its evaluation, and the forms in which a
result is given out. Where one of the path's own fields meets a value without properties, the
result is null.
-/

namespace DocPath

def trimDots (cs : List Char) : List Char := (cs.reverse.dropWhile (· = '.')).reverse

/-- A path after a root path, with one dot between them; a subscript needs none. -/
def joinChars (root path : List Char) : List Char :=
  let root := trimChars root
  let path := trimChars path
  if root.isEmpty then path
  else if path.isEmpty then trimDots root
  else if root.getLast? = some '.' || path.head? = some '[' then root ++ path
  else root ++ '.' :: path

def joinRootPath (root path : String) : String := String.ofList (joinChars root.toList path.toList)

def compile (text : String) : Except Failure Path :=
  match Path.read text with
  | .ok p => .ok p
  | .error e => .error (.path text e)

def Segment.isField : Segment → Bool
  | .field _ => true
  | .spread (.field _) => true
  | _ => false

/-- The outcome of an evaluation: a property that one of the path's fields misses is null. -/
def settle (p : Path) (text : String) : Except QueryError Value → Except Failure Value
  | .ok v => .ok v
  | .error e =>
    match e.source with
    | .missingProperty .. =>
      if (p.segments[e.index]?).any Segment.isField then .ok .null else .error (.ofQuery text e)
    | _ => .error (.ofQuery text e)

/-- A result as a type; null counts as nothing found unless the type accepts it. -/
def coerce (t : Target) (text : String) (v : Value) : Except Failure Typed :=
  if v.isNull && !t.acceptsNull then .error (.notFound text)
  else
    match v.convert t with
    | .ok r => .ok r
    | .error e => .error (.coercion text e)

/-- A result as an object. Lists and maps are read from their document form. A scalar is read as
it is, or, if that fails and it is a string, as the document that its text holds. -/
def toObject? (mapper : ObjectMapper) (s : Shape) (v : Value) : Option Object :=
  match v with
  | .node e => if mapper = .xml then s.ofElement? none e else s.ofText? v.toJson.compact
  | .list _ | .map _ => s.ofText? v.toJson.compact
  | .string t =>
    match s.ofJson? .scalar v.toJson with
    | some o => some o
    | none => s.ofText? (trim t)
  | _ => s.ofJson? .scalar v.toJson

def toObject (mapper : ObjectMapper) (s : Shape) (text : String) (v : Value) :
    Except Failure Object :=
  match toObject? mapper s v with
  | some o => .ok o
  | none => .error (.object text)

def Json.ask (config : JsonConfig) (j : Json) (text : String) : Except Failure Value := do
  let p ← compile text
  settle p p.render (p.eval (.ofJson config.numbers j) [])

/-- Elements of a result as they read in the document: one without child elements is its text.
Lists of elements collapse, as do all lists that `collapse` says: an empty one to null and one
with a single item to that item. -/
def shapeValue (collapse : Bool) : Value → Value
  | .node e => if e.isLeaf then .string e.text else .node e
  | .list vs =>
    let shaped := shapeItems vs
    if collapse || vs.all Value.isNode then
      match shaped with
      | [] => .null
      | [v] => v
      | vs => .list vs
    else .list shaped
  | v => v
where
  shapeItems : List Value → List Value
    | [] => []
    | v :: vs => shapeValue false v :: shapeItems vs

def Path.navigates (p : Path) : Bool :=
  match p.segments.getLast? with
  | none => true
  | some (.field _) | some (.index _) | some .wildcard | some .descent => true
  | _ => false

def shape (p : Path) (v : Value) : Value := shapeValue p.navigates v

/-- The value that a path into markup starts from. A path that names the root element starts above
it. -/
def startOf (p : Path) (root : Element) : Value :=
  if p.leadingField? = some root.name then .node ((Element.empty "#document").withChild root)
  else .node root

def Element.ask (root : Element) (text : String) (params : List (String × Value)) (p : Path) :
    Except Failure Value :=
  settle p text (p.eval (startOf p root) params)

/-- A question to an element as the value that the path starts from. -/
def Element.path (e : Element) (text : String) : Except Failure Value := do
  let p ← compile text
  let v ← settle p text (p.eval (.node e) [])
  .ok (shape p v)

end DocPath
