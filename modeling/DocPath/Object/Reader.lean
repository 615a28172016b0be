import DocPath.Json.Reader
import DocPath.Markup.Basic
import DocPath.Object.Shape
import DocPath.Value.Convert

/-!
Objects read from documents and from elements. Each part must be of the kind that its shape asks
for. A record is an object with its fields, or an array of them in their order; fields that it does
not know are passed over. The fields of an element are its attributes, under their names after an at
sign, and its child elements; a field may not occur twice. A scalar is the text of an element
without child elements, without blanks at its ends.
-/

namespace DocPath.Shape

/-- Where a document comes from: a text, or a single value, whose numbers are read exactly. -/
inductive Origin where
  | text
  | scalar
  deriving DecidableEq, Repr

def singleChar? (s : String) : Option Object :=
  match s.toList with
  | [c] => some (.char c)
  | _ => none

def wordOfText? (signed : Bool) (bits : Nat) (cs : List Char) : Option Object :=
  if !signed && cs.head? = some '-' then none
  else ((readInteger? cs).filter (wordHolds signed bits)).map .word

def ofNumber? (origin : Origin) (text : String) : Shape → Option Object
  | .word signed bits =>
    match origin with
    | .text => ((NumberParts.ofText text).word?.filter (wordHolds signed bits)).map .word
    | .scalar => wordOfText? signed bits text.toList
  | .float =>
    match origin with
    | .text => (fieldFloat? text).map .float
    | .scalar => (Binary.read? text).map .float
  | .double =>
    match origin with
    | .text => (fieldDouble? text).map .double
    | .scalar => (Binary.read? text).map .double
  | _ => none

mutual
def ofJson? (origin : Origin) : Shape → Json → Option Object
  | .any, j => some (.any j)
  | .option s, j =>
    match j with
    | .null => some (.option none)
    | j => (ofJson? origin s j).map fun o => .option (some o)
  | .bool, .bool b => some (.bool b)
  | .char, .string s => singleChar? s
  | .string, .string s => some (.string s)
  | .decimal, .string s => (Decimal.read? s).map .decimal
  | .list s, .array js => (js.mapM (ofJson? origin s)).map .list
  | .map s, .object fs =>
    (fs.mapM fun p => (ofJson? origin s p.2).map fun o => (p.1, o)).map .map
  | .record fields, .object fs => (fieldsOfJson? origin fields fs).map .record
  | .record fields, .array js => (itemsOfJson? origin fields js).map .record
  | s, .number t => ofNumber? origin t s
  | _, _ => none
def fieldsOfJson? (origin : Origin) :
    List (String × Shape) → List (String × Json) → Option (List Object)
  | [], _ => some []
  | (name, s) :: fields, fs => do
    let o ← match fs.lookup name with
      | some j => ofJson? origin s j
      | none => s.absent?
    let os ← fieldsOfJson? origin fields fs
    some (o :: os)
def itemsOfJson? (origin : Origin) : List (String × Shape) → List Json → Option (List Object)
  | [], [] => some []
  | (_, s) :: fields, j :: js => do
    let o ← ofJson? origin s j
    let os ← itemsOfJson? origin fields js
    some (o :: os)
  | _, _ => none
end

def ofText? (s : Shape) (text : String) : Option Object := (Json.read? text).bind (s.ofJson? .text)

end DocPath.Shape

namespace DocPath

/-- The children that count as content: elements, and text without the blanks at its ends. -/
def contentOf : List Child → List Child
  | [] => []
  | .element e :: cs => .element e :: contentOf cs
  | .text s :: cs =>
    match dropLastBlanks (skipBlanks s.toList) with
    | [] => contentOf cs
    | t => .text (String.ofList t) :: contentOf cs

def leafText? (e : Element) : Option String :=
  match contentOf e.children with
  | [] => some ""
  | [.text s] => some s
  | _ => none

namespace Shape

def ofScalarText? (s : String) : Shape → Option Object
  | .word signed bits => wordOfText? signed bits s.toList
  | .float => (Binary.read? s).map .float
  | .double => (Binary.read? s).map .double
  | .bool =>
    if s = "true" || s = "1" then some (.bool true)
    else if s = "false" || s = "0" then some (.bool false)
    else none
  | .char => singleChar? s
  | .string => some (.string s)
  | _ => none

def ofPlain? (s : String) : Shape → Option Object
  | .any => some (.any (.string s))
  | .decimal => (Decimal.read? s).map .decimal
  | .option t =>
    if s.isEmpty then some (.option none) else (t.ofPlain? s).map fun o => .option (some o)
  | .list t => (((s.splitOn " ").filter (· != "")).mapM fun w => t.ofPlain? w).map .list
  | t => ofScalarText? s t

end Shape

/-- The fields of an element, in order: attributes, then text and child elements. `around` is the
namespace of the element around it. -/
def elementFields (around : Option String) (e : Element) : List (String × Child) :=
  (Markup.tagAttributes around e).map (fun p => ("@" ++ p.1, .text p.2)) ++
    (contentOf e.children).map fun c =>
      match c with
      | .text s => ("$text", .text s)
      | .element e => (e.name, .element e)

mutual
def Element.fieldsJson (around : Option String) : Element → Json
  | .mk name space attributes children =>
    .object (entriesOf
      ((Markup.tagAttributes around (.mk name space attributes [])).map
        (fun p => ("@" ++ p.1, .string p.2)) ++ childFieldsJson space children))
def childFieldsJson (around : Option String) : List Child → List (String × Json)
  | [] => []
  | .text s :: cs =>
    match dropLastBlanks (skipBlanks s.toList) with
    | [] => childFieldsJson around cs
    | t => ("$text", .string (String.ofList t)) :: childFieldsJson around cs
  | .element e :: cs => (e.name, e.fieldsJson around) :: childFieldsJson around cs
end

namespace Shape

mutual
def ofElement? (around : Option String) : Shape → Element → Option Object
  | .any, e => some (.any (e.fieldsJson around))
  | .option s, e => (ofElement? around s e).map fun o => .option (some o)
  | .list s, e => (ofElement? around s e).map fun o => .list [o]
  | .map s, e =>
    ((elementFields around e).mapM fun p =>
      (ofField? e.space s p.2).map fun o => (p.1, o)).map fun entries => .map (entriesOf entries)
  | .record fields, e => (fieldsOfElement? e.space fields (elementFields around e)).map .record
  | s, e => (leafText? e).bind fun t => ofScalarText? t s
def ofField? (around : Option String) : Shape → Child → Option Object
  | s, .text t => ofPlain? t s
  | s, .element e => ofElement? around s e
def fieldsOfElement? (around : Option String) :
    List (String × Shape) → List (String × Child) → Option (List Object)
  | [], _ => some []
  | (name, s) :: fields, content => do
    let o ← match content.filter fun p => p.1 == name with
      | [] => s.absent?
      | [p] => ofField? around s p.2
      | _ => none
    let os ← fieldsOfElement? around fields content
    some (o :: os)
end

end Shape

end DocPath
