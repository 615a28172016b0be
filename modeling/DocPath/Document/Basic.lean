import DocPath.Charset.Basic
import DocPath.Eval.Scope
import DocPath.Number.Basic
import DocPath.Path.Grammar
import DocPath.Regex.CharSet

/-!
What documents are read from and how: texts, or bytes that a charset turns into text, under a
configuration. The ways in which a question to a document fails, with the texts in quotation marks
that their messages hold.
-/

namespace DocPath

/-- Characters that leave no mark of their own: controls, separators, unassigned characters and
marks that combine with the character before them. -/
def hiddenSet : Regex.CharSet :=
  .diff (.unionAll (["cc", "cf", "co", "cn", "z", "mn", "me"].filterMap Regex.category?))
    (.single ' ')

def quotedChar (c : Char) : List Char :=
  if c = '"' || c = '\\' then ['\\', c]
  else if c = '\n' then ['\\', 'n']
  else if c = '\r' then ['\\', 'r']
  else if c = '\t' then ['\\', 't']
  else if c = '\x00' then ['\\', '0']
  else if ' ' ≤ c && c ≤ '~' then [c]
  else if hiddenSet.contains c then '\\' :: 'u' :: '\x7b' :: (Nat.toDigits 16 c.toNat ++ ['\x7d'])
  else [c]

def quoted (s : String) : String := String.ofList ('"' :: (s.toList.flatMap quotedChar ++ ['"']))

inductive DocumentFormat where
  | json
  | xml
  | html
  /-- The bytes of the document could not be had at all. -/
  | unavailable
  deriving DecidableEq, Repr

inductive Failure where
  | document (format : DocumentFormat)
  /-- The text is not a path. -/
  | path (text : String) (source : SyntaxError)
  /-- The path does not fit the document. -/
  | invalidPath (text : String) (index : Nat) (segment : String) (reason : EvalError)
  /-- A type without null was asked for where nothing is. -/
  | notFound (text : String)
  | coercion (text : String) (source : CoercionError)
  | undefinedParameter (name : String)
  /-- The result does not have the shape that was asked for. -/
  | object (text : String)
  /-- The configuration names no known charset. -/
  | charset (label : String)
  deriving DecidableEq, Repr

namespace Failure

def charsetMessage (label : String) : String := "unknown charset " ++ quoted label

/-- A failed evaluation of a path text. Undefined parameters and coercions have failures of their
own. -/
def ofQuery (text : String) (e : QueryError) : Failure :=
  match e.source with
  | .undefinedParameter name => .undefinedParameter name
  | .coercion source => .coercion text source
  | reason => .invalidPath text e.index e.segment reason

end Failure

inductive Source where
  | text (s : String)
  | bytes (bs : List UInt8)
  deriving DecidableEq

/-- The text of a source; the charset only matters for bytes. -/
def Source.decode (label : String) : Source → Except Failure String
  | .text s => .ok s
  | .bytes bs =>
    match Charset.named? label with
    | some c => .ok (c.decode bs)
    | none => .error (.charset label)

@[simp] theorem Source.decode_text (label s : String) : (Source.text s).decode label = .ok s := rfl

/-- How structured results become objects: by their document form, or elements by their markup. -/
inductive ObjectMapper where
  | json
  | xml
  deriving DecidableEq, Repr

structure JsonConfig where
  numbers : NumberPolicy := .floatAndDouble
  /-- The charset of byte sources. -/
  charset : String := "UTF-8"
  mapper : ObjectMapper := .json
  deriving DecidableEq, Repr

/-- How markup is read: as strict markup, or leniently. -/
inductive MarkupMode where
  | xml
  | html
  deriving DecidableEq, Repr

structure XmlConfig where
  mode : MarkupMode := .xml
  /-- The charset of byte sources. -/
  charset : String := "UTF-8"
  /-- Whether strict markup may have a document type. -/
  doctype : Bool := false
  mapper : ObjectMapper := .xml
  deriving DecidableEq, Repr

end DocPath
