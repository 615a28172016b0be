import DocPath.Json.Basic
import DocPath.Path.Grammar
import DocPath.Path.Render

/-!
Paths kept in documents: a path is kept as its text.
-/

namespace DocPath

inductive StoredPathError where
  /-- It is not a text. -/
  | kind (found : String)
  | text (source : SyntaxError)
  deriving DecidableEq, Repr

def StoredPathError.message : StoredPathError → String
  | .kind found =>
    "invalid type: " ++ found ++ ", expected a string representing a GPath expression"
  | .text e => e.text

def Json.kindText : Json → String
  | .null => "null"
  | .bool b => "boolean \x60" ++ (if b then "true" else "false") ++ "\x60"
  | .number _ => "number"
  | .string _ => "string"
  | .array _ => "sequence"
  | .object _ => "map"

namespace Path

def toJson (p : Path) : Json := .string p.render

def ofJson (j : Json) : Except StoredPathError Path :=
  match j with
  | .string s =>
    match Path.read s with
    | .ok p => .ok p
    | .error e => .error (.text e)
  | j => .error (.kind j.kindText)

end Path
end DocPath
