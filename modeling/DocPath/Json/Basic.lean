import DocPath.Text.Basic

/-!
Documents in JSON, and how they are written: on one line or indented by two spaces. A number is kept
as its text, with a lower case exponent mark and an explicit sign on the exponent; the fields of an
object keep the order of their first occurrence.
-/

namespace DocPath

inductive Json where
  | null
  | bool (b : Bool)
  | number (text : String)
  | string (s : String)
  | array (items : List Json)
  | object (fields : List (String × Json))
  deriving Inhabited

namespace Json

def get? (j : Json) (key : String) : Option Json :=
  match j with
  | .object fields => fields.lookup key
  | _ => none

def string? : Json → Option String
  | .string s => some s
  | _ => none

def array? : Json → Option (List Json)
  | .array items => some items
  | _ => none

def object? : Json → Option (List (String × Json))
  | .object fields => some fields
  | _ => none

def bool? : Json → Option Bool
  | .bool b => some b
  | _ => none

end Json

end DocPath

namespace DocPath.Json

def hexDigit (n : Nat) : Char := if n < 10 then Char.ofNat (48 + n) else Char.ofNat (87 + n)

def escape (c : Char) : List Char :=
  if c = '"' then ['\\', '"']
  else if c = '\\' then ['\\', '\\']
  else if c = '\x08' then ['\\', 'b']
  else if c = '\x0c' then ['\\', 'f']
  else if c = '\n' then ['\\', 'n']
  else if c = '\r' then ['\\', 'r']
  else if c = '\t' then ['\\', 't']
  else if c.toNat < 32 then ['\\', 'u', '0', '0', hexDigit (c.toNat / 16), hexDigit (c.toNat % 16)]
  else [c]

def quote (s : String) : List Char := '"' :: (s.toList.flatMap escape ++ ['"'])

mutual
def chars : Json → List Char
  | .null => "null".toList
  | .bool b => if b then "true".toList else "false".toList
  | .number t => t.toList
  | .string s => quote s
  | .array js => '[' :: (itemChars js ++ [']'])
  | .object fs => '{' :: (fieldChars fs ++ ['}'])
def itemChars : List Json → List Char
  | [] => []
  | [j] => chars j
  | j :: js => chars j ++ ',' :: itemChars js
def fieldChars : List (String × Json) → List Char
  | [] => []
  | [(k, j)] => quote k ++ ':' :: chars j
  | (k, j) :: fs => quote k ++ ':' :: (chars j ++ ',' :: fieldChars fs)
end

def newline (depth : Nat) : List Char := '\n' :: List.replicate (2 * depth) ' '

mutual
/-- The text of a value over several lines, its own lines indented to `depth`. -/
def prettyChars (depth : Nat) : Json → List Char
  | .null => "null".toList
  | .bool b => if b then "true".toList else "false".toList
  | .number t => t.toList
  | .string s => quote s
  | .array js =>
    if js.isEmpty then "[]".toList
    else '[' :: (prettyItems (depth + 1) js ++ newline depth ++ [']'])
  | .object fs =>
    if fs.isEmpty then ['{', '}']
    else '{' :: (prettyFields (depth + 1) fs ++ newline depth ++ ['}'])
def prettyItems (depth : Nat) : List Json → List Char
  | [] => []
  | [j] => newline depth ++ prettyChars depth j
  | j :: js => newline depth ++ prettyChars depth j ++ ',' :: prettyItems depth js
def prettyFields (depth : Nat) : List (String × Json) → List Char
  | [] => []
  | [(k, j)] => newline depth ++ quote k ++ ':' :: ' ' :: prettyChars depth j
  | (k, j) :: fs =>
    newline depth ++ quote k ++ ':' :: ' ' :: (prettyChars depth j ++ ',' :: prettyFields depth fs)
end

def compact (j : Json) : String := String.ofList j.chars

def pretty (j : Json) : String := String.ofList (j.prettyChars 0)

end DocPath.Json
