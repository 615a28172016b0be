import DocPath.Json.Basic
import DocPath.Text.Basic

/-!
Reading documents in JSON. Arrays and objects nest at most 127 deep; a repeated key keeps its
first place and takes its last value.
-/

namespace DocPath.Json

def hex4 : Scan Nat
  | a :: b :: c :: d :: rest => do
    let a ← hexValue? a
    let b ← hexValue? b
    let c ← hexValue? c
    let d ← hexValue? d
    some (((a * 16 + b) * 16 + c) * 16 + d, rest)
  | _ => none

/-- A code unit escape; the two halves of a pair make one character. -/
def unicodeEscape : Scan Char := fun cs => do
  let (high, rest) ← hex4 cs
  if 0xD800 ≤ high && high < 0xDC00 then
    match rest with
    | '\\' :: 'u' :: rest =>
      let (low, rest) ← hex4 rest
      if 0xDC00 ≤ low && low < 0xE000 then
        some (Char.ofNat (0x10000 + (high - 0xD800) * 0x400 + (low - 0xDC00)), rest)
      else none
    | _ => none
  else if 0xDC00 ≤ high && high < 0xE000 then none
  else some (Char.ofNat high, rest)

def simpleEscape? : Char → Option Char
  | '"' => some '"'
  | '\\' => some '\\'
  | '/' => some '/'
  | 'b' => some '\x08'
  | 'f' => some '\x0c'
  | 'n' => some '\n'
  | 'r' => some '\r'
  | 't' => some '\t'
  | _ => none

def stringBody : Nat → List Char → Scan String
  | 0, _, _ => none
  | _ + 1, _, [] => none
  | n + 1, acc, c :: rest =>
    if c = '"' then some (String.ofList acc.reverse, rest)
    else if c = '\\' then
      match rest with
      | 'u' :: rest =>
        match unicodeEscape rest with
        | some (u, rest) => stringBody n (u :: acc) rest
        | none => none
      | e :: rest =>
        match simpleEscape? e with
        | some u => stringBody n (u :: acc) rest
        | none => none
      | [] => none
    else if c.toNat < 32 then none
    else stringBody n (c :: acc) rest

def wholePart : Scan (List Char)
  | '0' :: rest => some (['0'], rest)
  | cs =>
    let ds := cs.takeWhile isDigit
    if ds.isEmpty then none else some (ds, cs.dropWhile isDigit)

def fractionPart : Scan (List Char)
  | '.' :: rest =>
    let ds := rest.takeWhile isDigit
    if ds.isEmpty then none else some ('.' :: ds, rest.dropWhile isDigit)
  | cs => some ([], cs)

/-- An exponent, written with a lower case mark and an explicit sign. -/
def exponentPart : Scan (List Char)
  | c :: rest =>
    if c = 'e' || c = 'E' then
      let (sign, rest) := match rest with
        | '+' :: r => ('+', r)
        | '-' :: r => ('-', r)
        | r => ('+', r)
      let ds := rest.takeWhile isDigit
      if ds.isEmpty then none else some ('e' :: sign :: ds, rest.dropWhile isDigit)
    else some ([], c :: rest)
  | [] => some ([], [])

def numberText : Scan String := fun cs => do
  let (sign, cs) := match cs with
    | '-' :: r => (['-'], r)
    | r => ([], r)
  let (whole, cs) ← wholePart cs
  let (fraction, cs) ← fractionPart cs
  let (exponent, cs) ← exponentPart cs
  some (String.ofList (sign ++ whole ++ fraction ++ exponent), cs)

/-- The items of an array after its opening bracket; `first` allows the end at once. -/
def items (item : Scan Json) : Nat → Bool → List Json → Scan (List Json)
  | 0, _, _, _ => none
  | n + 1, first, acc, cs =>
    match skipBlanks cs with
    | ']' :: rest => if first then some ([], rest) else none
    | cs =>
      match item cs with
      | none => none
      | some (j, rest) =>
        match skipBlanks rest with
        | ',' :: rest => items item n false (j :: acc) rest
        | ']' :: rest => some ((j :: acc).reverse, rest)
        | _ => none

def fields (item : Scan Json) : Nat → Bool → List (String × Json) → Scan (List (String × Json))
  | 0, _, _, _ => none
  | n + 1, first, acc, cs =>
    match skipBlanks cs with
    | '}' :: rest => if first then some ([], rest) else none
    | '"' :: rest =>
      match stringBody (n + 1) [] rest with
      | none => none
      | some (key, rest) =>
        match skipBlanks rest with
        | ':' :: rest =>
          match item rest with
          | none => none
          | some (j, rest) =>
            match skipBlanks rest with
            | ',' :: rest => fields item n false ((key, j) :: acc) rest
            | '}' :: rest => some (((key, j) :: acc).reverse, rest)
            | _ => none
        | _ => none
    | _ => none

/-- A value that nests less than `depth` deep, in a text of at most `n` characters. -/
def value (n : Nat) : Nat → Scan Json
  | 0, _ => none
  | depth + 1, cs =>
    match skipBlanks cs with
    | 'n' :: rest => (Scan.word "ull".toList rest).map fun (_, r) => (.null, r)
    | 't' :: rest => (Scan.word "rue".toList rest).map fun (_, r) => (.bool true, r)
    | 'f' :: rest => (Scan.word "alse".toList rest).map fun (_, r) => (.bool false, r)
    | '"' :: rest => (stringBody (n + 1) [] rest).map fun (s, r) => (.string s, r)
    | '[' :: rest =>
      if depth = 0 then none
      else (items (value n depth) (n + 1) true [] rest).map fun (js, r) => (.array js, r)
    | '{' :: rest =>
      if depth = 0 then none
      else
        (fields (value n depth) (n + 1) true [] rest).map fun (fs, r) =>
          (.object (entriesOf fs), r)
    | rest => (numberText rest).map fun (t, r) => (.number t, r)

def maxDepth : Nat := 127

def readChars? (cs : List Char) : Option Json :=
  match value cs.length (maxDepth + 1) cs with
  | some (j, rest) => if (skipBlanks rest).isEmpty then some j else none
  | none => none

def read? (text : String) : Option Json := readChars? text.toList

end DocPath.Json
