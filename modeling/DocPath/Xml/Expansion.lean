import DocPath.Markup.Basic
import DocPath.Xml.Token

/-!
References in strict markup, and the form that line ends and blanks take. A line ends with a line
feed, however it was written; in an attribute a line end or a tab is a space. Characters written
by reference keep their form outside of entities.
-/

namespace DocPath.Xml

open scoped NatPower

inductive Reference where
  | char (c : Char)
  | entity (name : List Char)
  deriving DecidableEq, Repr

/-- The character of a number; a number of no character stands for the replacement character. -/
def charOf (n : Nat) : Char := if h : n.isValidChar then Char.ofNatAux n h else '\ufffd'

def referenceNumber? (cs : List Char) : Option (Nat × List Char) :=
  let isHex := cs.head? = some 'x'
  let cs := if isHex then cs.drop 1 else cs
  let inNumber (c : Char) : Bool := if isHex then (hexValue? c).isSome else isDigit c
  let digits := cs.takeWhile inNumber
  let n? := if isHex then hexNumeral? digits else numeral? digits
  n?.bind fun n => if n < 2 ^ (32 : Nat) then some (n, cs.dropWhile inNumber) else none

def reference : Scan Reference := fun cs =>
  match cs with
  | '#' :: rest => do
    let (n, rest) ← referenceNumber? rest
    let ((), rest) ← Scan.word [';'] rest
    if isChar (charOf n) then some (.char (charOf n), rest) else none
  | _ => do
    let (name, rest) ← plainName cs
    let ((), rest) ← Scan.word [';'] rest
    match Markup.named? name with
    | some c => some (.char c, rest)
    | none => some (.entity name, rest)

/-- The texts of the declared names; of two with one name, the first counts. -/
abbrev Entities := List (List Char × List Char)

def maxDepth : Nat := 10

def maxExpansions : Nat := 255

/-- The number of expansions after one more. In the document itself they are not counted. -/
def nextCount? (inside : Bool) (count : Nat) : Option Nat :=
  if !inside then some count else if maxExpansions ≤ count then none else some (count + 1)

/-- The value of an attribute, reversed onto what has been read, with the number of expansions so
far. The value stands inside an entity or in the document itself. -/
def expandValue (entities : Entities)
    (expand : List Char → List Char × Nat → Option (List Char × Nat)) (inside : Bool) :
    Nat → List Char → List Char × Nat → Option (List Char × Nat)
  | 0, _, acc => some acc
  | _ + 1, [], acc => some acc
  | n + 1, c :: rest, (read, count) =>
    let blank (c : Char) : Char := if c = '\n' || c = '\r' || c = '\t' then ' ' else c
    if c != '&' then
      if c = '\r' && rest.head? = some '\n' then
        expandValue entities expand inside n rest (read, count)
      else expandValue entities expand inside n rest (blank c :: read, count)
    else
      match reference rest with
      | none => none
      | some (.char d, rest) =>
        if inside && d = '<' then none
        else
          expandValue entities expand inside n rest
            ((if inside then blank d else d) :: read, count)
      | some (.entity name, rest) =>
        match entities.lookup name, nextCount? inside count with
        | some text, some count =>
          match expand text (read, count) with
          | none => none
          | some (read, count) =>
            expandValue entities expand inside n rest (read, if inside then count else 0)
        | _, _ => none

/-- The text of an entity in an attribute value, in which entities may stand `depth - 1` deep. -/
def expandInValue (entities : Entities) :
    Nat → List Char → List Char × Nat → Option (List Char × Nat)
  | 0, _, _ => none
  | depth + 1, text, acc =>
    expandValue entities (expandInValue entities depth) true text.length text acc

def valueText? (entities : Entities) (depth count : Nat) (raw : List Char) :
    Option (String × Nat) :=
  (expandValue entities (expandInValue entities depth) (depth < maxDepth) raw.length raw
    ([], count)).map
    fun p => (String.ofList p.1.reverse, p.2)

/-- Text, reversed, with one more character; `last` says that the text ends with it. -/
def pushLineEnd (read : List Char) (c : Char) (last : Bool) : List Char :=
  let shown := if last && c = '\r' then '\n' else c
  match read with
  | '\r' :: before => if shown = '\n' && c = '\n' then '\n' :: before else shown :: '\n' :: before
  | _ => shown :: read

def lineEnds (read : List Char) : List Char → List Char
  | [] => read.reverse
  | c :: rest => lineEnds (pushLineEnd read c rest.isEmpty) rest

end DocPath.Xml
