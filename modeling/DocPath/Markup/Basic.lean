import DocPath.Element
import DocPath.Text.Basic

/-!
Characters that markup writes by name or by number, and elements written as markup. On several
lines, a tag stands on a line of its own, two spaces deeper than the tag around it, unless text
comes directly before it.
-/

namespace DocPath.Markup

def named? (name : List Char) : Option Char :=
  match String.ofList name with
  | "lt" => some '<'
  | "gt" => some '>'
  | "amp" => some '&'
  | "apos" => some '\''
  | "quot" => some '"'
  | _ => none

def number? : List Char → Option Nat
  | 'x' :: digits => hexNumeral? digits
  | digits => numeral? digits

def escape (c : Char) : List Char :=
  if c = '<' then "&lt;".toList
  else if c = '>' then "&gt;".toList
  else if c = '&' then "&amp;".toList
  else if c = '\'' then "&apos;".toList
  else if c = '"' then "&quot;".toList
  else [c]

def escapeText (s : String) : List Char := s.toList.flatMap escape

/-- How an element is written: on one line, or with each tag on a line indented to its depth. -/
inductive Layout where
  | compact
  | indented
  deriving DecidableEq, Repr

/-- What comes before a tag at a depth; `broken` says that no text comes directly before it. -/
def beforeTag (layout : Layout) (broken : Bool) (depth : Nat) : List Char :=
  match layout, broken with
  | .indented, true => '\n' :: List.replicate (2 * depth) ' '
  | _, _ => []

def attributeChars (p : String × String) : List Char :=
  ' ' :: (p.1.toList ++ '=' :: '"' :: (escapeText p.2 ++ ['"']))

/-- The attributes of a tag. The namespace comes first where it is not the one around. -/
def tagAttributes (around : Option String) (e : Element) : List (String × String) :=
  match e.space with
  | some uri => if around = some uri then e.attributes else ("xmlns", uri) :: e.attributes
  | none => e.attributes

mutual
def elementChars (layout : Layout) (depth : Nat) (broken : Bool) (around : Option String) :
    Element → List Char
  | .mk name space attributes children =>
    let tag := '<' :: (name.toList ++
      (tagAttributes around (.mk name space attributes [])).flatMap attributeChars)
    beforeTag layout broken depth ++ tag ++
      if children.isEmpty then ['/', '>']
      else '>' :: (childChars layout (depth + 1) true space children ++
        beforeTag layout (endsBroken children) depth ++ '<' :: '/' :: (name.toList ++ ['>']))
def childChars (layout : Layout) (depth : Nat) (broken : Bool) (around : Option String) :
    List Child → List Char
  | [] => []
  | .text s :: rest => escapeText s ++ childChars layout depth false around rest
  | .element e :: rest =>
    elementChars layout depth broken around e ++ childChars layout depth true around rest
def endsBroken : List Child → Bool
  | [] => true
  | [.text _] => false
  | _ :: rest => endsBroken rest
end

def write (layout : Layout) (e : Element) : String :=
  String.ofList (elementChars layout 0 false none e)

end DocPath.Markup
