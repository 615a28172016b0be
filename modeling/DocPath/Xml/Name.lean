import DocPath.Text.Basic

/-!
Characters, names and namespaces of strict markup. A qualified name has at most one colon, and a
name after it. What stands before the colon is bound to a namespace in the element that declares it
and in all elements below, until it is declared anew there; a name without a colon takes the binding
of the empty prefix, except that an attribute without a colon has no namespace.
-/

namespace DocPath.Xml

def inRanges (ranges : List (Nat × Nat)) (c : Char) : Bool :=
  ranges.any fun r => r.1 ≤ c.toNat && c.toNat ≤ r.2

def isChar (c : Char) : Bool :=
  if c.toNat < 0x20 then isBlank c else c.toNat != 0xFFFE && c.toNat != 0xFFFF

def nameStartRanges : List (Nat × Nat) :=
  [(0xC0, 0xD6), (0xD8, 0xF6), (0xF8, 0x2FF), (0x370, 0x37D), (0x37F, 0x1FFF), (0x200C, 0x200D),
    (0x2070, 0x218F), (0x2C00, 0x2FEF), (0x3001, 0xD7FF), (0xF900, 0xFDCF), (0xFDF0, 0xFFFD),
    (0x10000, 0xEFFFF)]

def nameOtherRanges : List (Nat × Nat) := [(0xB7, 0xB7), (0x300, 0x36F), (0x203F, 0x2040)]

def isNameStart (c : Char) : Bool :=
  c.isAlpha || c = ':' || c = '_' || inRanges nameStartRanges c

def isNameChar (c : Char) : Bool :=
  isNameStart c || isDigit c || c = '-' || c = '.' || inRanges nameOtherRanges c

/-- A name with what stands before its colon; that is empty where there is no colon. -/
structure QName where
  qualifier : String
  name : String
  deriving DecidableEq, Repr

def charsUntil (stop : List Char → Bool) : Scan (List Char)
  | [] => some ([], [])
  | c :: rest =>
    if !isChar c then none
    else if stop (c :: rest) then some ([], c :: rest)
    else (charsUntil stop rest).map fun p => (c :: p.1, p.2)

/-- A name in which colons are letters. -/
def plainName : Scan (List Char)
  | [] => none
  | c :: rest =>
    if isNameStart c then some (c :: rest.takeWhile isNameChar, rest.dropWhile isNameChar) else none

/-- The start of a name is absent or allowed there. -/
def startsName (cs : List Char) : Bool := cs.head?.all isNameStart

def qualifiedName : Scan QName := fun cs =>
  let word := cs.takeWhile isNameChar
  let rest := cs.dropWhile isNameChar
  let before := word.takeWhile (· != ':')
  match word.dropWhile (· != ':') with
  | _ :: after =>
    if startsName before && !after.isEmpty && startsName after && !after.contains ':' then
      some (⟨String.ofList before, String.ofList after⟩, rest)
    else none
  | [] =>
    if !before.isEmpty && startsName before then some (⟨"", String.ofList before⟩, rest) else none

def blanks1 : Scan Unit
  | [] => none
  | c :: rest => if isBlank c then some ((), skipBlanks rest) else none

def quotationMark : Scan Char
  | [] => none
  | c :: rest => if c = '"' || c = '\'' then some (c, rest) else none

def equalsSign : Scan Unit := fun cs =>
  match skipBlanks cs with
  | '=' :: rest => some ((), skipBlanks rest)
  | _ => none

def standardSpace (path : String) : String := "http:" ++ "//www." ++ "w3.org/" ++ path

def xmlSpace : String := standardSpace "XML/1998/namespace"

def declarationSpace : String := standardSpace "2000/xmlns/"

/-- What qualifiers stand for; the empty one stands for the namespace of plain names. -/
abbrev Bindings := List (String × String)

structure Attribute where
  key : QName
  value : String
  deriving DecidableEq, Repr

def declare? (own : Bindings) (a : Attribute) : Option (Option Bindings) :=
  if a.key.qualifier = "xmlns" then
    if a.value = declarationSpace then none
    else if a.key.name = "xml" then if a.value = xmlSpace then some (some own) else none
    else if a.value = xmlSpace || (own.lookup a.key.name).isSome then none
    else some (some (own ++ [(a.key.name, a.value)]))
  else if a.key.name = "xmlns" then
    if a.value = xmlSpace || a.value = declarationSpace then none
    else some (some (own ++ [("", a.value)]))
  else some none

def splitAttributes? : Bindings → List Attribute → Option (Bindings × List Attribute)
  | own, [] => some (own, [])
  | own, a :: as =>
    match declare? own a with
    | none => none
    | some (some own) => splitAttributes? own as
    | some none => (splitAttributes? own as).map fun p => (p.1, a :: p.2)

/-- The namespace of an element name; a qualifier has to be bound. -/
def elementSpace? (bindings : Bindings) (tag : QName) : Option (Option String) :=
  match bindings.lookup tag.qualifier with
  | some uri => some (some uri)
  | none => if tag.qualifier.isEmpty then some none else none

def attributeSpace? (bindings : Bindings) (key : QName) : Option (Option String) :=
  if key.qualifier = "xml" then some (some xmlSpace)
  else if key.qualifier.isEmpty then some none
  else (bindings.lookup key.qualifier).map some

/-- The attributes under their local names, unless two have one name in one namespace. -/
def localAttributes? (bindings : Bindings) (attributes : List Attribute) :
    Option (List (String × String)) := do
  let spaces ← attributes.mapM fun a => attributeSpace? bindings a.key
  let names := spaces.zip (attributes.map fun a => a.key.name)
  if names.Nodup then some (entriesOf (attributes.map fun a => (a.key.name, a.value))) else none

end DocPath.Xml
