import DocPath.Element
import DocPath.Xml.Expansion
import DocPath.Xml.Name

/-!
The tree of strict markup. Each end tag closes the innermost open element and must have its name.
A run of text between two tags, comments or instructions is dropped if it holds only white space.
-/

namespace DocPath.Xml

structure Frame where
  tag : QName
  element : Element
  bindings : Bindings

structure Building where
  /-- The open elements, the innermost one first. -/
  frames : List Frame
  /-- The root element once it is closed. -/
  root? : Option Element
  /-- The text since the last tag. -/
  text : String
  entities : Entities
  /-- The number of entities expanded inside the entity that is being expanded. -/
  count : Nat
  /-- Whether a tag has started in the text that is being read. -/
  tagged : Bool

namespace Building

def start : Building := ⟨[], none, "", [], 0, false⟩

def addText (s : String) (b : Building) : Building := { b with text := b.text ++ s }

def endText (b : Building) : Building :=
  match b.frames with
  | f :: fs =>
    if b.text.toList.all isSpace then { b with text := "" }
    else { b with text := "", frames := { f with element := f.element.withText b.text } :: fs }
  | [] => { b with text := "" }

/-- Puts a closed element into the one around it, or makes it the root. -/
def addElement (e : Element) (b : Building) : Building :=
  match b.frames with
  | f :: fs => { b with frames := { f with element := f.element.withChild e } :: fs }
  | [] => { b with root? := some (b.root?.getD e) }

def bindings (b : Building) : Bindings := (b.frames.head?.map Frame.bindings).getD []

def values? (depth : Nat) (b : Building) :
    List RawAttribute → Option (List Attribute × Building)
  | [] => some ([], b)
  | a :: as => do
    let (value, count) ← valueText? b.entities depth b.count a.value
    let (attributes, b) ← values? depth { b with count := count } as
    some (⟨a.key, value⟩ :: attributes, b)

def element? (tag : QName) (attributes : List Attribute) (b : Building) :
    Option (Element × Bindings) := do
  if tag.qualifier = "xmlns" then none
  else
    let (own, attributes) ← splitAttributes? [] attributes
    let bindings := own ++ b.bindings
    let entries ← localAttributes? bindings attributes
    let space ← elementSpace? bindings tag
    some (.mk tag.name space entries [], bindings)

def close? (tag : QName) (b : Building) : Option Building :=
  match b.frames with
  | f :: fs => if f.tag = tag then some (addElement f.element { b with frames := fs }) else none
  | [] => none

end Building

/-- The text of a run, reversed, up to its end or up to an entity. `verbatim` says that the next
character keeps its form. -/
def textUntilEntity (inside : Bool) :
    Nat → Bool → List Char → List Char → Option (List Char × Option (List Char × List Char))
  | 0, _, read, _ => some (read, none)
  | _ + 1, _, read, [] => some (read, none)
  | n + 1, verbatim, read, c :: rest =>
    if c != '&' then
      textUntilEntity inside n false
        (if verbatim then c :: read else pushLineEnd read c rest.isEmpty) rest
    else
      match reference rest with
      | none => none
      | some (.char d, rest) =>
        if inside then textUntilEntity inside n verbatim (pushLineEnd read d rest.isEmpty) rest
        else textUntilEntity inside n true (d :: read) rest
      | some (.entity name, rest) => some (read, some (name, rest))

/-- Adds a run of text; `expand` adds the content of an entity. -/
def addRun (expand : List Char → Building → Option Building) (inside : Bool) :
    Nat → List Char → Building → Option Building
  | 0, _, b => some b
  | n + 1, raw, b =>
    match textUntilEntity inside raw.length false [] raw with
    | none => none
    | some (read, next) =>
      let b := b.addText (String.ofList read.reverse)
      match next with
      | none => some b
      | some (name, rest) =>
        match b.entities.lookup name, nextCount? inside b.count with
        | some text, some count =>
          match expand text { b with count := count, tagged := false } with
          | none => none
          | some b' =>
            addRun expand inside n rest
              { b' with count := if inside then b'.count else 0, tagged := b.tagged }
        | _, _ => none

/-- Adds a part of a document. Entities in it may stand `depth` deep. -/
def addToken (expand : List Char → Building → Option Building) (depth : Nat) (b : Building) :
    Token → Option Building
  | .aside => some b.endText
  | .entity name value => some { b with entities := b.entities ++ [(name, value)] }
  | .text raw => addRun expand (depth < maxDepth) (raw.length + 1) raw b
  | .cdata raw => some (b.addText (String.ofList (lineEnds [] raw)))
  | .empty tag attributes => do
    let (attributes, b) ← b.endText.values? depth attributes
    let (e, _) ← b.element? tag attributes
    some { b.addElement e with tagged := true }
  | .start tag attributes => do
    let (attributes, b) ← b.endText.values? depth attributes
    let (e, bindings) ← b.element? tag attributes
    some { b with frames := ⟨tag, e, bindings⟩ :: b.frames, tagged := true }
  | .close tag => if b.tagged then b.endText.close? tag else none

def addTokens (expand : List Char → Building → Option Building) (depth : Nat) :
    Building → List Token → Option Building
  | b, [] => some b
  | b, t :: ts =>
    match addToken expand depth b t with
    | some b => addTokens expand depth b ts
    | none => none

def addEntity : Nat → List Char → Building → Option Building
  | 0, _, _ => none
  | depth + 1, text, b => (contentTokens? text).bind (addTokens (addEntity depth) depth b)

def rootOf? (tokens : List Token) : Option Element :=
  match addTokens (addEntity maxDepth) maxDepth .start tokens with
  | some b => if b.frames.isEmpty then b.root? else none
  | none => none

def read? (typed : Bool) (text : String) : Option Element := (tokens? typed text).bind rootOf?

end DocPath.Xml
