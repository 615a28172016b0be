import DocPath.Element

/-!
The parts of lenient markup in their order, and the tree that they make. End tags need not match:
one closes the innermost open element of its name and all elements in it, and one that matches no
open element does nothing. What is open at the end is closed there.
-/

namespace DocPath.Html

inductive Event where
  | start (name : String) (attributes : List (String × String))
  | empty (name : String) (attributes : List (String × String))
  | close (name : String)
  | text (s : String)
  | cdata (s : String)
  /-- A comment, a declaration or an instruction. -/
  | ignored
  deriving DecidableEq, Repr

/-- The elements that have no content, and so no need of an end tag. -/
def voidElements : List String :=
  ["area", "base", "br", "col", "embed", "hr", "img", "input", "link", "meta", "param", "source",
    "track", "wbr"]

def lowerAscii (s : String) : List Char := s.toList.map Char.toLower

def isVoid (name : String) : Bool := voidElements.any fun v => v.toList == lowerAscii name

def sameName (a b : String) : Bool := lowerAscii a == lowerAscii b

/-- The elements under construction, the innermost one first. The last one is the document, which
collects what stands outside of every element. -/
abbrev Stack := List Element

namespace Stack

def start : Stack := [.empty "#document"]

def modify (f : Element → Element) : Stack → Stack
  | [] => []
  | e :: es => f e :: es

def addText (s : String) (stack : Stack) : Stack := stack.modify (·.withText s)

def addChild (e : Element) (stack : Stack) : Stack := stack.modify (·.withChild e)

def close : Stack → Stack
  | e :: parent :: es => parent.withChild e :: es
  | stack => stack

def closeMany : Nat → Stack → Stack
  | 0, stack => stack
  | n + 1, stack => closeMany n stack.close

def opened (stack : Stack) : List Element := stack.dropLast

/-- Closes the innermost open element of a name and all in it. -/
def closeNamed (name : String) (stack : Stack) : Stack :=
  match stack.opened.findIdx? fun e => sameName e.name name with
  | some k => closeMany (k + 1) stack
  | none => stack

def closeAll (stack : Stack) : Stack := closeMany stack.opened.length stack

end Stack

/-- The element of a tag; of two attributes with one name, the later value counts. -/
def ofTag (name : String) (attributes : List (String × String)) : Element :=
  .mk name none (entriesOf attributes) []

def Event.apply (stack : Stack) : Event → Stack
  | .start name attributes =>
    if isVoid name then stack.addChild (ofTag name attributes) else ofTag name attributes :: stack
  | .empty name attributes => stack.addChild (ofTag name attributes)
  | .close name => stack.closeNamed name
  | .text s | .cdata s => stack.addText s
  | .ignored => stack

def stackOf (events : List Event) : Stack := events.foldl Event.apply Stack.start

def documentOf (events : List Event) : Element :=
  (stackOf events).closeAll.head?.getD (.empty "#document")

/-- The first element of a document; one without elements has an empty root. -/
def rootOf (events : List Event) : Element :=
  (documentOf events).elements.head?.getD (.empty "html")

end DocPath.Html
