import DocPath.Json.Basic

/-!
Elements of markup documents: a local name, an optional namespace, attributes in document order
and children, which are elements and text. An element is listed before its descendants; in
depth first order they follow it directly, in breadth first order level by level.
-/

namespace DocPath

mutual
inductive Element where
  | mk (name : String) (space : Option String) (attributes : List (String × String))
      (children : List Child)
inductive Child where
  | text (s : String)
  | element (e : Element)
end

def childElements : List Child → List Element
  | [] => []
  | .text _ :: cs => childElements cs
  | .element e :: cs => e :: childElements cs

/-- Text at the end of children; it is joined to text that is already there. -/
def appendText (s : String) : List Child → List Child
  | [] => [.text s]
  | [.text t] => [.text (t ++ s)]
  | c :: cs => c :: appendText s cs

namespace Element

instance : Inhabited Element := ⟨.mk "" none [] []⟩

def name : Element → String
  | .mk n _ _ _ => n

def space : Element → Option String
  | .mk _ s _ _ => s

def attributes : Element → List (String × String)
  | .mk _ _ as _ => as

def children : Element → List Child
  | .mk _ _ _ cs => cs

def empty (name : String) : Element := .mk name none [] []

def withSpace (e : Element) (space : String) : Element :=
  .mk e.name (some space) e.attributes e.children

/-- Sets an attribute; an old one keeps its place. -/
def withAttribute (e : Element) (key value : String) : Element :=
  .mk e.name e.space (insertEntry key value e.attributes) e.children

def withText (e : Element) (s : String) : Element :=
  .mk e.name e.space e.attributes (appendText s e.children)

def withChild (e child : Element) : Element :=
  .mk e.name e.space e.attributes (e.children ++ [.element child])

def attribute? (e : Element) (key : String) : Option String := e.attributes.lookup key

def elements (e : Element) : List Element := childElements e.children

def named (e : Element) (name : String) : List Element :=
  e.elements.filter fun c => c.name == name

def isLeaf (e : Element) : Bool := e.elements.isEmpty

end Element

mutual
def Element.text : Element → String
  | .mk _ _ _ cs => textOf cs
def Child.content : Child → String
  | .text s => s
  | .element e => e.text
def textOf : List Child → String
  | [] => ""
  | c :: cs => c.content ++ textOf cs
end

mutual
def Element.size : Element → Nat
  | .mk _ _ _ cs => sizeOfChildren cs + 1
def Child.count : Child → Nat
  | .text _ => 0
  | .element e => e.size
def sizeOfChildren : List Child → Nat
  | [] => 0
  | c :: cs => c.count + sizeOfChildren cs
end

mutual
/-- Equality of trees; the order of attributes does not matter. -/
def Element.sameAs : Element → Element → Bool
  | .mk n s as cs, .mk n' s' as' cs' =>
    n == n' && s == s' && as.length == as'.length &&
      as.all (fun p => as'.lookup p.1 == some p.2) && sameChildren cs cs'
def Child.sameAs : Child → Child → Bool
  | .text s, .text s' => s == s'
  | .element e, .element e' => e.sameAs e'
  | _, _ => false
def sameChildren : List Child → List Child → Bool
  | [], [] => true
  | c :: cs, c' :: cs' => c.sameAs c' && sameChildren cs cs'
  | _, _ => false
end

def groupEntries {α : Type} (entries : List (String × α)) : List (String × List α) :=
  entries.foldl (fun groups p => insertEntry p.1 (((groups.lookup p.1).getD []) ++ [p.2]) groups) []

def groupJson : List Json → Json
  | [j] => j
  | js => .array js

mutual
/-- An element as a document value.
A leaf without attributes is its text. Otherwise attributes come first, then the text of a leaf
or the child elements grouped by name. -/
def Element.toJson : Element → Json
  | .mk _ _ as cs =>
    let groups := groupEntries (childEntries cs)
    if groups.isEmpty && as.isEmpty then .string (textOf cs)
    else
      .object (as.map (fun p => ("@" ++ p.1, .string p.2)) ++
        (if groups.isEmpty then [("#text", .string (textOf cs))] else []) ++
        groups.map fun g => (g.1, groupJson g.2))
def childEntries : List Child → List (String × Json)
  | [] => []
  | .text _ :: cs => childEntries cs
  | .element e :: cs => (e.name, e.toJson) :: childEntries cs
end

namespace Element

/-- Takes elements off the front and puts their child elements before the rest. -/
def visitStack : Nat → List Element → List Element
  | 0, _ => []
  | _ + 1, [] => []
  | n + 1, e :: rest => e :: visitStack n (e.elements ++ rest)

/-- Takes elements off the front and puts their child elements after the rest. -/
def visitQueue : Nat → List Element → List Element
  | 0, _ => []
  | _ + 1, [] => []
  | n + 1, e :: rest => e :: visitQueue n (rest ++ e.elements)

def depthFirst (e : Element) : List Element := visitStack e.size [e]

def breadthFirst (e : Element) : List Element := visitQueue e.size [e]

@[simp] theorem name_withText (e : Element) (s : String) : (e.withText s).name = e.name := rfl

@[simp] theorem name_withAttribute (e : Element) (k v : String) :
    (e.withAttribute k v).name = e.name := rfl

@[simp] theorem name_withChild (e c : Element) : (e.withChild c).name = e.name := rfl

theorem elements_withChild (e c : Element) : (e.withChild c).elements = e.elements ++ [c] := by
  have h : ∀ cs : List Child, childElements (cs ++ [.element c]) = childElements cs ++ [c] := by
    intro cs
    induction cs with
    | nil => rfl
    | cons x xs ih => cases x <;> simp [childElements, ih]
  exact h e.children

end Element
end DocPath
