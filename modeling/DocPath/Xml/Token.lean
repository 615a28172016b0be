import DocPath.Xml.Name

/-!
The parts of strict markup in their order. Tags come with the attributes as written, text and
attribute values with their references. The content of an element ends with its end tag; what
follows the root element may only be comments and instructions.
-/

namespace DocPath.Xml

structure RawAttribute where
  key : QName
  value : List Char
  deriving DecidableEq, Repr

inductive Token where
  | start (tag : QName) (attributes : List RawAttribute)
  | empty (tag : QName) (attributes : List RawAttribute)
  | close (tag : QName)
  | text (raw : List Char)
  | cdata (raw : List Char)
  /-- A comment or an instruction. -/
  | aside
  /-- The declaration of a name for a text. -/
  | entity (name value : List Char)
  deriving DecidableEq, Repr

def startsWith (w : String) (cs : List Char) : Bool := w.toList.isPrefixOf cs

def hasInfix (w : List Char) : List Char → Bool
  | [] => w.isEmpty
  | c :: cs => w.isPrefixOf (c :: cs) || hasInfix w cs

/-- A comment, from its angle bracket. Two hyphens end it. -/
def comment : Scan Token := fun cs => do
  let (body, rest) ← charsUntil (startsWith "-->") (cs.drop 4)
  let ((), rest) ← Scan.word "-->".toList rest
  if hasInfix "--".toList body || body.getLast? = some '-' then none else some (.aside, rest)

def instruction : Scan Token := fun cs => do
  if startsWith "<?xml " cs then none
  else
    let (_, rest) ← plainName (cs.drop 2)
    let (_, rest) ← charsUntil (startsWith "?>") (skipBlanks rest)
    let ((), rest) ← Scan.word "?>".toList rest
    some (.aside, rest)

def literalText : Scan Token := fun cs => do
  let (body, rest) ← charsUntil (startsWith "]]>") (cs.drop 9)
  let ((), rest) ← Scan.word "]]>".toList rest
  some (.cdata body, rest)

def endTag : Scan Token := fun cs => do
  let (tag, rest) ← qualifiedName (cs.drop 2)
  let ((), rest) ← Scan.word ['>'] (skipBlanks rest)
  some (.close tag, rest)

/-- Text up to the next angle bracket; the end mark of literal text may not stand in it. -/
def plainText : Scan Token := fun cs => do
  let (body, rest) ← charsUntil (startsWith "<") cs
  if hasInfix "]]>".toList body then none else some (.text body, rest)

def attributeValue : Scan (List Char) := fun cs => do
  let (quote, rest) ← quotationMark cs
  let (value, rest) ← charsUntil (fun cs => cs.head? = some quote || startsWith "<" cs) rest
  let ((), rest) ← Scan.word [quote] rest
  some (value, rest)

def rawAttribute : Scan RawAttribute := fun cs => do
  let (key, rest) ← qualifiedName cs
  let ((), rest) ← equalsSign rest
  let (value, rest) ← attributeValue rest
  some (⟨key, value⟩, rest)

inductive TagEnd where
  | opened
  | closed
  /-- The text ends in the tag. -/
  | cut
  deriving DecidableEq, Repr

def tagRest : Nat → Scan (List RawAttribute × TagEnd)
  | 0, _ => none
  | _ + 1, [] => some (([], .cut), [])
  | n + 1, c :: cs =>
    match skipBlanks (c :: cs) with
    | '/' :: '>' :: rest => some (([], .closed), rest)
    | '>' :: rest => some (([], .opened), rest)
    | rest =>
      if !isBlank c then none
      else do
        let (a, rest) ← rawAttribute rest
        let ((as, ending), rest) ← tagRest n rest
        some ((a :: as, ending), rest)

def startTag : Scan (QName × List RawAttribute × TagEnd) := fun cs => do
  let (tag, rest) ← qualifiedName (cs.drop 1)
  let ((attributes, ending), rest) ← tagRest (rest.length + 1) rest
  some ((tag, attributes, ending), rest)

/-- The parts of content in which `depth` elements are open, to the end tag of the element around
it or to the end of the text. -/
def content : Nat → Nat → Scan (List Token)
  | 0, _, _ => some ([], [])
  | n + 1, depth, cs =>
    let following (part : Option (Token × List Char)) : Option (List Token × List Char) := do
      let (token, rest) ← part
      let (tokens, rest) ← content n depth rest
      some (token :: tokens, rest)
    match cs with
    | [] => some ([], [])
    | '<' :: '!' :: _ =>
      if startsWith "<!--" cs then following (comment cs)
      else if startsWith "<![CDATA[" cs then following (literalText cs)
      else none
    | '<' :: '?' :: _ => following (instruction cs)
    | '<' :: '/' :: _ => do
      let (token, rest) ← endTag cs
      match depth with
      | 0 => some ([token], rest)
      | depth + 1 =>
        let (tokens, rest) ← content n depth rest
        some (token :: tokens, rest)
    | ['<'] => none
    | '<' :: _ => do
      let ((tag, attributes, ending), rest) ← startTag cs
      match ending with
      | .cut => some ([], [])
      | .closed =>
        let (tokens, rest) ← content n depth rest
        some (.empty tag attributes :: tokens, rest)
      | .opened =>
        let (tokens, rest) ← content n (depth + 1) rest
        some (.start tag attributes :: tokens, rest)
    | _ => following (plainText cs)

def contentTokens? (cs : List Char) : Option (List Token) := (content cs.length 0 cs).map Prod.fst

def asides : Nat → Scan (List Token)
  | 0, cs => some ([], cs)
  | n + 1, cs =>
    let cs := skipBlanks cs
    let following (part : Option (Token × List Char)) : Option (List Token × List Char) := do
      let (token, rest) ← part
      let (tokens, rest) ← asides n rest
      some (token :: tokens, rest)
    if startsWith "<!--" cs then following (comment cs)
    else if startsWith "<?" cs then following (instruction cs)
    else some ([], cs)

/-- Blanks between the parts of a declaration, which may be absent at its end. -/
def declarationBlanks : Scan Unit := fun cs =>
  match cs with
  | [] => some ((), [])
  | c :: _ => if isBlank c || startsWith "?>" cs then some ((), skipBlanks cs) else none

/-- One of the settings of a declaration, which may be absent, and what must follow it. -/
def setting (name : String) (after : Scan Unit) : Scan Unit := fun cs =>
  if startsWith name cs then (rawAttribute cs).bind fun p => after p.2 else some ((), cs)

def declaration : Scan Unit := fun cs => do
  let ((), rest) ← declarationBlanks (cs.drop 5)
  if !startsWith "version" rest then none
  else
    let ((), rest) ← setting "version" declarationBlanks rest
    let ((), rest) ← setting "encoding" declarationBlanks rest
    let ((), rest) ← setting "standalone" (fun cs => some ((), cs)) rest
    Scan.word "?>".toList (skipBlanks rest)

def quoted : Scan (List Char) := fun cs => do
  let (quote, rest) ← quotationMark cs
  match rest.dropWhile (· != quote) with
  | _ :: after => some (rest.takeWhile (· != quote), after)
  | [] => none

def externalId : Scan Unit := fun cs => do
  let ((), rest) ← blanks1 (cs.drop 6)
  let (_, rest) ← quoted rest
  if startsWith "PUBLIC" cs then
    let ((), rest) ← blanks1 rest
    let (_, rest) ← quoted rest
    some ((), rest)
  else some ((), rest)

def isExternal (cs : List Char) : Bool := startsWith "SYSTEM" cs || startsWith "PUBLIC" cs

def entityText (general : Bool) : Scan (Option (List Char)) := fun cs =>
  if isExternal cs then do
    let ((), rest) ← externalId cs
    let rest := skipBlanks rest
    if general && startsWith "NDATA" rest then
      let ((), rest) ← blanks1 (rest.drop 5)
      let (_, rest) ← plainName rest
      some (none, rest)
    else some (none, rest)
  else (quoted cs).map fun p => (some p.1, p.2)

def entityDeclaration : Scan (List Token) := fun cs => do
  let ((), rest) ← blanks1 (cs.drop 8)
  let (general, rest) ← match rest with
    | '%' :: rest => (blanks1 rest).map fun p => (false, p.2)
    | rest => some (true, rest)
  let (name, rest) ← plainName rest
  let ((), rest) ← blanks1 rest
  let (value, rest) ← entityText general rest
  let ((), rest) ← Scan.word ['>'] (skipBlanks rest)
  match value with
  | some value => some ([.entity name value], rest)
  | none => some ([], rest)

def typeBody : Nat → Scan (List Token)
  | 0, cs => some ([], cs)
  | n + 1, cs =>
    let following (part : Option (List Token × List Char)) : Option (List Token × List Char) := do
      let (tokens, rest) ← part
      let (more, rest) ← typeBody n rest
      some (tokens ++ more, rest)
    if cs.isEmpty then some ([], [])
    else
      let cs := skipBlanks cs
      if startsWith "<!ENTITY" cs then following (entityDeclaration cs)
      else if startsWith "<!--" cs then following ((comment cs).map fun p => ([p.1], p.2))
      else if startsWith "<?" cs then following ((instruction cs).map fun p => ([p.1], p.2))
      else if startsWith "]" cs then
        (Scan.word ['>'] (skipBlanks (cs.drop 1))).map fun p => ([], p.2)
      else if startsWith "<!ELEMENT" cs || startsWith "<!ATTLIST" cs ||
          startsWith "<!NOTATION" cs then
        match cs.dropWhile (· != '>') with
        | _ :: rest => following (some ([], rest))
        | [] => none
      else none

def documentType : Scan (List Token) := fun cs => do
  let ((), rest) ← blanks1 (cs.drop 9)
  let (_, rest) ← plainName rest
  let rest := skipBlanks rest
  let ((), rest) ← if isExternal rest then externalId rest else some ((), rest)
  match skipBlanks rest with
  | '>' :: rest => some ([], rest)
  | '[' :: rest => typeBody (rest.length + 1) rest
  | _ => none

def rootTokens : Scan (List Token) := fun cs => do
  let ((tag, attributes, ending), rest) ← startTag cs
  match ending with
  | .cut => some ([], rest)
  | .closed => some ([.empty tag attributes], rest)
  | .opened =>
    let (tokens, rest) ← content rest.length 0 rest
    some (.start tag attributes :: tokens, rest)

def tokens? (typed : Bool) (text : String) : Option (List Token) := do
  let cs := match text.toList with
    | '\ufeff' :: rest => rest
    | cs => cs
  let n := cs.length
  let ((), cs) ← if startsWith "<?xml " cs then declaration cs else some ((), cs)
  let (before, cs) ← asides n cs
  let (types, cs) ←
    if startsWith "<!DOCTYPE" cs then
      if typed then do
        let (types, cs) ← documentType cs
        let (more, cs) ← asides n cs
        some (types ++ more, cs)
      else none
    else some ([], cs)
  let (root, cs) ← if startsWith "<" cs then rootTokens cs else some ([], cs)
  let (after, cs) ← asides n cs
  if cs.isEmpty then some (before ++ types ++ root ++ after) else none

end DocPath.Xml
