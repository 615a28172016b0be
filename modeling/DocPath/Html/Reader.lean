import DocPath.Html.Event
import DocPath.Markup.Basic
import DocPath.Text.Basic

/-!
Lenient markup split into its parts. A text in which one reference cannot be read is kept as
written, and blanks around text do not count. An attribute may stand without a value or without
quotes around it; one whose name was there before is skipped. Reading fails where a part does not
end, and at an end tag where no start tag is left over.
-/

namespace DocPath.Html

def referenceChar? : List Char → Option Char
  | '#' :: digits => do
    let n ← Markup.number? digits
    if h : n.isValidChar then if n = 0 then none else some (Char.ofNatAux n h) else none
  | name => Markup.named? name

/-- Text with its references replaced; `open?` holds what has been read of a reference, reversed. -/
def unescapeFrom (open? : Option (List Char)) : List Char → Option (List Char)
  | [] => if open?.isNone then some [] else none
  | c :: rest =>
    match open? with
    | none =>
      if c = '&' then unescapeFrom (some []) rest
      else (unescapeFrom none rest).map (c :: ·)
    | some read =>
      if c = '&' then none
      else if c = ';' then do
        let d ← referenceChar? read.reverse
        let text ← unescapeFrom none rest
        some (d :: text)
      else unescapeFrom (some (c :: read)) rest

def unescape (cs : List Char) : List Char := (unescapeFrom none cs).getD cs

def localName (name : List Char) : List Char :=
  match name.dropWhile (· != ':') with
  | _ :: rest => rest
  | [] => name

/-- The text up to the greater-than sign that ends a tag, which does not stand between quotes. -/
def tagText (quote? : Option Char) : List Char → Option (List Char × List Char)
  | [] => none
  | c :: rest =>
    match quote? with
    | none =>
      if c = '>' then some ([], rest)
      else
        (tagText (if c = '\'' || c = '"' then some c else none) rest).map fun p => (c :: p.1, p.2)
    | some q => (tagText (if c = q then none else some q) rest).map fun p => (c :: p.1, p.2)

def attributeValue? (cs : List Char) : Option (List Char × List Char) :=
  match skipBlanks cs with
  | [] => none
  | c :: rest =>
    if c = '"' || c = '\'' then
      match rest.dropWhile (· != c) with
      | _ :: after => some (rest.takeWhile (· != c), after)
      | [] => none
    else some ((c :: rest).takeWhile (!isBlank ·), (c :: rest).dropWhile (!isBlank ·))

/-- The attributes in the rest of a tag, as written. `seen` holds the names before them. -/
def attributesFrom : Nat → List (List Char) → List Char → List (List Char × List Char)
  | 0, _, _ => []
  | n + 1, seen, cs =>
    match skipBlanks cs with
    | [] => []
    | c :: cs =>
      let ends (d : Char) : Bool := d = '=' || isBlank d
      let name := c :: cs.takeWhile (!ends ·)
      match skipBlanks (cs.dropWhile (!ends ·)) with
      | '=' :: rest =>
        if seen.contains name then attributesFrom n seen (rest.dropWhile (!isBlank ·))
        else
          match attributeValue? rest with
          | some (value, rest) => (name, value) :: attributesFrom n (name :: seen) rest
          | none => []
      | rest =>
        if seen.contains name then attributesFrom n seen rest
        else (name, []) :: attributesFrom n (name :: seen) rest

def readTag (cs : List Char) : String × List (String × String) :=
  let rest := cs.dropWhile (!isBlank ·)
  (String.ofList (localName (cs.takeWhile (!isBlank ·))),
    (attributesFrom rest.length [] rest).map fun p =>
      (String.ofList (localName p.1), String.ofList (unescape p.2)))

def startsWith (w : String) (cs : List Char) : Bool := w.toList.isPrefixOf cs

def endsWith (w : String) (cs : List Char) : Bool := w.toList.isSuffixOf cs

/-- The text before the first greater-than sign at which the text before it, reversed, is an end. -/
def before? (isEnd : List Char → Bool) : List Char → List Char → Option (List Char × List Char)
  | _, [] => none
  | read, c :: rest =>
    if c = '>' && isEnd read then some (read.reverse, rest) else before? isEnd (c :: read) rest

def balanced? : Nat → List Char → List Char → Option (List Char × List Char)
  | _, _, [] => none
  | depth, read, c :: rest =>
    if c = '<' then balanced? (depth + 1) (c :: read) rest
    else if c = '>' then
      match depth with
      | 0 => some (read.reverse, rest)
      | depth + 1 => balanced? depth (c :: read) rest
    else balanced? depth (c :: read) rest

def bang? (cs : List Char) : Option (Event × List Char) :=
  match cs with
  | _ :: '-' :: _ => do
    let (body, rest) ← before? (fun read => 5 ≤ read.length && startsWith "--" read) [] cs
    if startsWith "!--" body then some (.ignored, rest) else none
  | _ :: '[' :: _ => do
    let (body, rest) ← before? (startsWith "]]") [] cs
    if startsWith "![CDATA[" body then
      some (.cdata (String.ofList ((body.drop 8).dropLast.dropLast)), rest)
    else none
  | _ :: d :: _ =>
    if d = 'D' || d = 'd' then do
      let (body, rest) ← balanced? 0 [] cs
      if startsWith "!doctype" (body.map Char.toLower) && !(skipBlanks (body.drop 8)).isEmpty then
        some (.ignored, rest)
      else none
    else none
  | _ => none

def instruction? (cs : List Char) : Option (Event × List Char) := do
  let (body, rest) ← before? (startsWith "?") [] cs
  if 2 ≤ body.length then some (.ignored, rest) else none

def endTag? (cs : List Char) : Option (Event × List Char) := do
  let (body, rest) ← tagText none cs
  let name := body.drop 1
  let name := if name.all isBlank then name else dropLastBlanks name
  some (.close (String.ofList (localName name)), rest)

def startTag? (cs : List Char) : Option (Event × List Char) := do
  let (body, rest) ← tagText none cs
  if endsWith "/" body then
    let (name, attributes) := readTag body.dropLast
    some (.empty name attributes, rest)
  else
    let (name, attributes) := readTag body
    some (.start name attributes, rest)

def markup? (cs : List Char) : Option (Event × List Char) :=
  match cs with
  | [] => none
  | '!' :: _ => bang? cs
  | '/' :: _ => endTag? cs
  | '?' :: _ => instruction? cs
  | _ => startTag? cs

/-- The number of start tags left over after a part, if there is one for an end tag. -/
def Event.pending? (count : Nat) : Event → Option Nat
  | .start .. => some (count + 1)
  | .close _ => if count = 0 then none else some (count - 1)
  | _ => some count

/-- The parts of a text of at most `n` characters, after `count` start tags left over. -/
def eventsFrom? : Nat → Nat → List Char → Option (List Event)
  | 0, _, _ => some []
  | n + 1, count, cs =>
    let cs := skipBlanks cs
    let text := cs.takeWhile (· != '<')
    let here : List Event :=
      if text.isEmpty then [] else [.text (String.ofList (unescape (dropLastBlanks text)))]
    match cs.dropWhile (· != '<') with
    | [] => some here
    | _ :: rest => do
      let (event, rest) ← markup? rest
      let count ← event.pending? count
      let events ← eventsFrom? n count rest
      some (here ++ event :: events)

def events? (text : String) : Option (List Event) :=
  let cs := match text.toList with
    | '\ufeff' :: rest => rest
    | cs => cs
  eventsFrom? cs.length 0 cs

def read? (text : String) : Option Element := (events? text).map rootOf

end DocPath.Html
