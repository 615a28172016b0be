import DocPath.Document.Reading
import DocPath.Json.Reader

/-!
Documents in JSON. What is kept of a reading is the document as it is written, and one tree for
each way of reading its numbers; a reading that fails leaves nothing.
-/

namespace DocPath

/-- A document with what reading it has given so far. -/
structure JsonDocument where
  source : Source
  /-- The charset of the source if it is bytes. -/
  charset : String
  json? : Option Json := none
  trees : List (NumberPolicy × Value) := []

namespace JsonDocument

def parse (charset : String) (source : Source) : Except Failure Json := do
  let text ← source.decode charset
  match Json.read? text with
  | some j => .ok j
  | none => .error (.document .json)

def read (d : JsonDocument) : Except Failure Json × JsonDocument :=
  match d.json? with
  | some j => (.ok j, d)
  | none =>
    match parse d.charset d.source with
    | .ok j => (.ok j, { d with json? := some j })
    | .error e => (.error e, d)

def treeOf (numbers : NumberPolicy) (j : Json) (d : JsonDocument) : Value × JsonDocument :=
  match d.trees.lookup numbers with
  | some v => (v, d)
  | none =>
    let v := Value.ofJson numbers j
    (v, { d with trees := (numbers, v) :: d.trees })

def tree (config : JsonConfig) (d : JsonDocument) : Except Failure Value × JsonDocument :=
  match d.read with
  | (.ok j, d) =>
    let (v, d) := d.treeOf config.numbers j
    (.ok v, d)
  | (.error e, d) => (.error e, d)

end JsonDocument

instance : Reading JsonConfig JsonDocument Value where
  builtIn := {}
  mapper := JsonConfig.mapper
  unread source config := { source, charset := config.charset }
  source := JsonDocument.source
  readsLike d config := config.charset == d.charset
  tree := JsonDocument.tree
  run p text params root := settle p text (p.evalBorrowed root params)
  shape _ v := v
  whole v := v
  pretty root := root.toJson.pretty

end DocPath
