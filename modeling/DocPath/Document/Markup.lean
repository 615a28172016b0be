import DocPath.Document.Reading
import DocPath.Html.Reader
import DocPath.Xml.Tree

/-!
Documents in markup. A document keeps how it is read, whatever the configuration of a later
question says, and the root element once it was read.
-/

namespace DocPath

structure MarkupDocument where
  source : Source
  /-- The charset of the source if it is bytes. -/
  charset : String
  mode : MarkupMode
  doctype : Bool
  root? : Option Element := none

namespace MarkupDocument

def parse (mode : MarkupMode) (doctype : Bool) (text : String) : Except Failure Element :=
  match mode with
  | .xml =>
    match Xml.read? doctype text with
    | some e => .ok e
    | none => .error (.document .xml)
  | .html =>
    match Html.read? text with
    | some e => .ok e
    | none => .error (.document .html)

def root (d : MarkupDocument) : Except Failure Element × MarkupDocument :=
  match d.root? with
  | some e => (.ok e, d)
  | none =>
    match (d.source.decode d.charset).bind (parse d.mode d.doctype) with
    | .ok e => (.ok e, { d with root? := some e })
    | .error e => (.error e, d)

end MarkupDocument

/-- The only item of a list stands for the list. -/
def onlyItem : Value → Value
  | .list [v] => v
  | v => v

instance : Reading XmlConfig MarkupDocument Element where
  builtIn := {}
  mapper := XmlConfig.mapper
  unread source config :=
    { source, charset := config.charset, mode := config.mode, doctype := config.doctype }
  source := MarkupDocument.source
  readsLike d config :=
    d.charset == config.charset && d.mode == config.mode && d.doctype == config.doctype
  tree _ := MarkupDocument.root
  run p text params root := root.ask text params p
  shape := DocPath.shape
  whole := onlyItem
  pretty := Markup.write .indented

end DocPath
