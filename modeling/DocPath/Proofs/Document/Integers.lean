import DocPath.Proofs.Document.Agreement
import DocPath.Proofs.Document.Memory
import DocPath.Proofs.Json.RoundTrip

/-!
Documents of whole numbers. Reading them loses nothing: whatever representation a number was read
in, it is written with the digits that it was read from. So the tree is written as the document,
and the document is read back from its text over several lines.
-/

namespace DocPath

namespace IntegerToken

variable {t : IntegerToken} {n : Number}

/-- A number is written as its token, unless that is a zero with a sign. -/
theorem integerText_value (unsigned : t.isNegativeZero = false) : integerText t.value = t.text := by
  have sign := negative_eq unsigned
  rw [integerText, integerChars, natAbs_value, ← digits_eq, text, chars, sign]
  simp only [decide_eq_true_eq]

theorem Represents.toJson (form : t.Represents n) (unsigned : t.isNegativeZero = false) :
    n.toJson = .number t.text := by
  cases form with
  | int value => rw [Number.toJson, value, integerText_value unsigned]
  | long value => rw [Number.toJson, value, integerText_value unsigned]
  | @bigInteger d sign coefficient scale =>
    have same : d.toText = t.text := by
      apply String.toList_inj.mp
      rw [Decimal.toText, sign, coefficient, ← digits_eq, ← negative_eq unsigned, toList_text,
        chars]
      simp only [scale, if_true]
      cases t.negative <;> simp
    rw [Number.toJson, same]
  | exact => rfl

end IntegerToken

def IsWholeText (text : String) : Prop :=
  ∃ t : IntegerToken, t.isNegativeZero = false ∧ text = t.text

/-- Documents all of whose numbers are whole, no zero with a sign among them. -/
def Json.IsWhole (j : Json) : Prop := j.AllNumbers IsWholeText

mutual
theorem toJson_ofJson (policy : NumberPolicy) :
    ∀ {j : Json}, j.AllNumbers IsWholeText → (Value.ofJson policy j).toJson = j
  | .null, _ | .bool _, _ | .string _, _ => by simp only [Value.ofJson, Value.toJson]
  | .number text, whole => by
    rw [Json.AllNumbers] at whole
    obtain ⟨t, unsigned, rfl⟩ := whole
    rw [Value.ofJson, Value.toJson, (t.represents_ofDocument policy).toJson unsigned]
  | .array js, whole => by
    rw [Json.AllNumbers] at whole
    rw [Value.ofJson, Value.toJson, itemsToJson_itemsOfJson policy whole]
  | .object fs, whole => by
    rw [Json.AllNumbers] at whole
    rw [Value.ofJson, Value.toJson, entriesToJson_entriesOfJson policy whole]
theorem itemsToJson_itemsOfJson (policy : NumberPolicy) : ∀ {js : List Json},
    Json.AllNumbersOfItems IsWholeText js →
    Value.itemsToJson (Value.itemsOfJson policy js) = js
  | [], _ => by rw [Value.itemsOfJson, Value.itemsToJson]
  | j :: js, whole => by
    rw [Json.AllNumbersOfItems] at whole
    rw [Value.itemsOfJson, Value.itemsToJson, toJson_ofJson policy whole.1,
      itemsToJson_itemsOfJson policy whole.2]
theorem entriesToJson_entriesOfJson (policy : NumberPolicy) : ∀ {fs : List (String × Json)},
    Json.AllNumbersOfFields IsWholeText fs →
    Value.entriesToJson (Value.entriesOfJson policy fs) = fs
  | [], _ => by rw [Value.entriesOfJson, Value.entriesToJson]
  | (key, j) :: fs, whole => by
    rw [Json.AllNumbersOfFields] at whole
    rw [Value.entriesOfJson, Value.entriesToJson, toJson_ofJson policy whole.1,
      entriesToJson_entriesOfJson policy whole.2]
end

theorem Json.IsWhole.read?_pretty {j : Json} (whole : j.IsWhole) {text : String}
    (read : Json.read? text = some j) : Json.read? j.pretty = some j := by
  refine Json.read?_pretty (Json.fits_of_read? read) (whole.mono ?_)
  rintro text ⟨t, -, rfl⟩
  exact Json.isNumberText_token t

theorem JsonDocument.read?_of_parse {charset : String} {source : Source} {j : Json}
    (parsed : parse charset source = .ok j) : ∃ text, Json.read? text = some j := by
  unfold parse at parsed
  cases decoded : source.decode charset with
  | error e =>
    rw [decoded] at parsed
    exact nomatch parsed
  | ok text =>
    simp only [decoded, bind, Except.bind] at parsed
    split at parsed
    · next read =>
      cases parsed
      exact ⟨text, read⟩
    · exact nomatch parsed

/-- The paths that the whole document is found at. -/
def IsRootPath (path : String) : Prop := path = "" ∨ path = "$"

theorem compile_root {path : String} (root : IsRootPath path) :
    compile (joinRootPath "" path) = .ok ⟨[]⟩ := by
  rcases root with rfl | rfl <;> rfl

namespace PlainHandle

variable {k : PlainHandle} {j : Json} {config : JsonConfig}

theorem tree_parsed (parsed : JsonDocument.parse k.charset k.source = .ok j)
    (numbers : NumberPolicy) : k.tree numbers = .ok (.ofJson numbers j) := by
  simp only [tree, parsed, bind, Except.bind]

theorem answer_pretty (parsed : JsonDocument.parse k.charset k.source = .ok j) :
    k.answer config .pretty = .ok (.text (Value.ofJson config.numbers j).toJson.pretty) := by
  simp only [answer, tree_parsed parsed, bind, Except.bind]

theorem answer_root (parsed : JsonDocument.parse k.charset k.source = .ok j)
    (above : k.rootPath = "") {path : String} (root : IsRootPath path) :
    k.answer config (.find path .value) = .ok (.value (.ofJson config.numbers j)) := by
  simp only [answer, above, compile_root root, find, tree_parsed parsed, bind, Except.bind]
  rfl

end PlainHandle

theorem Session.answer_after (ts : List (Step JsonConfig)) {name : String}
    {h : Handle JsonConfig} {d : JsonDocument}
    (handle : (Session.run {} ts).2.handle? name = some h)
    (document : (Session.run {} ts).2.document? h = some d) :
    ∃ config, ∀ q, ((Session.run {} ts).2.step (.ask name q)).1 =
      some ((h.plain d).answer config q) := by
  have tells := (Session.tells_empty.run ts).2
  rcases tells.handles name with ⟨none, -⟩ | ⟨h', k, handle', -, d', document', faithful, -⟩
  · rw [none] at handle
    exact nomatch handle
  · cases handle'.symm.trans handle
    cases document'.symm.trans document
    refine ⟨h.config?.getD (Session.run {} ts).2.config, fun q => ?_⟩
    rw [Session.reply_ask handle document]
    exact congrArg some (faithful.ask _ h q).1

/-- A document of whole numbers survives: under every policy its tree is written as the document,
with the same keys in the same order and the same digits. So its text over several lines is read
as the same document, and the empty path and the root give a value that is written as it. -/
theorem whole_documents_survive :
    (∀ policy (j : Json), j.IsWhole → (Value.ofJson policy j).toJson = j) ∧
    ∀ (ts : List (Step JsonConfig)) (name : String) (h : Handle JsonConfig) (d : JsonDocument)
      (j : Json), (Session.run {} ts).2.handle? name = some h →
      (Session.run {} ts).2.document? h = some d →
      JsonDocument.parse d.charset d.source = .ok j → j.IsWhole →
      (∃ text, ((Session.run {} ts).2.step (.ask name .pretty)).1 = some (.ok (.text text)) ∧
        Json.read? text = some j) ∧
      (h.rootPath = "" → ∀ path, IsRootPath path →
        ∃ v, ((Session.run {} ts).2.step (.ask name (.find path .value))).1 =
          some (.ok (.value v)) ∧ v.toJson = j) := by
  refine ⟨fun policy j whole => toJson_ofJson policy whole, ?_⟩
  intro ts name h d j handle document parsed whole
  obtain ⟨config, answers⟩ := Session.answer_after ts handle document
  obtain ⟨text, read⟩ := JsonDocument.read?_of_parse parsed
  have same := toJson_ofJson config.numbers whole
  constructor
  · refine ⟨j.pretty, ?_, whole.read?_pretty read⟩
    rw [answers, PlainHandle.answer_pretty (k := h.plain d) parsed, same]
  · intro above path root
    refine ⟨.ofJson config.numbers j, ?_, same⟩
    rw [answers, PlainHandle.answer_root (k := h.plain d) parsed above root]

/-- A document with a number that no decimal holds. -/
theorem whole_documents_survive_nested :
    (Value.ofJson .bigInteger (.array [.number "-79228162514264337593543950336",
        .array [.number "0"]])).toJson =
      .array [.number "-79228162514264337593543950336", .array [.number "0"]] ∧
    (∃ text, ((Session.run ({} : Session JsonConfig JsonDocument)
        [.openSource "a" (.ok (.text "[-79228162514264337593543950336, [0]]")) none]).2.step
          (.ask "a" .pretty)).1 = some (.ok (.text text)) ∧
      Json.read? text = some (.array [.number "-79228162514264337593543950336",
        .array [.number "0"]])) ∧
    ∃ v, ((Session.run ({} : Session JsonConfig JsonDocument)
        [.openSource "a" (.ok (.text "[-79228162514264337593543950336, [0]]")) none]).2.step
          (.ask "a" (.find "$" .value))).1 = some (.ok (.value v)) ∧
      v.toJson = .array [.number "-79228162514264337593543950336", .array [.number "0"]] := by
  have whole : (Json.array [.number "-79228162514264337593543950336",
      .array [.number "0"]]).IsWhole := by
    simp only [Json.IsWhole, Json.AllNumbers, Json.AllNumbersOfItems, and_true]
    exact ⟨⟨⟨true, "79228162514264337593543950336".toList, by decide, by decide, by decide⟩,
      by decide, rfl⟩, ⟨⟨false, ['0'], by decide, by decide, by decide⟩, by decide, rfl⟩⟩
  have survives := whole_documents_survive.2
    [.openSource "a" (.ok (.text "[-79228162514264337593543950336, [0]]")) none] "a"
    ⟨0, none, "", []⟩ ⟨.text "[-79228162514264337593543950336, [0]]", "UTF-8", none, []⟩ _ rfl rfl rfl whole
  exact ⟨whole_documents_survive.1 .bigInteger _ whole, survives.1,
    survives.2 rfl "$" (.inr rfl)⟩

end DocPath
