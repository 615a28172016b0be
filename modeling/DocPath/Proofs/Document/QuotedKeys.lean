import DocPath.Proofs.Document.RootPath
import DocPath.Proofs.Path.QuotedLookups

/-!
Keys between quotes. Quotes and backslashes are escaped, so every key of a map can be asked for.
-/

namespace DocPath

open Reader

namespace Reader

/-- The shortest spelling of a character between quotes. -/
def spell (q : Quote) (a : Char) : List Char :=
  if a = q.char ∨ a = '\\' then ['\\', a] else [a]

theorem spell_spelling (q : Quote) (a : Char) : Spelling q (spell q a) a := by
  unfold spell
  split
  · next special =>
    rcases special with rfl | rfl
    · exact .escape .quote
    · exact .escape .backslash
  · next other => exact .plain (fun h => other (.inl h)) fun h => other (.inr h)

theorem spells_spell (q : Quote) (as : List Char) : Spells q (as.flatMap (spell q)) as := by
  induction as with
  | nil => exact .nil
  | cons a as ih => exact .cons (spell_spelling q a) ih

end Reader

def quotedKey (q : Quote) (key : String) : String :=
  String.ofList (q.char :: (key.toList.flatMap (spell q) ++ [q.char]))

section
variable (q : Quote) (key : String)

theorem quotedKey_chars :
    (quotedKey q key).toList = [q.char] ++ (key.toList.flatMap (spell q) ++ [q.char]) :=
  String.toList_ofList

theorem quote_edges (c : List Char) : Begins [q.char] ∧ Finishes (c ++ [q.char]) := by
  have ink : isSpace q.char = false := by cases q <;> decide
  have point : q.char ≠ '.' := by cases q <;> decide
  exact ⟨⟨_, [], rfl, ink⟩, c, q.char, rfl, ink, point⟩

theorem Path.read_quotedKey : Path.read (quotedKey q key) = .ok ⟨[.field key]⟩ := by
  have bracket (t : List Char) : ([q.char] ++ t).head? ≠ some '[' := by
    cases q <;> simp [Quote.char]
  have field (expr : Reader Expr) (n : Nat) : (subscript <|> segment expr n true)
      ([q.char] ++ (key.toList.flatMap (spell q) ++ [q.char])) = .done (.field key) [] :=
    (orElse_next ((subscript_opens _).mpr (bracket _))).trans
      (segment_quoted (spells_spell q key.toList) [])
  rw [Path.read, quotedKey_chars]
  refine readChars_segments (quote_edges q []).1 (quote_edges q _).2 ?_
  rw [Reader.segments, bind_done (field _ _),
    bind_done (many_none (subsequent_misses Loose.nil true) _)]
  rfl

theorem trim_quotedKey : trim (quotedKey q key) = quotedKey q key := by
  have last : Begins (quotedKey q key).toList.reverse := by
    rw [quotedKey_chars, ← List.append_assoc, List.reverse_append]
    exact (quote_edges q []).1.append _
  have first : Begins (quotedKey q key).toList := by
    rw [quotedKey_chars]
    exact (quote_edges q []).1.append _
  rw [trim, trimChars_of_begins first last, String.ofList_toList]

end

namespace Path

variable {base : Path} {start : Value} {params : List (String × Value)} {key : String}
  {m : List (String × Value)} {v : Value}

theorem eval_field (held : m.lookup key = some v) :
    (Path.mk [.field key]).eval (.map m) params = .ok v := by
  simp only [Path.eval, Path.evalFrom, Segment.eval, Value.field, held, Option.getD_some]

theorem settle_key (text : String) (led : base.eval start params = .ok (.map m))
    (held : m.lookup key = some v) :
    settle ⟨base.segments ++ [.field key]⟩ text
      (Path.eval ⟨base.segments ++ [.field key]⟩ start params) = .ok v := by
  have joined := @settle_joined base ⟨[.field key]⟩ text start params
  rw [answerBelow, led] at joined
  dsimp only at joined
  rw [eval_field held] at joined
  exact joined

end Path

namespace View

variable {view : View JsonConfig} {p : String} {root : Value} {m : List (String × Value)}

/-- What a handle leads to with a text in front of a key: the whole tree, what the root path leads
to, or what the text leads to behind the root path. -/
inductive LeadsTo (view : View JsonConfig) (root : Value) (m : List (String × Value)) :
    String → Prop where
  | whole (blank : trim view.rootPath = "") (map : root = .map m) : LeadsTo view root m ""
  | rootPath {base : Path} (read : Path.read view.rootPath = .ok base) (some : base.segments ≠ [])
      (led : base.eval root view.params = .ok (.map m)) : LeadsTo view root m ""
  | path {base : Path} {p : String} (full : trim p ≠ "")
      (read : Path.read (view.fullPath p) = .ok base) (some : base.segments ≠ [])
      (led : base.eval root view.params = .ok (.map m)) : LeadsTo view root m p

theorem LeadsTo.read_quotedKey (leads : view.LeadsTo root m p) (q : Quote) (key : String) :
    ∃ base : Path, Path.read (view.fullPath (joinRootPath p (quotedKey q key))) =
      .ok ⟨base.segments ++ [.field key]⟩ ∧ base.eval root view.params = .ok (.map m) := by
  have read := Path.read_quotedKey q key
  have alone : joinRootPath "" (quotedKey q key) = quotedKey q key := trim_quotedKey q key
  cases leads with
  | whole blank map =>
    refine ⟨⟨[]⟩, ?_, congrArg Except.ok map⟩
    rw [alone, fullPath, joinRootPath_blank blank, trim_quotedKey]
    exact read
  | rootPath read' some led =>
    rw [alone]
    exact ⟨_, Path.read_joinRootPath read' read some (by simp), led⟩
  | path full read' some led =>
    rw [fullPath, joinRootPath_assoc _ full (Path.trim_of_read read (by simp))]
    exact ⟨_, Path.read_joinRootPath read' read some (by simp), led⟩

theorem ask_quotedKey {d : JsonDocument} (tree : (d.tree view.config).1 = .ok root)
    (leads : view.LeadsTo root m p) {key : String} {v : Value} (held : m.lookup key = some v)
    (q : Quote) :
    (view.ask (.find (joinRootPath p (quotedKey q key)) .value) d).1 = .ok (.value v) := by
  obtain ⟨base, read, led⟩ := leads.read_quotedKey q key
  rw [view.ask_value read]
  simp only [Reading.tree, tree, Reading.run, Path.evalBorrowed_eq, Except.bind,
    Path.settle_key _ led held]
  rfl

end View

/-- A text between quotes is read exactly if it spells a text, whatever is behind its closing quote,
and is read as that text. Where neither the quote nor a spelling of a character follows, the reading
ends at that place. So each key of each map in a document gives what the map holds for it where it
stands between quotes. -/
theorem quoted_text_exact :
    (∀ (q : Quote) (t : List Char) (v : String) (r : List Char), Spells q t v.toList →
      stringLiteral (q.char :: (t ++ q.char :: r)) = .done v r) ∧
    (∀ (s : List Char) (v : String) (r : List Char), stringLiteral s = .done v r →
      ∃ q t, s = q.char :: (t ++ q.char :: r) ∧ Spells q t v.toList) ∧
    (∀ (q : Quote) (s : List Char), (∃ v r, stringLiteral (q.char :: s) = .done v r) ∨
      ∃ f t as, stringLiteral (q.char :: s) = .halt f ∧ f.message = "expected an ending quote" ∧
        s = t ++ f.rest ∧ Spells q t as ∧ f.rest.head? ≠ some q.char ∧ Unspelled q f.rest) ∧
    ∀ (s : Session JsonConfig JsonDocument) (on : String) (h : Handle JsonConfig)
      (d : JsonDocument) (root : Value) (m : List (String × Value)) (p key : String) (v : Value)
      (q : Quote), s.handle? on = some h → s.document? h = some d →
      (d.tree (s.view h).config).1 = .ok root → (s.view h).LeadsTo root m p →
      m.lookup key = some v →
      (s.step (.ask on (.find (joinRootPath p (quotedKey q key)) .value))).1 =
        some (.ok (.value v)) := by
  refine ⟨fun q t v r spelled => ?_, fun s v r read => ?_, fun q s => ?_,
    fun s on h d root m p key v q handle document tree leads held => ?_⟩
  · rw [stringLiteral_spelled spelled, String.ofList_toList]
  · obtain ⟨c, rfl, q, t, rfl, spelled⟩ := stringLiteral_spelling s v r read
    exact ⟨q, t, by simp, spelled⟩
  · obtain ⟨t, as, r, rfl, spelled, stop⟩ := exists_spelled q s
    by_cases close : r.head? = some q.char
    · obtain ⟨r, rfl⟩ := List.head?_eq_some_iff.mp close
      exact .inl ⟨_, r, stringLiteral_spelled spelled r⟩
    · exact .inr ⟨_, t, as, stringLiteral_unspelled spelled stop close, rfl, rfl, spelled, close,
        stop⟩
  · rw [Session.reply_ask handle document, View.ask_quotedKey tree leads held]

/-- A quote that is spelled by its code point, and one in a key. -/
theorem quoted_text_exact_apostrophe :
    stringLiteral ('\'' :: ("it\\u0027s".toList ++ '\'' :: ['.'])) = .done "it's" ['.'] ∧
    (Session.step (⟨none, [⟨.text "\x7b\"it's\": true\x7d", "UTF-8", none, []⟩],
        [("d", ⟨0, none, "", []⟩)]⟩ : Session JsonConfig JsonDocument)
      (.ask "d" (.find (joinRootPath "" (quotedKey .single "it's")) .value))).1 =
        some (.ok (.value (.bool true))) := by
  have spelled : Spells .single "it\\u0027s".toList "it's".toList := by
    have code : Spelling .single ['\\', 'u', '0', '0', '2', '7'] '\'' :=
      @Spelling.code _ '0' '0' '2' '7' _ 0 0 2 7 (by decide) (by decide) (by decide) (by decide) rfl
    exact .cons (.plain (by decide) (by decide)) (.cons (.plain (by decide) (by decide))
      (.cons code (.cons (.plain (by decide) (by decide)) .nil)))
  refine ⟨quoted_text_exact.1 .single _ "it's" ['.'] spelled,
    quoted_text_exact.2.2.2 _ "d" ⟨0, none, "", []⟩
      ⟨.text "\x7b\"it's\": true\x7d", "UTF-8", none, []⟩ _ [("it's", .bool true)] "" "it's"
      (.bool true) .single rfl rfl ?_ (.whole rfl rfl) rfl⟩
  rfl

end DocPath
