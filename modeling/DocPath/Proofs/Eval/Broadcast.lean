import DocPath.Proofs.Eval.Indexing

/-!
Fields of lists of maps. A field of such a list is the list of the fields of its items, with null
for an item without the key, so every item keeps its place. The same list comes from the field
spread over the items, and its items from the field behind an index.
-/

namespace DocPath

def held (key : String) (m : List (String × Value)) : Value := (m.lookup key).getD .null

namespace Value

variable {key : String} {ms : List (List (String × Value))}

theorem itemFields_maps : itemFields key (ms.map .map) = .ok (ms.map (held key)) := by
  induction ms with
  | nil => rfl
  | cons m ms ih =>
    show (itemFields key (ms.map .map)).bind _ = _
    rw [ih]
    rfl

theorem field_maps : (list (ms.map .map)).field key = .ok (.list (ms.map (held key))) := by
  rw [field, itemFields_maps]
  rfl

end Value

section
variable {key : String} {ms : List (List (String × Value))} {scope : Scope}

theorem eval_spread_maps : (Segment.spread (.field key)).eval (.list (ms.map .map)) scope =
    .ok (.list (ms.map (held key))) := by
  have each : (ms.map Value.map).mapM (fun v => (Segment.field key).eval v scope) =
      .ok (ms.map (held key)) := by
    rw [List.mapM_map]
    exact List.mapM_pure
  rw [Segment.eval, Value.items, each]
  rfl

theorem eval_index_maps {i : Nat} {j : Int64} (inside : i < ms.length)
    (place : j.toInt = i ∨ j.toInt = i - ms.length) :
    (Segment.index (.single j)).eval (.list (ms.map .map)) scope = .ok (.map ms[i]) := by
  have length : (ms.map Value.map).length = ms.length := List.length_map _
  have within : InBounds j.toInt (ms.map Value.map).length := by
    unfold InBounds
    omega
  have front : placeOf j.toInt (ms.map Value.map).length = i := by
    unfold placeOf
    split <;> omega
  obtain ⟨v, item, found⟩ := (Selector.apply_single j (ms.map .map)).inside within
  rw [front, List.getElem?_map, List.getElem?_eq_getElem inside] at item
  cases item
  exact found

end

/-- Where a path leads to a list of maps, a field behind it gives the list of what the maps hold
under the key, null for one without it. The field spread over the items gives the same list; and the
field behind an index of an item, counted from the front or from the end, gives the item of the list
at its position. So it is whether leading keys and indices are looked up directly or not. -/
theorem broadcast_itemwise (evaluate : Path → Value → List (String × Value) → Except QueryError Value)
    (evaluator : evaluate = Path.eval ∨ evaluate = Path.evalBorrowed) (p : Path) (root : Value)
    (params : List (String × Value)) (key : String) (ms : List (List (String × Value)))
    (leads : evaluate p root params = .ok (.list (ms.map .map))) :
    ∃ ws : List Value, ws.length = ms.length ∧ ws = ms.map (held key) ∧
      evaluate ⟨p.segments ++ [.field key]⟩ root params = .ok (.list ws) ∧
      evaluate ⟨p.segments ++ [.spread (.field key)]⟩ root params = .ok (.list ws) ∧
      ∀ i, (h : i < ws.length) → ∀ j : Int64, j.toInt = i ∨ j.toInt = i - ms.length →
        evaluate ⟨p.segments ++ [.index (.single j), .field key]⟩ root params = .ok ws[i] := by
  have same : evaluate = Path.eval := by
    rcases evaluator with rfl | rfl
    · rfl
    · exact funext fun p => funext fun v => funext fun params => p.evalBorrowed_eq v params
  subst same
  have behind (gs : List Segment) : Path.eval ⟨p.segments ++ gs⟩ root params =
      Path.evalFrom (.ofParams params) (0 + p.segments.length) gs (.list (ms.map .map)) := by
    have found : Path.evalFrom (.ofParams params) 0 p.segments root = _ := leads
    rw [Path.eval, Path.evalFrom_append, found]
    rfl
  refine ⟨ms.map (held key), List.length_map _, rfl, ?_, ?_, fun i h j place => ?_⟩
  · rw [behind, Path.evalFrom, Segment.eval, Value.field_maps]
    rfl
  · rw [behind, Path.evalFrom, eval_spread_maps]
    rfl
  · rw [List.length_map] at h
    rw [behind, Path.evalFrom, eval_index_maps h place, List.getElem_map]
    rfl

/-- The first of three books has no title; it keeps its place in the list and is found from the end
as well. -/
theorem broadcast_itemwise_missing :
    let ms : List (List (String × Value)) :=
      [[], [("title", .string "a")], [("price", .null), ("title", .string "b")]]
    let root : Value := .map [("book", .list (ms.map .map))]
    let p : Path := ⟨[.field "book"]⟩
    p.evalBorrowed root [] = .ok (.list (ms.map .map)) ∧
      Path.evalBorrowed ⟨p.segments ++ [.field "title"]⟩ root [] =
        .ok (.list [.null, .string "a", .string "b"]) ∧
      Path.evalBorrowed ⟨p.segments ++ [.index (.single (-3)), .field "title"]⟩ root [] =
        .ok .null := by
  intro ms root p
  have leads : p.evalBorrowed root [] = .ok (.list (ms.map .map)) := rfl
  obtain ⟨ws, -, rfl, broadcast, -, items⟩ :=
    broadcast_itemwise Path.evalBorrowed (.inr rfl) p root [] "title" ms leads
  exact ⟨leads, broadcast, items 0 (by decide) (-3) (.inr rfl)⟩

end DocPath
