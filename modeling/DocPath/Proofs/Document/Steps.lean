import DocPath.Document.Session

/-!
What one step of a session does: one equation for each kind of step on a handle that is there. A
step on a handle that is missing does nothing.
-/

namespace DocPath

def withEntries (params entries : List (String × Value)) : List (String × Value) :=
  entries.foldl (fun m p => insertEntry p.1 p.2 m) params

variable {Config Document Tree : Type} [Reading Config Document Tree]

def Step.on? : Step Config → Option String
  | .using on _ _ | .rootPath on _ _ | .params on _ _ | .ask on _ => some on
  | .openSource .. | .setDefault _ | .reset => none

namespace Session

theorem handle?_put (s : Session Config Document) (name : String) (h : Handle Config) :
    (s.put name h).handle? name = some h := by
  simp only [put, handle?, lookup_insertEntry, if_true]

theorem handle?_openDocument (s : Session Config Document) (name : String) (source : Source)
    (h : Handle Config) (config : Config) :
    (s.openDocument name source h config).handle? name =
      some { h with document := s.documents.length } := by
  simp only [openDocument, put, handle?, lookup_insertEntry, if_true]

theorem document?_openDocument (s : Session Config Document) (name : String) (source : Source)
    (h : Handle Config) (config : Config) :
    (s.openDocument name source h config).document?
      { h with document := s.documents.length } = some (Reading.unread source config) := by
  simp only [openDocument, put, document?, List.getElem?_concat_length]

theorem length_openDocument (s : Session Config Document) (name : String) (source : Source)
    (h : Handle Config) (config : Config) :
    (s.openDocument name source h config).documents.length = s.documents.length + 1 := by
  simp only [openDocument, put, List.length_append, List.length_singleton]

variable {s : Session Config Document} {on : String} {h : Handle Config} {d : Document}

theorem step_missing {t : Step Config} (works : t.on? = some on) (missing : s.handle? on = none) :
    s.step t = (none, s) := by
  cases t <;> cases works <;> simp only [step, missing]

theorem step_stray {t : Step Config} (works : t.on? = some on) (handle : s.handle? on = some h)
    (stray : s.document? h = none) : s.step t = (none, s) := by
  cases t <;> cases works <;> simp only [step, handle, stray]

theorem step_onHandle {P : Session Config Document → Prop} {t : Step Config}
    (works : t.on? = some on) (before : P s)
    (there : ∀ h d, s.handle? on = some h → s.document? h = some d → P (s.step t).2) :
    P (s.step t).2 := by
  cases handle : s.handle? on with
  | none => rwa [step_missing works handle]
  | some h =>
    cases document : s.document? h with
    | none => rwa [step_stray works handle document]
    | some d => exact there h d handle document

section
variable (handle : s.handle? on = some h) (document : s.document? h = some d)
include handle document

theorem step_using (into : String) (config : Config) :
    s.step (.using on into config) = (some (.ok .done), s.reconfigure into h config d) := by
  simp only [step, handle, document]

theorem step_rootPath (into root : String) :
    s.step (.rootPath on into root) =
      (some (.ok .done), s.put into { h with rootPath := root }) := by
  simp only [step, handle, document]

theorem step_params (into : String) (entries : List (String × Value)) :
    s.step (.params on into entries) =
      (some (.ok .done), s.put into { h with params := withEntries h.params entries }) := by
  simp only [step, handle, document]
  rfl

theorem step_ask (q : Question) :
    s.step (.ask on q) = (some (s.ask h q d).1, (s.ask h q d).2) := by
  simp only [step, handle, document]

theorem reply_ask (q : Question) : (s.step (.ask on q)).1 = some ((s.view h).ask q d).1 := by
  rw [step_ask handle document]
  rfl

end

theorem length_reconfigure (s : Session Config Document) (into : String) (h : Handle Config)
    (config : Config) (d : Document) :
    s.documents.length ≤ (s.reconfigure into h config d).documents.length := by
  unfold reconfigure
  dsimp only
  split
  · exact Nat.le_refl _
  · rw [length_openDocument]
    exact Nat.le_succ _

theorem length_step (s : Session Config Document) (t : Step Config) :
    s.documents.length ≤ (s.step t).2.documents.length := by
  have onHandle {name : String} (works : t.on? = some name) :=
    step_onHandle (P := fun next => s.documents.length ≤ next.documents.length) works
      (Nat.le_refl _)
  cases t with
  | openSource into source own =>
    cases source with
    | error e => exact Nat.le_refl _
    | ok source =>
      refine Nat.le_trans (Nat.le_succ _) (Nat.le_of_eq ?_)
      exact (s.length_openDocument into source _ _).symm
  | setDefault config => exact Nat.le_refl _
  | reset => exact Nat.le_refl _
  | «using» on into config =>
    refine onHandle rfl fun h d handle document => ?_
    rw [step_using handle document]
    exact s.length_reconfigure into h config d
  | rootPath on into path =>
    refine onHandle rfl fun h d handle document => ?_
    rw [step_rootPath handle document]
    exact Nat.le_refl _
  | params on into entries =>
    refine onHandle rfl fun h d handle document => ?_
    rw [step_params handle document]
    exact Nat.le_refl _
  | ask on q =>
    refine onHandle rfl fun h d handle document => ?_
    rw [step_ask handle document]
    exact Nat.le_of_eq (List.length_set ..).symm

theorem length_run (s : Session Config Document) (ts : List (Step Config)) :
    s.documents.length ≤ (s.run ts).2.documents.length := by
  induction ts generalizing s with
  | nil => exact Nat.le_refl _
  | cons t ts ih => exact Nat.le_trans (s.length_step t) (ih (s.step t).2)

end Session

end DocPath
