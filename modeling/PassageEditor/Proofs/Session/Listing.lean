import PassageEditor.Proofs.Session.Run
import PassageEditor.Proofs.Variable.Scanned

/-!
# Making a list and leaving it alone

A completion list is made from the text at the cursor of the attached buffer, the story, the toolbar and
the variables.  An operation that looks at the open list makes it anew or closes it (`Makes`), and any
other leaves it as it is: of a session, it keeps the open list, the health and the tracker (`offer`).
-/

namespace PassageEditor

namespace Completion

/-- A list can always be made for a passage whose variables have been scanned. -/
theorem complete_isOk {sources : Sources}
    (h : ∀ t, sources.tracker = some t → t.index.isScanned sources.passage) (kind : CompletionKind)
    (b : Buffer) : ∃ list, complete kind b sources = .ok list := by
  cases kind with
  | link => exact ⟨_, rfl⟩
  | command => exact ⟨_, rfl⟩
  | variableName =>
    rw [complete_def]
    cases ht : sources.tracker with
    | none => exact ⟨none, rfl⟩
    | some t =>
      obtain ⟨names, hnames⟩ := VariableIndex.visibleNames_of_isScanned (h t ht)
      simp only [names?_def, hnames]
      split
      · exact ⟨_, rfl⟩
      · split
        · exact ⟨_, rfl⟩
        · exact ⟨_, rfl⟩

end Completion

namespace Session

/-! ### Making a list -/

/-- The list that an operation has made, if it has made one. -/
def Result.list? (r : Result (Option CompletionList)) : Option CompletionList := r.1.toOption.join

/-- The list is what the session has to offer for a buffer, and it is not empty. -/
def Offers (s : Session) (b : Buffer) (list : CompletionList) : Prop :=
  list.items ≠ [] ∧ ∃ kind, Completion.complete kind b
    ⟨s.story, s.revision.passage.id, s.toolbar, s.tracker, s.pattern⟩ = .ok (some list)

/-- The variables of the passage have been scanned, so that lists can be made. -/
def Ready (s : Session) : Prop := ∀ t, s.tracker = some t → t.index.isScanned s.revision.passage.id

/-- An operation makes a list for the attached buffer, or leaves none open. -/
def Makes (s : Session) (r : Result (Option CompletionList)) : Prop :=
  (∃ b list, s.buffer = some b ∧ Result.list? r = some list ∧
    r.2.completion = some list ∧ s.Offers b list) ∨
    Result.list? r = none ∧ r.2.completion = none

theorem completion_closeCompletion (s : Session) : s.closeCompletion.completion = none := by
  unfold closeCompletion
  cases h : s.completion with
  | none => simpa using h
  | some list => rfl

private theorem makes_openCompletion {s : Session} {b : Buffer} (hb : s.buffer = some b)
    (hready : s.Ready) (kind : CompletionKind) : s.Makes (s.openCompletion b kind) := by
  let sources : Completion.Sources := ⟨s.story, s.revision.passage.id, s.toolbar, s.tracker, s.pattern⟩
  have hscanned : ∀ t, sources.tracker = some t → t.index.isScanned sources.passage := hready
  obtain ⟨found, hfound⟩ := Completion.complete_isOk hscanned kind b
  rw [openCompletion_def, hfound]
  cases found with
  | none => exact .inr ⟨rfl, completion_closeCompletion s⟩
  | some list =>
    by_cases hempty : list.items.isEmpty
    · simp only [hempty, ↓reduceIte]
      exact .inr ⟨rfl, completion_closeCompletion s⟩
    · simp only [hempty, Bool.false_eq_true, ↓reduceIte]
      refine .inl ⟨b, list, hb, rfl, rfl, ?_, kind, hfound⟩
      intro hnil
      simp [hnil] at hempty

/-- A refresh makes the open list anew or closes it. -/
theorem makes_refreshCompletion {s : Session} {b : Buffer} (hlive : s.health ≠ .crashed)
    (hb : s.buffer = some b) (hready : s.Ready) : s.Makes s.refreshCompletion := by
  simp only [refreshCompletion_def, whileLive_def, withBuffer_def]
  rw [if_neg hlive, hb]
  cases hc : s.completion with
  | none => exact .inr ⟨rfl, hc⟩
  | some list =>
    dsimp only
    split
    · exact .inr ⟨rfl, completion_closeCompletion s⟩
    · exact makes_openCompletion hb hready list.kind

/-- A trigger that finds no prefix leaves all as it is. -/
theorem makes_triggerCompletion {s : Session} (hready : s.Ready) :
    s.Makes s.triggerCompletion ∨
      Result.list? s.triggerCompletion = none ∧ s.triggerCompletion.2 = s := by
  rw [triggerCompletion_def, whileLive_def, withBuffer_def]
  split
  · exact .inr ⟨rfl, rfl⟩
  · split
    · exact .inr ⟨rfl, rfl⟩
    · rename_i b hb
      split
      · exact .inr ⟨rfl, rfl⟩
      · exact .inl (makes_openCompletion hb hready _)

private theorem makes_of_untouched {s : Session} {r : Result (Option CompletionList)}
    (hc : s.completion = none) (h : s.Makes r ∨ Result.list? r = none ∧ r.2 = s) : s.Makes r := by
  rcases h with h | ⟨hr, hs⟩
  · exact h
  · refine .inr ⟨hr, ?_⟩
    rw [hs, hc]

theorem makes_followEdit {s : Session} {b : Buffer} (hlive : s.health ≠ .crashed) (hb : s.buffer = some b)
    (hready : s.Ready) : s.Makes s.followEdit := by
  rw [followEdit_def]
  cases hc : s.completion with
  | some list => exact makes_refreshCompletion hlive hb hready
  | none => exact makes_of_untouched hc (makes_triggerCompletion hready)

theorem makes_followSelection {s : Session} {b : Buffer} (hlive : s.health ≠ .crashed)
    (hb : s.buffer = some b) (hready : s.Ready) : s.Makes s.followSelection := by
  rw [followSelection_def, withBuffer_def]
  cases hc : s.completion with
  | some list => exact makes_refreshCompletion hlive hb hready
  | none =>
    simp only [Option.isSome_none, Bool.false_eq_true, ↓reduceIte, hb]
    split
    · exact makes_openCompletion hb hready .link
    · exact .inr ⟨rfl, hc⟩

/-- How the host is answered apart, a change of the selection is the selection and what becomes of the
list. -/
theorem changeSelection_eq (s : Session) (ranges : List Selection) :
    (s.changeSelection ranges).2 =
      if s.health = .crashed ∨ s.buffer.isNone then s else (s.select ranges).followSelection.2 := by
  rw [changeSelection_def, whileLive_def, withBuffer_def]
  by_cases hl : s.health = .crashed
  · simp [hl]
  simp only [hl, ↓reduceIte, false_or]
  cases hb : s.buffer with
  | none => rfl
  | some b => rfl

/-! ### What making a list leaves alone -/

/-- What decides, beside the view, whether lists can be made. -/
def standing (s : Session) : Health × Option Tracker := (s.health, s.tracker)

section Keeps

variable {β : Type} {f : Session → β}
  (hf : ∀ (s : Session) completion hints, f (s.withList completion hints) = f s) (s : Session)

include hf

theorem keeps_followEdit : f s.followEdit.2 = f s := by
  rw [followEdit_def]
  split
  · exact keeps_refreshCompletion hf s
  · exact keeps_triggerCompletion hf s

theorem keeps_followSelection : f s.followSelection.2 = f s := by
  rw [followSelection_def]
  split
  · exact keeps_refreshCompletion hf s
  · refine keeps_withBuffer f fun b hb => ?_
    split
    · exact keeps_openCompletion hf s hb .link
    · rfl

end Keeps

/-! ### Leaving it alone -/

/-- What an operation leaves alone that does not look at the list. -/
def offer (s : Session) : Option CompletionList × Health × Option Tracker :=
  (s.completion, s.health, s.tracker)

@[simp]
theorem offer_redraw (s : Session) (b : Buffer) (force : Bool) : (s.redraw b force).offer = s.offer := rfl

@[simp]
theorem offer_bufferChanged (s : Session) (b : Buffer) : (s.bufferChanged b).offer = s.offer := rfl

@[simp]
theorem offer_registerMode (s : Session) : s.registerMode.offer = s.offer := by
  rw [registerMode_def]
  split <;> rfl

@[simp]
theorem offer_refreshToolbar (s : Session) : s.refreshToolbar.offer = s.offer :=
  keeps_refreshToolbar offer (fun _ _ => rfl) s

@[simp]
theorem offer_select (s : Session) (ranges : List Selection) : (s.select ranges).offer = s.offer := rfl

@[simp]
theorem offer_dispatchEvent (s : Session) (event : Event) : (s.dispatchEvent event).2.offer = s.offer :=
  keeps_dispatchEvent offer (fun _ _ => rfl) (fun _ _ => rfl) offer_select s event

@[simp]
theorem offer_handleKey (s : Session) (key : String) : (s.handleKey key).2.offer = s.offer :=
  keeps_handleKey offer (offer_dispatchEvent s) key

@[simp]
theorem offer_runTask (s : Session) (task : Task) : (s.runTask task).offer = s.offer :=
  invariant_runTask (·.offer = s.offer) rfl (fun _ _ => id) (offer_dispatchEvent s) (offer_select s)
    (fun _ _ _ => rfl) (offer_refreshToolbar s) task

@[simp]
theorem offer_runTasks (s : Session) : s.runTasks.2.offer = s.offer :=
  invariant_runTasks (·.offer = s.offer) rfl (fun _ _ => id) fun t task => (offer_runTask t task).trans

@[simp]
theorem offer_attach (s : Session) (b : Buffer) : (s.attach b).2.offer = s.offer := by
  rw [attach_def]
  refine keeps_whileLive offer ?_
  dsimp only
  rw [offer_refreshToolbar, offer_registerMode, offer_redraw]
  cases s.buffer <;> rfl

@[simp]
theorem offer_execCommand (s : Session) (name : String) : (s.execCommand name).2.offer = s.offer := by
  rw [execCommand_def]
  refine keeps_whileLive offer (keeps_withBuffer offer fun b _ => ?_)
  rcases s.runCommand b name with ⟨_ | _, c⟩ <;> rfl

/-- Extensions that are taken up are asked for their variables anew. -/
theorem offer_refreshFormat (s : Session) (formats : Registry) :
    (s.refreshFormat formats).2.completion = s.completion ∧
    (s.refreshFormat formats).2.health = s.health ∧
      ((s.refreshFormat formats).2.tracker = s.tracker ∨
        ∃ u : Session, u.story = s.story ∧ u.revision = s.revision ∧
          (s.refreshFormat formats).2.tracker = u.rebuildVariables.tracker) := by
  rw [refreshFormat_def]
  dsimp only
  split
  · exact ⟨rfl, rfl, .inl rfl⟩
  · have hoffer : ∀ u : Session, u.rebuildVariables.registerMode.refreshToolbar.offer =
        u.rebuildVariables.offer :=
      fun u => by rw [offer_refreshToolbar, offer_registerMode]
    generalize hu : ({ s with extensions := formats.extensionsFor s.story.format s.config } : Session) = u
    have hcompletion : u.completion = s.completion := by rw [← hu]
    have hhealth : u.health = s.health := by rw [← hu]
    have hstory : u.story = s.story := by rw [← hu]
    have hrevision : u.revision = s.revision := by rw [← hu]
    have hsame := hoffer u
    simp only [offer, Prod.mk.injEq] at hsame
    exact ⟨hsame.1.trans hcompletion, hsame.2.1.trans hhealth, .inr ⟨u, hstory, hrevision, hsame.2.2⟩⟩

/-- A pick closes the list before its command runs. -/
theorem offer_afterPick (s : Session) (b : Buffer) :
    (s.afterPick b).offer = (none, s.health, s.tracker) := rfl

@[simp]
theorem offer_freshenMarks (s : Session) : s.freshenMarks.offer = s.offer := by
  unfold freshenMarks
  split
  · rfl
  · split <;> rfl

theorem offer_adopt (s : Session) (story : Story) (r : Revision) :
    (s.adopt story r).offer = (s.completion, s.health, s.tracker.map fun t => (t.sync story).2) := by
  rw [adopt_def]
  dsimp only
  rw [offer_freshenMarks]
  rfl

private theorem offer_withoutExtensions (s : Session) :
    s.withoutExtensions.offer = (none, s.health, none) := by
  have hclosed : s.closeCompletion.completion = none := completion_closeCompletion s
  have hhealth : s.closeCompletion.health = s.health := by
    unfold closeCompletion
    split <;> rfl
  unfold withoutExtensions
  generalize s.closeCompletion = t at hclosed hhealth
  rw [← hclosed, ← hhealth]
  dsimp only
  split <;> rfl

private theorem offer_shutDown (s : Session) (message : String) :
    (s.shutDown message).offer = (none, s.health, s.tracker) := by
  have hclosed : s.closeCompletion.offer = (none, s.health, s.tracker) := by
    unfold closeCompletion
    cases hc : s.completion with
    | none => simp [offer, hc]
    | some list => rfl
  unfold shutDown
  generalize s.closeCompletion = t at hclosed
  rw [← hclosed]
  dsimp only
  split <;> rfl

/-- A crash closes the list, and the first one ends the tracking of variables. -/
theorem offer_reportCrash (s : Session) (message : String) :
    ∃ tracker, (s.reportCrash message).2.offer = (none, s.health.afterCrash, tracker) ∧
      (tracker = none ∨ tracker = s.tracker) := by
  unfold reportCrash
  dsimp only
  cases s.health with
  | full => exact ⟨none, offer_withoutExtensions _, .inl rfl⟩
  | extensionsDisabled => exact ⟨s.tracker, offer_shutDown _ message, .inr rfl⟩
  | crashed => exact ⟨s.tracker, offer_shutDown _ message, .inr rfl⟩

end Session

end PassageEditor
