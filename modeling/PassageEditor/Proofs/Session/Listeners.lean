import PassageEditor.Proofs.Session.MarkFrames
import PassageEditor.Proofs.Session.UpToDate

/-!
# No listener is left behind

Between two turns the hub holds just the listeners of the handles, and the marks on the attached buffer
are those of the handles and those that others have put there (`Session.Tidy`).  A run carries the numbers
of the latter along (`Hosted`).  A detached session and a crashed one have no handles, and so no listener
and no mark is left behind by them (`no_leak_of_run`).
-/

namespace PassageEditor

/-! ### What the host may do -/

/-- The commands use no number of a mark again. -/
def Extensions.Fair (x : Extensions) : Prop :=
  ∀ name command, x.commands.lookup name = some command → ∀ b : Buffer, b.Ages (command b).1

def Registry.Fair (formats : Registry) : Prop :=
  ∀ format config x, formats.extensionsFor format config = some x → x.extensions.Fair

namespace Session

open Markup

variable {s t : Session} {foreign : List MarkId}

/-- The listeners and the marks are those of the handles, apart from foreign marks. -/
structure Held (s : Session) (foreign : List MarkId) : Prop where
  fair : ∀ x, s.extensions = some x → x.extensions.Fair
  wired : Wired s.hub s.marks.handles
  classed : s.marks.Classed
  owned : ∀ b, s.buffer = some b → Owned b foreign s.marks.handles

/-- Without a buffer and after the last crash there are no handles. -/
structure Tidy (s : Session) (foreign : List MarkId) : Prop extends s.Held foreign where
  bare : s.buffer = none ∨ s.health = .crashed → s.marks.handles = []

private theorem Held.own (h : s.Held foreign) : s.Own := h.wired.own

theorem Held.tends (h : s.Held foreign) {b : Buffer} {foreign' : List MarkId}
    (hb : Owned b foreign' s.marks.handles) :
    s.marks.Tends ⟨b, s.hub⟩ foreign' := ⟨⟨h.wired, hb⟩, h.classed⟩

private theorem Held.of_rig (h : s.Held foreign) (hrig : t.rig = s.rig) : t.Held foreign := by
  simp only [rig, Rig.mk.injEq] at hrig
  obtain ⟨hmarks, -, hextensions, hlisteners, hnext, hboard⟩ := hrig
  refine ⟨hextensions ▸ h.fair, ?_, hmarks ▸ h.classed, ?_⟩
  · rw [hmarks]
    exact h.wired.of_same hlisteners hnext
  · intro b hb
    rw [hb, Option.map_some, eq_comm, Option.map_eq_some_iff] at hboard
    obtain ⟨b₀, hb₀, heq⟩ := hboard
    obtain ⟨hmarks', hnext'⟩ := Prod.mk.inj heq
    rw [hmarks]
    exact (h.owned b₀ hb₀).of_same hmarks'.symm hnext'.symm

theorem Tidy.of_rig (h : s.Tidy foreign) (hrig : t.rig = s.rig) : t.Tidy foreign := by
  have hmarks : t.marks = s.marks := congrArg Rig.marks hrig
  have hhealth : t.health = s.health := congrArg Rig.health hrig
  refine ⟨h.toHeld.of_rig hrig, ?_⟩
  rw [hmarks, hhealth]
  exact fun hbare => h.bare (hbare.imp_left (buffer_eq_none_of_rig hrig))

/-! ### Drawing -/

/-- Drawing on any buffer whose marks are accounted for. -/
private theorem Held.redraw (h : s.Held foreign) (hlive : s.health ≠ .crashed) {b : Buffer}
    {foreign' : List MarkId} (hb : Owned b foreign' s.marks.handles) (force : Bool) :
    (s.redraw b force).Tidy foreign' := by
  have htends := Reconciler.tends_reconcile (h.tends hb) s.story force
  refine ⟨⟨h.fair, htends.tended.wired, htends.classed, ?_⟩, ?_⟩
  · intro b' hb'
    obtain rfl := Option.some.inj hb'
    exact htends.tended.owned
  · rintro (hnone | hcrashed)
    · simp [Session.redraw] at hnone
    · exact absurd hcrashed hlive

private theorem Held.redrawPlaceholders (h : s.Held foreign) (hlive : s.health ≠ .crashed) {b : Buffer}
    (hb : Owned b foreign s.marks.handles) : (s.redrawPlaceholders b).Tidy foreign := by
  have htends := Reconciler.tends_renderPlaceholders (h.tends hb) true
  refine ⟨⟨h.fair, htends.tended.wired, htends.classed, ?_⟩, ?_⟩
  · intro b' hb'
    obtain rfl := Option.some.inj hb'
    exact htends.tended.owned
  · rintro (hnone | hcrashed)
    · simp [Session.redrawPlaceholders] at hnone
    · exact absurd hcrashed hlive

/-- A session without handles. -/
structure Bare (s : Session) : Prop where
  fair : ∀ x, s.extensions = some x → x.extensions.Fair
  wired : Wired s.hub []
  classed : s.marks.Classed
  none : s.marks.handles = []

/-- On its buffer, if it has one, all marks are foreign. -/
theorem Bare.tidy (h : s.Bare) (howned : ∀ b, s.buffer = some b → Owned b foreign []) : s.Tidy foreign :=
  ⟨⟨h.fair, by rw [h.none]; exact h.wired, h.classed, by rw [h.none]; exact howned⟩, fun _ => h.none⟩

private theorem Bare.redraw (h : s.Bare) (hlive : s.health ≠ .crashed) {b : Buffer}
    (hb : Owned b foreign []) (force : Bool) :
    (s.redraw b force).Tidy foreign := by
  have hdetached : ({ s with buffer := Option.none } : Session).Bare :=
    ⟨h.fair, h.wired, h.classed, h.none⟩
  have htidy : ({ s with buffer := Option.none } : Session).Tidy foreign := hdetached.tidy (by simp)
  have howned : Owned b foreign s.marks.handles := by
    rw [h.none]
    exact hb
  exact htidy.redraw hlive howned force

/-- Where all marks are taken off a buffer, foreign ones are left. -/
private theorem Held.undraw (h : s.Held foreign) {b : Buffer} (hb : Owned b foreign s.marks.handles) :
    (s.undraw b).2.Bare ∧ Owned (s.undraw b).1 foreign [] := by
  obtain ⟨htends, hnone⟩ := Reconciler.tends_teardown (h.tends hb)
  have hwired := htends.tended.wired
  have howned := htends.tended.owned
  rw [hnone] at hwired howned
  exact ⟨⟨h.fair, hwired, htends.classed, hnone⟩, howned⟩

/-- An edit of the attached buffer. -/
private theorem Tidy.bufferChanged (h : s.Tidy foreign) (hlive : s.health ≠ .crashed) {b : Buffer}
    {foreign' : List MarkId} (hb : Owned b foreign' s.marks.handles) :
    (s.bufferChanged b).Tidy foreign' :=
  Held.redraw (s := { s with draft := s.draft.edit b.text s.now })
    ⟨h.fair, h.wired, h.classed, h.owned⟩ hlive hb false

/-! ### Attaching and detaching -/

/-- All marks on a buffer that is attached to a session without handles are foreign. -/
private theorem Bare.drawOn (h : s.Bare) (hlive : s.health ≠ .crashed) {b : Buffer} (hb : b.Numbered) :
    ((s.redraw (b.setText s.localText) false).registerMode).refreshToolbar.Tidy (b.marks.map (·.id)) := by
  have hdrawn := h.redraw hlive ((Owned.of_numbered hb).edit (.set s.localText)) false
  exact (hdrawn.of_rig (rig_registerMode _)).of_rig (rig_refreshToolbar _)

private theorem tidy_attach (h : s.Tidy foreign) {b : Buffer} (hb : b.Numbered) :
    (s.attach b).2.Tidy (if s.health = .crashed then foreign else b.marks.map (·.id)) := by
  rw [attach_def, whileLive_def]
  split
  · exact h
  · rename_i hlive
    cases hbuffer : s.buffer with
    | none =>
      have hnone := h.bare (.inl hbuffer)
      have hbare : s.Bare := ⟨h.fair, hnone ▸ h.wired, h.classed, hnone⟩
      dsimp only
      exact hbare.drawOn hlive hb
    | some old =>
      have hbare : (s.undraw old).2.Bare := (h.undraw (h.owned old hbuffer)).1
      dsimp only
      exact hbare.drawOn hlive hb

private theorem tidy_detach (h : s.Tidy foreign) :
    s.detach.2.Tidy foreign ∧ s.detach.2.marks.handles = [] ∧
      ∀ b, s.detach.1 = some b → ∀ m ∈ b.marks, m.id ∈ foreign := by
  unfold detach
  cases hbuffer : s.buffer with
  | none => exact ⟨h, h.bare (.inl hbuffer), by simp⟩
  | some b =>
    obtain ⟨hbare, howned⟩ := h.undraw (h.owned b hbuffer)
    have hdetached : ∀ completion draft, ({ (s.undraw b).2 with
        buffer := none, completion := completion, draft := draft, tasks := [] } : Session).Bare :=
      fun _ _ => ⟨hbare.fair, hbare.wired, hbare.classed, hbare.none⟩
    refine ⟨(hdetached _ _).tidy (by simp), hbare.none, ?_⟩
    intro b' hb'
    obtain rfl := Option.some.inj hb'
    split
    · exact howned.foreign_of_nil
    · exact howned.foreign_of_nil

/-! ### Commands and picks -/

/-- The marks that a command puts on the buffer. -/
def commandMarks (s : Session) (name : String) : List MarkId :=
  match s.buffer, s.ran? name with
  | some b, some (_, b') => b.newMarks b'
  | _, _ => []

private theorem ages_runCommand (h : s.Held foreign) (b : Buffer) (name : String) :
    b.Ages (s.runCommand b name).2 := by
  rw [runCommand_def]
  split
  · rename_i command hcommand
    obtain ⟨x, hx, hlookup⟩ := Option.bind_eq_some_iff.1 hcommand
    have hfair : x.Fair := by
      unfold activeExtensions at hx
      split at hx
      · obtain ⟨loaded, hloaded, rfl⟩ := Option.map_eq_some_iff.1 hx
        exact h.fair loaded hloaded
      · simp at hx
    have hages := hfair name command hlookup b
    generalize command b = ran at hages
    dsimp only
    split <;> exact hages
  · split
    · rename_i b' hrun
      obtain ⟨selection, executed, rfl⟩ := Buffer.exists_execCommand hrun
      exact .of_same rfl rfl
    · exact .of_same rfl rfl

private theorem tidy_execCommand (h : s.Tidy foreign) (name : String) :
    (s.execCommand name).2.Tidy (foreign ++ s.commandMarks name) := by
  rw [execCommand_def, whileLive_def, withBuffer_def]
  unfold commandMarks ran?
  by_cases hlive : s.health = .crashed
  · cases s.buffer <;> simpa [hlive] using h
  simp only [if_neg hlive]
  cases hbuffer : s.buffer with
  | none => simpa using h
  | some b =>
    have howned := (h.owned b hbuffer).ages (ages_runCommand h.toHeld b name)
    simp only [Option.map_some]
    generalize s.runCommand b name = ran at howned
    obtain ⟨_ | _, b'⟩ := ran
    · refine ⟨⟨h.fair, h.wired, h.classed, ?_⟩, ?_⟩
      · intro b'' hb
        obtain rfl := Option.some.inj hb
        exact howned
      · rintro (hnone | hcrashed)
        · simp at hnone
        · exact absurd hcrashed hlive
    · have hchanged := h.bufferChanged hlive howned
      exact hchanged.of_rig rfl

private theorem owned_applyPick {b b' : Buffer} {handles : List Handle} (h : Owned b foreign handles)
    {list : CompletionList} {index : Nat} {command : Option String}
    (hpick : Completion.applyPick b list index = .ok (command, b')) :
    Owned b' foreign handles := by
  unfold Completion.applyPick at hpick
  split at hpick
  · simp at hpick
  · rename_i item _
    have hbuffer : (Completion.applyItem b list.range item).2 = b' :=
      congrArg Prod.snd (Except.ok.inj hpick)
    rw [← hbuffer]
    unfold Completion.applyItem
    split
    · exact h.edit (.replace _ _ _)
    · dsimp only
      split
      · exact h.edit (.replace _ _ _)
      · exact (h.edit (.replace _ _ _)).edit (.replace _ _ _)
    · exact h.edit (.replace _ _ _)

private theorem tidy_afterPick (h : s.Tidy foreign) {index : Nat} {command : Option String} {b : Buffer}
    (hpick : s.picked? index = some (command, b)) : (s.afterPick b).Tidy foreign := by
  obtain ⟨hlive, list, b₀, -, hb₀, hok⟩ := picked?_eq_some_iff.1 hpick
  have howned : Owned b.closeHints foreign s.marks.handles :=
    (owned_applyPick (h.owned b₀ hb₀) hok).of_same rfl rfl
  exact Tidy.bufferChanged (s := { s with completion := none }) (h.of_rig rfl) hlive howned

/-! ### Work that was put off -/

theorem tidy_runTask (h : s.Tidy foreign) (task : Task) : (s.runTask task).Tidy foreign :=
  invariant_runTask (Tidy · foreign) h (fun _ _ ht => ht.of_rig rfl)
    (fun event => h.of_rig (rig_dispatchEvent h.own event)) (fun ranges =>
      h.of_rig (rig_select h.own ranges))
    (fun b hlive hb => h.redrawPlaceholders hlive (h.owned b hb)) (h.of_rig (rig_refreshToolbar s)) task

/-! ### Crashes -/

private theorem Held.withoutExtensions (h : s.Held foreign)
    (hbare : s.buffer = none → s.marks.handles = []) (hlive : s.health ≠ .crashed) :
    s.withoutExtensions.Tidy foreign := by
  have hrig := rig_closeCompletion s
  have hmarks : s.closeCompletion.marks = s.marks := congrArg Rig.marks hrig
  have hhealth : s.closeCompletion.health = s.health := congrArg Rig.health hrig
  let closed : Session :=
    { s.closeCompletion with tracker := none, mode := none, toolbar := [], tasks := [] }
  have hclosed : closed.Held foreign := h.of_rig hrig
  unfold Session.withoutExtensions
  dsimp only
  split
  · rename_i hb
    refine ⟨hclosed, fun _ => ?_⟩
    show s.closeCompletion.marks.handles = []
    rw [hmarks]
    exact hbare (buffer_eq_none_of_rig hrig hb)
  · rename_i b hb
    obtain ⟨hundrawn, howned⟩ := hclosed.undraw (hclosed.owned b hb)
    have hlive' : (closed.undraw b).2.health ≠ .crashed := by
      show s.closeCompletion.health ≠ .crashed
      rwa [hhealth]
    exact hundrawn.redraw hlive' howned true

private theorem Held.shutDown (h : s.Held foreign) (hbare : s.buffer = none → s.marks.handles = [])
    (message : String) : (s.shutDown message).Tidy foreign := by
  have hrig := rig_closeCompletion s
  have hmarks : s.closeCompletion.marks = s.marks := congrArg Rig.marks hrig
  let closed : Session :=
    { s.closeCompletion with crashMessage := some (Payload.flattened 160 message), tasks := [] }
  have hclosed : closed.Held foreign := h.of_rig hrig
  unfold Session.shutDown
  dsimp only
  split
  · rename_i hb
    refine ⟨hclosed, fun _ => ?_⟩
    show s.closeCompletion.marks.handles = []
    rw [hmarks]
    exact hbare (buffer_eq_none_of_rig hrig hb)
  · rename_i b hb
    obtain ⟨hundrawn, howned⟩ := hclosed.undraw (hclosed.owned b hb)
    have hleft : ({ (closed.undraw b).2 with buffer := some (closed.undraw b).1 } : Session).Bare :=
      ⟨hundrawn.fair, hundrawn.wired, hundrawn.classed, hundrawn.none⟩
    refine hleft.tidy fun b' hb' => ?_
    obtain rfl := Option.some.inj hb'
    exact howned

private theorem tidy_reportCrash (h : s.Tidy foreign) (message : String) :
    (s.reportCrash message).2.Tidy foreign := by
  have hheld : ({ s with health := s.health.afterCrash } : Session).Held foreign :=
    ⟨h.fair, h.wired, h.classed, h.owned⟩
  have hbare : s.buffer = none → s.marks.handles = [] := fun hnone => h.bare (.inl hnone)
  unfold reportCrash
  dsimp only
  cases hhealth : s.health with
  | full =>
    rw [hhealth] at hheld
    exact hheld.withoutExtensions hbare (by simp [Health.afterCrash])
  | extensionsDisabled =>
    rw [hhealth] at hheld
    exact hheld.shutDown hbare message
  | crashed =>
    rw [hhealth] at hheld
    exact hheld.shutDown hbare message

/-! ### Taking a story over -/

private theorem tidy_freshenMarks (h : s.Tidy foreign) : s.freshenMarks.Tidy foreign := by
  unfold freshenMarks
  split
  · exact h
  · rename_i b hb
    split
    · exact h
    · rename_i hlive
      exact h.redraw hlive (h.owned b hb) false

private theorem tidy_adopt (h : s.Tidy foreign) (story : Story) (r : Revision) :
    (s.adopt story r).Tidy foreign := by
  rw [adopt_def]
  dsimp only
  refine tidy_freshenMarks ⟨⟨h.fair, h.wired, h.classed, ?_⟩, ?_⟩
  · intro b hb
    dsimp only at hb
    split at hb
    · obtain ⟨b₀, hb₀, rfl⟩ := Option.map_eq_some_iff.1 hb
      exact (h.owned b₀ hb₀).edit (.set r.passage.text)
    · exact h.owned b hb
  · rintro (hnone | hcrashed)
    · refine h.bare (.inl ?_)
      dsimp only at hnone
      split at hnone
      · exact Option.map_eq_none_iff.1 hnone
      · exact hnone
    · exact h.bare (.inr hcrashed)

/-! ### Every turn -/

/-- The foreign marks after a request. -/
def foreignAfter (s : Session) (foreign : List MarkId) : Request → List MarkId
  | .attach b => if s.health = .crashed then foreign else b.marks.map (·.id)
  | .exec name => foreign ++ s.commandMarks name
  | .pick index =>
    match s.picked? index with
    | some (some name, b) => foreign ++ (s.afterPick b).commandMarks name
    | _ => foreign
  | _ => foreign

/-- A buffer is numbered before it is attached, and formats bring fair commands. -/
def Request.Fair : Request → Prop
  | .attach b => b.Numbered
  | .refreshFormat formats => formats.Fair
  | _ => True

private theorem tidy_refreshFormat (h : s.Tidy foreign) {formats : Registry} (hfair : formats.Fair) :
    (s.refreshFormat formats).2.Tidy foreign := by
  rw [refreshFormat_def]
  dsimp only
  split
  · exact h
  · have hnext :
        ({ s with extensions := formats.extensionsFor s.story.format s.config } : Session).Tidy foreign :=
      ⟨⟨fun x hx => hfair _ _ x hx, h.wired, h.classed, h.owned⟩, h.bare⟩
    have hrebuilt : ∀ u : Session, u.Tidy foreign → u.rebuildVariables.Tidy foreign :=
      fun u hu => hu.of_rig rfl
    exact ((hrebuilt _ hnext).of_rig (rig_registerMode _)).of_rig (rig_refreshToolbar _)

private theorem tidy_pickCompletion (h : s.Tidy foreign) (index : Nat) :
    (s.pickCompletion index).2.Tidy (s.foreignAfter foreign (.pick index)) := by
  rw [pickCompletion_eq]
  simp only [foreignAfter]
  rcases hpick : s.picked? index with _ | ⟨_ | name, b⟩
  · exact h
  · exact tidy_afterPick h hpick
  · exact tidy_execCommand (tidy_afterPick h hpick) name

private theorem tidy_serve (h : s.Tidy foreign) {request : Request} (hfair : request.Fair) :
    (s.serve request).Tidy (s.foreignAfter foreign request) := by
  cases request with
  | attach b => exact tidy_attach h hfair
  | detach => exact (tidy_detach h).1
  | exec name => exact tidy_execCommand h name
  | pick index => exact tidy_pickCompletion h index
  | trigger => exact h.of_rig (rig_triggerCompletion s)
  | refresh => exact h.of_rig (rig_refreshCompletion s)
  | close => exact h.of_rig (rig_closeCompletion s)
  | select ranges => exact h.of_rig (rig_changeSelection h.own ranges)
  | key key => exact h.of_rig (rig_handleKey h.own key)
  | event event => exact h.of_rig (rig_dispatchEvent h.own event)
  | runTasks =>
    exact invariant_runTasks (Tidy · foreign) h (fun _ _ ht => ht.of_rig rfl) fun _ task ht =>
      tidy_runTask ht task
  | crash message => exact tidy_reportCrash h message
  | refreshFormat formats => exact tidy_refreshFormat h hfair
  | drainEvents => exact h.of_rig rfl

end Session

/-! ### A whole run -/

namespace Desk

open Session

/-- The foreign marks after a turn. -/
def foreignAfter (d : Desk) (foreign : List MarkId) : Turn → List MarkId
  | .op (.request request) => d.session.foreignAfter foreign request
  | .typed change =>
    match d.session.buffer with
    | none => foreign
    | some b => foreign ++ b.newMarks (change b)
  | _ => foreign

/-- What the host does uses no number of a mark again. -/
def Turn.Fair : Turn → Prop
  | .op (.request request) => request.Fair
  | .typed change => ∀ b : Buffer, b.Ages (change b)
  | _ => True

variable {d : Desk} {foreign : List MarkId}

private theorem tidy_tick (h : d.session.Tidy foreign) (now : Nat) :
    (d.tick now).2.session.Tidy foreign :=
  h.of_rig (d.rig_tick now)

private theorem tidy_localChange (h : d.session.Tidy foreign) (now : Nat) :
    (d.localChange now).2.session.Tidy foreign := by
  have htick := tidy_tick h now
  rw [session_localChange]
  split
  · exact h
  · rename_i hlive
    have hhealth : (d.tick now).2.session.health = d.session.health :=
      congrArg Rig.health (d.rig_tick now)
    split
    · exact htick
    · rename_i b hb
      have hchanged := htick.bufferChanged (hhealth ▸ hlive) (htick.owned b hb)
      exact hchanged.of_rig (rig_followEdit _)

private theorem tidy_typed (h : d.session.Tidy foreign) {change : Buffer → Buffer}
    (hfair : ∀ b : Buffer, b.Ages (change b)) :
    (d.session.editBuffer change).Tidy (d.foreignAfter foreign (.typed change)) := by
  unfold foreignAfter
  cases hb : d.session.buffer with
  | none =>
    refine h.of_rig ?_
    simp [rig, editBuffer, hb]
  | some b =>
    refine ⟨⟨h.fair, h.wired, h.classed, ?_⟩, ?_⟩
    · intro b' hb'
      simp only [editBuffer, hb, Option.map_some] at hb'
      obtain rfl := Option.some.inj hb'
      exact (h.owned b hb).ages (hfair b)
    · rintro (hnone | hcrashed)
      · simp [editBuffer, hb] at hnone
      · exact h.bare (.inr hcrashed)

private theorem tidy_turn (h : d.session.Tidy foreign) {t : Turn} (hfair : t.Fair) :
    (d.turn t).session.Tidy (d.foreignAfter foreign t) := by
  have hadopt : ∀ s : Session, s.Tidy foreign → ∀ story r, (s.adopt story r).Tidy foreign :=
    fun s hs => tidy_adopt hs
  cases t with
  | written change => exact h
  | typed change => exact tidy_typed h hfair
  | op op =>
    cases op with
    | request request => exact tidy_serve h hfair
    | localChange now => exact tidy_localChange h now
    | advance now => exact tidy_tick h now
    | storyChange story now => exact keeps_storyChange (tidy_tick h) hadopt story now
    | syncFromStore now => exact keeps_syncFromStore (tidy_tick h) hadopt now

end Desk

/-- A session and the store, and the numbers of the marks on the attached buffer that others have put
there. -/
structure Hosted where
  desk : Desk
  foreign : List MarkId

namespace Hosted

open Session Markup

def turn (w : Hosted) (t : Desk.Turn) : Hosted := ⟨w.desk.turn t, w.desk.foreignAfter w.foreign t⟩

/-- The desk with a session that has just been opened. -/
def opened (store : Store) (s : Session) : Hosted := ⟨⟨store, s⟩, []⟩

section Run

variable {store : Store} {formats : Registry} {story : StoryId} {passage : PassageId}
  {config : Config} {s : Session}

private theorem tidy_open (h : open? store formats story passage config = .ok s)
    (hformats : formats.Fair) : s.Tidy [] := by
  obtain ⟨st, r, pattern, hst, hr, rfl⟩ := open_eq h
  refine ⟨⟨fun x hx => hformats _ _ x hx, .empty, ?_, ?_⟩, fun _ => rfl⟩
  · exact ⟨by simp [rebuildVariables_def, Reconciler.empty], by
        simp [rebuildVariables_def, Reconciler.empty]⟩
  · intro b hb
    simp [rebuildVariables_def] at hb

theorem tidy_run (h : open? store formats story passage config = .ok s) (hformats : formats.Fair)
    {turns : List Desk.Turn} (hfair : ∀ t ∈ turns, t.Fair) :
    let w := turns.foldl turn (opened store s)
    w.desk.session.Tidy w.foreign := by
  induction turns using List.reverseRecOn with
  | nil => exact tidy_open h hformats
  | append_singleton turns t ih =>
    rw [List.foldl_append]
    have hrest := ih fun t' ht' => hfair t' (List.mem_append_left _ ht')
    exact Desk.tidy_turn hrest (hfair t (List.mem_append_right _ List.mem_cons_self))

/-- After any turns: the listeners of the hub are, each once, a click and a change of the selection for
each placeholder, and the five of a link for each link.  A session that has just detached its buffer and
one that has crashed have no listener, and of the marks that they have made none is left on the buffer:
all that are there are of others. -/
theorem no_leak_of_run (h : open? store formats story passage config = .ok s) (hformats : formats.Fair)
    {turns : List Desk.Turn} (hfair : ∀ t ∈ turns, t.Fair) :
    let w := turns.foldl turn (opened store s)
    let t := w.desk.session
    (t.hub.listeners.map fun l => (l.id, l.kind)).Perm
        ((t.marks.placeholders.flatMap fun g => g.listeners.zip [.click, .beforeSelection]) ++
          t.marks.links.flatMap fun p =>
            p.2.listeners.zip [.mouseEnter, .mouseLeave, .keyDown, .keyUp, .click]) ∧
      (∀ g ∈ t.marks.placeholders, g.listeners.length = 2) ∧
      (∀ p ∈ t.marks.links, p.2.listeners.length = 5) ∧
      (t.hub.listeners.map (·.id)).Nodup ∧
      t.listenerCount = 2 * t.marks.placeholders.length + 5 * t.marks.links.length ∧
      (∀ g ∈ t.marks.handles, g.mark ∉ w.foreign) ∧
      (t.detach.2.listenerCount = 0 ∧ ∀ b, t.detach.1 = some b → ∀ m ∈ b.marks, m.id ∈ w.foreign) ∧
      (t.health = .crashed → t.listenerCount = 0 ∧ ∀ b, t.buffer = some b →
        ∀ m ∈ b.marks, m.id ∈ w.foreign) := by
  intro w t
  have htidy : t.Tidy w.foreign := tidy_run h hformats hfair
  have hnone : ∀ u : Session, u.Tidy w.foreign → u.marks.handles = [] → u.listenerCount = 0 := by
    intro u hu hbare
    have hwired := hu.wired
    rw [hbare] at hwired
    exact List.length_eq_zero_iff.2 hwired.listeners_of_nil
  obtain ⟨hplaceholders, hlinks⟩ := htidy.classed.lengths htidy.wired
  obtain ⟨hdetached, hbare, hleft⟩ := tidy_detach htidy
  refine ⟨htidy.classed.heard htidy.wired, hplaceholders, hlinks, htidy.wired.nodup,
    htidy.classed.length_listeners htidy.wired, ?_, ⟨hnone _ hdetached hbare, hleft⟩, ?_⟩
  · intro g hg
    cases hb : t.buffer with
    | none =>
      rw [htidy.bare (.inl hb)] at hg
      simp at hg
    | some b => exact (htidy.owned b hb).apart g hg
  · intro hcrashed
    have hbare' := htidy.bare (.inr hcrashed)
    refine ⟨hnone t htidy hbare', fun b hb => ?_⟩
    have howned := htidy.owned b hb
    rw [hbare'] at howned
    exact howned.foreign_of_nil

/-! ### Foreign marks beside those of a session -/

/-- A format with a command that puts a mark at the start of the buffer. -/
def markingFormat : Registry :=
  let command : CommandHook :=
    fun b => ((b.addMark ⟨.origin, .origin⟩ ⟨.placeholder, none, none⟩).2, .ok ())
  ⟨[(⟨"Harlowe", "3.3.8"⟩, ⟨⟨"Harlowe", "3.3.8"⟩, .loaded, none,
    some ⟨0, { Extensions.empty with commands := [("mark", command)] }⟩⟩)], 1⟩

private theorem fair_markingFormat : markingFormat.Fair := by
  intro format config x hx name command hcommand b
  unfold Registry.extensionsFor at hx
  split at hx
  · simp at hx
  · obtain ⟨f, hf, hloaded⟩ := Option.bind_eq_some_iff.1 hx
    obtain ⟨-, rfl⟩ := List.mem_singleton.1 (mem_of_lookup hf)
    obtain rfl := Option.some.inj hloaded
    obtain ⟨-, rfl⟩ := List.mem_singleton.1 (mem_of_lookup hcommand)
    exact b.ages_addMark _ _

/-- A store with one passage, which has a placeholder and a link to itself. -/
def linkedStore : Store :=
  ⟨[⟨⟨1⟩, "Story", ⟨"Harlowe", "3.3.8"⟩, [⟨0, .fresh ⟨1⟩ "Start" "$\x7b1:a\x7d [[Start]]" []⟩]⟩], 0, 1⟩

/-- A command and the host put a mark each on the buffer. -/
def marked : List Desk.Turn :=
  [.op (.request (.attach (.ofText ""))), .op (.request (.exec "mark")),
    .typed fun b => (b.addMark ⟨.origin, .origin⟩ ⟨.passageLink, none, none⟩).2, .op (.localChange 0)]

/-- The session has seven listeners and two marks beside the two foreign ones, and only those are left
when it detaches the buffer. -/
theorem no_leak_of_run_marked :
    ∃ s, open? linkedStore markingFormat ⟨1⟩ ⟨1⟩ .default = .ok s ∧ markingFormat.Fair ∧
      (∀ t ∈ marked, t.Fair) ∧
      let w := marked.foldl turn (opened linkedStore s)
      let t := w.desk.session
      t.listenerCount = 7 ∧ t.buffer.map (·.marks.length) = some 4 ∧ w.foreign = [⟨2⟩, ⟨3⟩] ∧
        t.detach.1.map (fun b => b.marks.map (·.id)) = some [⟨2⟩, ⟨3⟩] ∧
        t.detach.2.listenerCount = 0 := by
  have hfair : ∀ t ∈ marked, t.Fair := by
    intro t ht
    simp only [marked, List.mem_cons, List.not_mem_nil, or_false] at ht
    rcases ht with rfl | rfl | rfl | rfl
    · exact Buffer.numbered_ofText ""
    · trivial
    · exact fun b => b.ages_addMark _ _
    · trivial
  have hvalues : ((open? linkedStore markingFormat ⟨1⟩ ⟨1⟩ .default).toOption.map fun s =>
      let w := marked.foldl turn (opened linkedStore s)
      let t := w.desk.session
      (t.listenerCount, t.buffer.map (·.marks.length), w.foreign,
        t.detach.1.map fun b => b.marks.map (·.id))) =
        some (7, some 4, [⟨2⟩, ⟨3⟩], some [⟨2⟩, ⟨3⟩]) := by
    decide +kernel
  rcases h : open? linkedStore markingFormat ⟨1⟩ ⟨1⟩ .default with e | s
  · simp [h, Except.toOption] at hvalues
  rw [h, Except.toOption, Option.map_some, Option.some.injEq] at hvalues
  simp only [Prod.mk.injEq] at hvalues
  obtain ⟨hcount, hmarks, hforeign, hleft⟩ := hvalues
  obtain ⟨-, -, -, -, -, -, hdetached, -⟩ := no_leak_of_run h fair_markingFormat hfair
  exact ⟨s, rfl, fair_markingFormat, hfair, hcount, hmarks, hforeign, hleft, hdetached.1⟩

end Run

end Hosted

end PassageEditor
