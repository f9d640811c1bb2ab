import PassageEditor.Proofs.Session.Errors
import PassageEditor.Proofs.Session.Isolation
import PassageEditor.Proofs.Variable.Follows

/-!
# The format that a session is bound to

A session looks the extensions up under the format of the story that it holds, but it calls them under the
format that the story had when the session was opened.  That one names the mode and every fault
(`Session.Bound`), through any run and whatever story is brought (`Desk.binding_of_run`).
-/

namespace PassageEditor

/-- The mode that extensions bring, under the name of a format; none where it cannot be built. -/
def Extensions.modeFor (x : Extensions) (format : FormatRef) : Option String :=
  match x.mode with
  | some (.ok _) => some format.modeName
  | _ => none

private theorem Extensions.fst_registerMode (x : Extensions) (format : FormatRef) (b : Buffer) :
    (x.registerMode format b).1 = x.modeFor format := by
  rw [registerMode_def]
  unfold modeFor
  rcases x.mode with _ | _ | e | p <;> rfl

namespace Session

variable {s t : Session} {opening : FormatRef}

/-- All that the session calls it calls under one format. -/
structure Calls (opening : FormatRef) (s : Session) : Prop where
  format : s.format = opening
  tracker : ∀ t, s.tracker = some t → t.format = opening

/-- The session calls under one format, and the mode on an attached buffer is that of the extensions at
hand. -/
structure Bound (opening : FormatRef) (s : Session) : Prop extends Calls opening s where
  mode : s.health = .full → s.buffer.isSome → s.mode = s.extensions.bind (·.extensions.modeFor opening)

/-- Nothing but the toolbar of what the session has of the format is touched, and no buffer is
attached. -/
private theorem Bound.of_bearing (h : s.Bound opening) {toolbar : List ToolbarItem}
    (hb : t.bearing = { s.bearing with toolbar := toolbar })
    (hbuffer : t.buffer.isSome → s.buffer.isSome) :
    t.Bound opening := by
  have hformat : t.format = s.format := congrArg Bearing.format hb
  have hextensions : t.extensions = s.extensions := congrArg Bearing.extensions hb
  have hmode : t.mode = s.mode := congrArg Bearing.mode hb
  have hhealth : t.health = s.health := congrArg Bearing.health hb
  have htracker : t.tracker = s.tracker := congrArg Bearing.tracker hb
  refine ⟨⟨hformat.trans h.format, htracker ▸ h.tracker⟩, fun hfull hattached => ?_⟩
  rw [hmode, hextensions]
  exact h.mode (hhealth ▸ hfull) (hbuffer hattached)

/-- The view tells whether a buffer is attached. -/
private theorem isSome_buffer_of_view (hview : t.view.shown.isSome = s.view.shown.isSome) :
    t.buffer.isSome ↔ s.buffer.isSome := by
  have hsame : (t.buffer.map (·.text)).isSome = (s.buffer.map (·.text)).isSome := hview
  rw [Option.isSome_map, Option.isSome_map] at hsame
  rw [hsame]

private theorem isSome_buffer_adopt (s : Session) (story : Story) (r : Revision) :
    (s.adopt story r).buffer.isSome ↔ s.buffer.isSome := by
  refine isSome_buffer_of_view ?_
  rw [view_adopt]
  dsimp only
  split
  · rw [Option.isSome_map]
  · rfl

/-! ### Building the mode -/

private theorem activeExtensions_of_full (h : s.health = .full) :
    s.activeExtensions = s.extensions.map (·.extensions) := by
  simp [activeExtensions, Health.extensionsEnabled, h]

private theorem calls_rebuildVariables (h : s.format = opening) : s.rebuildVariables.Calls opening := by
  refine ⟨h, fun t ht => ?_⟩
  rw [rebuildVariables_def] at ht
  obtain ⟨hooks, -, rfl⟩ := Option.map_eq_some_iff.1 ht
  exact (congrArg Prod.snd (Tracker.code_sync _ _)).trans h

/-- Whatever the mode was before. -/
private theorem bound_registerMode (h : s.Calls opening) : s.registerMode.Bound opening := by
  have hcontributed := contributed_registerMode s
  have hformat : s.registerMode.format = s.format := by
    rw [registerMode_def]
    split <;> rfl
  have htracker : s.registerMode.tracker = s.tracker := congrArg (·.2.1) hcontributed
  refine ⟨⟨hformat.trans h.format, htracker ▸ h.tracker⟩, fun hfull hattached => ?_⟩
  rw [health_registerMode] at hfull
  have hactive : s.activeExtensions = s.extensions.map (·.extensions) := activeExtensions_of_full hfull
  rw [registerMode_def] at hattached ⊢
  split
  · rename_i x b hx hb
    rw [hactive] at hx
    obtain ⟨loaded, hloaded, rfl⟩ := Option.map_eq_some_iff.1 hx
    simp only [hloaded, Option.bind_some, Extensions.fst_registerMode, h.format]
  · rename_i hno
    cases hl : s.extensions with
    | none => rfl
    | some loaded =>
      cases hb : s.buffer with
      | none => simp [hb] at hattached
      | some b =>
        have hx : s.activeExtensions = some loaded.extensions := by rw [hactive, hl, Option.map_some]
        exact absurd hb (hno loaded.extensions b hx)

private theorem bound_refreshToolbar (h : s.Bound opening) : s.refreshToolbar.Bound opening := by
  have hbearing : s.refreshToolbar.bearing = { s.bearing with toolbar := s.refreshToolbar.toolbar } := by
    rw [refreshToolbar_def]
    split <;> rfl
  exact h.of_bearing hbearing (isSome_buffer_of_view (by rw [view_refreshToolbar])).1

/-! ### Every request -/

private theorem execCommand_of_detached (h : s.buffer = none) (name : String) :
    (s.execCommand name).2 = s :=
  keeps_whileLive id (keeps_withBuffer id fun b hb => by simp [h] at hb)

private theorem pickCompletion_of_detached (h : s.buffer = none) (index : Nat) :
    (s.pickCompletion index).2 = s := by
  have hnone : s.picked? index = none := by simp [picked?, h]
  rw [pickCompletion_eq, hnone]

/-- What leaves a detached session as it is attaches no buffer. -/
private theorem isSome_buffer_of_detached (h : s.buffer = none → t = s) :
    t.buffer.isSome → s.buffer.isSome := by
  intro hattached
  cases hb : s.buffer with
  | none => rwa [h hb, hb] at hattached
  | some b => rfl

private theorem bound_attach (h : s.Bound opening) (b : Buffer) : (s.attach b).2.Bound opening := by
  have hdrawn : ∀ u : Session, u.Calls opening →
      ((u.redraw (b.setText u.localText) false).registerMode).refreshToolbar.Bound opening := fun u hu =>
    bound_refreshToolbar (bound_registerMode ⟨hu.format, hu.tracker⟩)
  rw [attach_def, whileLive_def]
  split
  · exact h
  · cases s.buffer with
    | none => exact hdrawn _ h.toCalls
    | some old => exact hdrawn _ ⟨h.format, h.tracker⟩

private theorem bound_refreshFormat (h : s.Bound opening) (formats : Registry) :
    (s.refreshFormat formats).2.Bound opening := by
  rw [refreshFormat_def]
  dsimp only
  split
  · exact h
  · exact bound_refreshToolbar (bound_registerMode (calls_rebuildVariables h.format))

private theorem bound_runTask (h : s.Bound opening) (task : Task) : (s.runTask task).Bound opening := by
  have hsame : ∀ t : Session, t.bearing = s.bearing → t.view = s.view → t.Bound opening :=
    fun t hbearing hview =>
    h.of_bearing hbearing (isSome_buffer_of_view (congrArg (·.shown.isSome) hview)).1
  exact invariant_runTask (Bound opening) h (fun _ _ ht => ht.of_bearing rfl id)
    (fun event => hsame _ (bearing_dispatchEvent s event) (view_dispatchEvent s event))
    (fun ranges => hsame (s.select ranges) rfl (view_select s ranges))
    (fun b _ hb => hsame (s.redrawPlaceholders b) rfl (view_redrawPlaceholders hb))
      (bound_refreshToolbar h) task

/-- After a crash there is no mode to speak of. -/
private theorem bound_reportCrash (h : s.Bound opening) (message : String) :
    (s.reportCrash message).2.Bound opening := by
  obtain ⟨tracker, hoffer, htracker⟩ := offer_reportCrash s message
  simp only [offer, Prod.mk.injEq] at hoffer
  obtain ⟨-, hhealth, hkept⟩ := hoffer
  have hformat : (s.reportCrash message).2.format = s.format := by
    unfold reportCrash
    dsimp only
    split
    · rfl
    · have hclosed := keeps_closeCompletion (f := format) (fun _ _ _ => rfl)
        { s with health := s.health.afterCrash }
      unfold withoutExtensions
      dsimp only
      split <;> exact hclosed
    · exact congrArg Bearing.format (bearing_shutDown _ message)
  refine ⟨⟨hformat.trans h.format, fun t ht => ?_⟩, fun hfull => ?_⟩
  · rw [hkept] at ht
    rcases htracker with rfl | rfl
    · simp at ht
    · exact h.tracker t ht
  · rw [hhealth] at hfull
    cases hs : s.health <;> simp [hs, Health.afterCrash] at hfull

private theorem bound_serve (h : s.Bound opening) (request : Request) :
    (s.serve request).Bound opening := by
  have hshown := fun {t : Session} (hview : t.view = s.view) =>
    (isSome_buffer_of_view (congrArg (·.shown.isSome) hview)).1
  cases request with
  | attach b => exact bound_attach h b
  | refreshFormat formats => exact bound_refreshFormat h formats
  | runTasks =>
    exact invariant_runTasks (Bound opening) h (fun _ _ ht => ht.of_bearing rfl id) fun _ task ht =>
      bound_runTask ht task
  | crash message => exact bound_reportCrash h message
  | detach =>
    refine h.of_bearing (bearing_detach s) fun hattached => ?_
    change s.detach.2.buffer.isSome = true at hattached
    unfold detach at hattached
    cases hb : s.buffer with
    | none => simp [hb] at hattached
    | some b => rfl
  | exec name =>
    exact h.of_bearing (bearing_execCommand s name)
      (isSome_buffer_of_detached fun hb => execCommand_of_detached hb name)
  | pick index =>
    exact h.of_bearing (bearing_pickCompletion s index)
      (isSome_buffer_of_detached fun hb => pickCompletion_of_detached hb index)
  | trigger =>
    exact h.of_bearing (keeps_triggerCompletion (fun _ _ _ => rfl) s) (hshown (view_triggerCompletion s))
  | refresh =>
    exact h.of_bearing (keeps_refreshCompletion (fun _ _ _ => rfl) s) (hshown (view_refreshCompletion s))
  | close =>
    exact h.of_bearing (keeps_closeCompletion (fun _ _ _ => rfl) s) (hshown (view_closeCompletion s))
  | select ranges =>
    exact h.of_bearing (bearing_changeSelection s ranges) (hshown (view_changeSelection s ranges))
  | key key => exact h.of_bearing (bearing_handleKey s key) (hshown (view_handleKey s key))
  | event event =>
    exact h.of_bearing (bearing_dispatchEvent s event) (hshown (view_dispatchEvent s event))
  | drainEvents => exact h.of_bearing rfl id

/-! ### The extensions at hand -/

private theorem Bound.modeName (h : s.Bound opening) (hfull : s.health = .full)
    (hattached : s.buffer.isSome) :
    s.modeName = (s.extensions.bind (·.extensions.modeFor opening)).getD plainMode := by
  rw [← h.mode hfull hattached]
  simp [Session.modeName, Health.extensionsEnabled, hfull]

/-- Extensions are looked up under the format of the story at hand.  Those that are in use stay if they
have the stamp of what is found, which then is the same. -/
private theorem extensions_refreshFormat (s : Session) (formats : Registry)
    (hstamp : ∀ x y, s.extensions = some x → formats.extensionsFor s.story.format s.config = some y →
      x.stamp = y.stamp → x = y) :
    (s.refreshFormat formats).2.extensions = formats.extensionsFor s.story.format s.config := by
  rw [refreshFormat_def]
  dsimp only
  split
  · rename_i hsame
    dsimp only
    cases hx : s.extensions with
    | none =>
      rw [hx, Option.map_none] at hsame
      exact (Option.map_eq_none_iff.1 hsame.symm).symm
    | some x =>
      rw [hx, Option.map_some] at hsame
      obtain ⟨y, hy, hyx⟩ := Option.map_eq_some_iff.1 hsame.symm
      rw [hy, hstamp x y hx hy hyx.symm]
  · have hkept : ∀ u : Session, u.registerMode.refreshToolbar.extensions = u.extensions := by
      intro u
      rw [refreshToolbar_def, registerMode_def]
      split <;> split <;> rfl
    exact hkept _

/-! ### Faults -/

/-- The fault of the format that a result is. -/
def faultIn {α : Type} : Except SessionError α → Option ExtensionFault
  | .error (.extension fault) => some fault
  | _ => none

private theorem errorIn_of_faultIn {α : Type} {r : Except SessionError α} {fault : ExtensionFault}
    (h : faultIn r = some fault) : errorIn r = some (.extension fault) := by
  rcases r with e | a
  · cases e with
    | extension e => exact congrArg (fun e => some (SessionError.extension e)) (Option.some.inj h)
    | _ => simp [faultIn] at h
  · simp [faultIn] at h

/-- The fault that a request is answered with. -/
def fault? (s : Session) : Request → Option ExtensionFault
  | .attach b => faultIn (s.attach b).1
  | .exec name => faultIn (s.execCommand name).1
  | .pick index => faultIn (s.pickCompletion index).1
  | .trigger => faultIn s.triggerCompletion.1
  | .refresh => faultIn s.refreshCompletion.1
  | .select ranges => faultIn (s.changeSelection ranges).1
  | .key key => faultIn (s.handleKey key).1
  | _ => none

private theorem error_of_fault {request : Request} {fault : ExtensionFault}
    (h : s.fault? request = some fault) :
    s.error? request = some (.extension fault) := by
  cases request with
  | attach | exec | pick | trigger | refresh | select | key => exact errorIn_of_faultIn h
  | _ => simp [fault?] at h

/-! ### Taking a story over -/

/-- A story of another format changes nothing of the binding. -/
private theorem bound_adopt (h : s.Bound opening) (story : Story) (r : Revision) :
    (s.adopt story r).Bound opening := by
  have hbearing := bearing_adopt s story r
  have htracker : (s.adopt story r).tracker = s.tracker.map fun t => (t.sync story).2 :=
    congrArg Bearing.tracker hbearing
  have hcalls : (s.adopt story r).Calls opening := by
    refine ⟨(congrArg Bearing.format hbearing).trans h.format, fun t ht => ?_⟩
    rw [htracker] at ht
    obtain ⟨u, hu, rfl⟩ := Option.map_eq_some_iff.1 ht
    exact (congrArg Prod.snd (Tracker.code_sync u story)).trans (h.tracker u hu)
  refine ⟨hcalls, fun hfull hattached => ?_⟩
  have hhealth : (s.adopt story r).health = s.health := congrArg Bearing.health hbearing
  have hmode : (s.adopt story r).mode = s.mode := congrArg Bearing.mode hbearing
  have hextensions : (s.adopt story r).extensions = s.extensions := congrArg Bearing.extensions hbearing
  rw [hmode, hextensions]
  exact h.mode (hhealth ▸ hfull) ((isSome_buffer_adopt s story r).1 hattached)

end Session

namespace Desk

open Session

variable {d : Desk} {opening : FormatRef}

private theorem bound_turn (h : d.session.Bound opening) (t : Turn) :
    (d.turn t).session.Bound opening := by
  have htick : ∀ now, (d.tick now).2.session.Bound opening := fun now =>
    h.of_bearing (bearing_tick d now) fun hattached => d.buffer_tick now ▸ hattached
  cases t with
  | typed change =>
    refine h.of_bearing rfl fun hattached => ?_
    change (d.session.editBuffer change).buffer.isSome = true at hattached
    unfold editBuffer at hattached
    rwa [Option.isSome_map] at hattached
  | written change => exact h
  | op op =>
    cases op with
    | request request => exact bound_serve h request
    | advance now => exact htick now
    | storyChange story now => exact keeps_storyChange htick (fun _ hs => bound_adopt hs) story now
    | syncFromStore now => exact keeps_syncFromStore htick (fun _ hs => bound_adopt hs) now
    | localChange now =>
      refine h.of_bearing (bearing_localChange d now) fun hattached => ?_
      change (d.localChange now).2.session.buffer.isSome = true at hattached
      cases hb : d.session.buffer with
      | some b => rfl
      | none =>
        have hnone : (d.tick now).2.session.buffer = none := (d.buffer_tick now).trans hb
        rw [session_localChange, hnone] at hattached
        split at hattached
        · rwa [hb] at hattached
        · rwa [hnone] at hattached

private theorem bound_run (h : d.session.Bound opening) (turns : List Turn) :
    (turns.foldl turn d).session.Bound opening := by
  induction turns using List.reverseRecOn with
  | nil => exact h
  | append_singleton turns t ih =>
    rw [List.foldl_append]
    exact bound_turn ih t

/-! ### Faults -/

/-- The fault that a turn is answered with. -/
def fault? (d : Desk) : Turn → Option ExtensionFault
  | .op (.request request) => d.session.fault? request
  | .op (.localChange now) => faultIn (d.localChange now).1
  | .op (.storyChange story now) => faultIn (d.storyChange story now).1
  | .op (.syncFromStore now) => faultIn (d.syncFromStore now).1
  | _ => none

/-- A fault comes from a command, and is put down to the format that the session calls. -/
private theorem format_of_turn {t : Turn} {fault : ExtensionFault} (h : d.fault? t = some fault) :
    fault.format = d.session.format := by
  have herror : ∃ op, d.error? op = some (.extension fault) := by
    cases t with
    | typed change => simp [fault?] at h
    | written change => simp [fault?] at h
    | op op =>
      refine ⟨op, ?_⟩
      cases op with
      | request request => exact error_of_fault h
      | localChange | storyChange | syncFromStore => exact errorIn_of_faultIn h
      | advance now => simp [fault?] at h
  obtain ⟨op, herror⟩ := herror
  rcases error_step herror with ⟨hrefusal, -⟩ | ⟨-, source, hsource⟩ | hcommand
  · simp [SessionError.isRefusal] at hrefusal
  · simp at hsource
  · cases hcommand with
    | fault _ hformat => exact hformat

/-! ### A story that is brought -/

private theorem story_tick (d : Desk) (now : Nat) : (d.tick now).2.session.story = d.session.story :=
  congrArg View.story (d.view_tick now)

private theorem news?_tick (d : Desk) (now : Nat) (story : Story) :
    (d.tick now).2.session.news? story = d.session.news? story := by
  have hrevision : (d.tick now).2.session.revision = d.session.revision :=
    congrArg View.revision (d.view_tick now)
  unfold news?
  rw [hrevision, story_tick]

/-- A story that has the passage is answered with success, and held if there is anything new in its
passages. -/
private theorem storyChange_of_found {S : Story} {now : Nat} (hearly : (d.tick now).1 = false)
    (hfound : (S.find? d.session.revision.passage.id).isSome) :
    (d.storyChange S now).1 = .ok () ∧
      (d.storyChange S now).2.session.story = if (d.session.news? S).isSome then S
        else d.session.story := by
  have hcurrent : d.current S now = S := by simp [current, hearly]
  constructor
  · have hrevision : (d.tick now).2.session.revision = d.session.revision :=
      congrArg View.revision (d.view_tick now)
    obtain ⟨r, hr⟩ := Option.isSome_iff_exists.1 hfound
    rw [storyChange_def]
    simp only [hearly, Bool.false_eq_true, ↓reduceIte, hrevision, hr]
    split <;> rfl
  · rw [storyChange_eq, hcurrent, takeOver, news?_tick]
    cases d.session.news? S with
    | none => exact d.story_tick now
    | some r => exact congrArg View.story (view_adopt _ S r)

/-! ### A whole run -/

section Run

variable {store : Store} {formats : Registry} {story : StoryId} {passage : PassageId}
  {config : Config} {s : Session}

private theorem bound_open (h : Session.open? store formats story passage config = .ok s) :
    s.Bound s.format := by
  obtain ⟨st, r, pattern, -, -, rfl⟩ := open_eq h
  exact ⟨calls_rebuildVariables rfl, fun _ hattached => by simp [rebuildVariables_def] at hattached⟩

/-- A session whose health is full and that has a buffer is brought a story with its passage, and then
looks the extensions up.  The extensions are those of the story that it holds: the one brought, if a
passage has changed in it, and else the old one, whatever its format.  The mode is named for the format at
the opening, and so is every fault from then on. -/
theorem binding_of_run (h : Session.open? store formats story passage config = .ok s) (turns : List Turn)
    (S : Story) (now : Nat) (R : Registry) :
    let d := turns.foldl turn ⟨store, s⟩
    d.session.health = .full → d.session.buffer.isSome → (d.tick now).1 = false →
      (S.find? d.session.revision.passage.id).isSome →
      let changed := d.storyChange S now
      let held := if (d.session.news? S).isSome then S else d.session.story
      let next := R.extensionsFor held.format config
      (∀ x y, changed.2.session.extensions = some x → next = some y → x.stamp = y.stamp → x = y) →
        let after := (changed.2.session.refreshFormat R).2
        (store.story? story).map (·.format) = some s.format ∧ changed.1 = .ok () ∧
        changed.2.session.story = held ∧
          after.activeExtensions = next.map (·.extensions) ∧
          after.modeName = (next.bind (·.extensions.modeFor s.format)).getD plainMode ∧
          ∀ more : List Turn,
            let e := more.foldl turn { changed.2 with session := after }
            e.session.Calls s.format ∧ ∀ t fault, e.fault? t = some fault → fault.format = s.format := by
  intro d hfull hattached hearly hfound changed held next hstamp after
  have hopening : (store.story? story).map (·.format) = some s.format := by
    obtain ⟨st, r, pattern, hst, -, rfl⟩ := open_eq h
    rw [hst]
    rfl
  obtain ⟨hok, hheld⟩ := storyChange_of_found hearly hfound
  have hbound : d.session.Bound s.format := bound_run (d := ⟨store, s⟩) (bound_open h) turns
  have hchanged : changed.2.session.Bound s.format := bound_turn hbound (.op (.storyChange S now))
  have hafter : after.Bound s.format := bound_refreshFormat hchanged R
  have hfull' : after.health = .full := by
    have hsame : changed.2.session.health = d.session.health := health_turn d (.op (.storyChange S now))
    exact (offer_refreshFormat _ R).2.1.trans (hsame.trans hfull)
  have hconfig : changed.2.session.config = config := by
    have := (steady_run h (turns ++ [.op (.storyChange S now)])).1
    rwa [List.foldl_append] at this
  have hattached' : after.buffer.isSome := by
    have hbrought : changed.2.session.buffer.isSome ↔ d.session.buffer.isSome :=
      keeps_storyChange (P := fun u => u.buffer.isSome ↔ d.session.buffer.isSome)
        (fun now => by rw [buffer_tick])
          (fun u hu story r => (isSome_buffer_adopt u story r).trans hu) S now
    have hrefreshed : after.buffer.isSome ↔ changed.2.session.buffer.isSome :=
      isSome_buffer_of_view (congrArg (·.shown.isSome) (view_refreshFormat _ R))
    exact hrefreshed.2 (hbrought.2 hattached)
  have hextensions : after.extensions = next := by
    have hnext : R.extensionsFor changed.2.session.story.format changed.2.session.config = next := by
      rw [hconfig, hheld]
    rw [← hnext]
    exact extensions_refreshFormat _ R (hnext ▸ hstamp)
  refine ⟨hopening, hok, hheld, ?_, ?_, fun more => ?_⟩
  · rw [activeExtensions_of_full hfull', hextensions]
  · rw [hafter.modeName hfull' hattached', hextensions]
  · have hlater := bound_run (d := { changed.2 with session := after }) hafter more
    exact ⟨hlater.toCalls, fun t fault hfault => (format_of_turn hfault).trans hlater.format⟩

/-! ### A story that changes its format -/

/-- Two formats with a mode each; the second one has a command that fails. -/
def twoFormats : Registry :=
  let melt : CommandHook := fun b => (b, .failed (.failed "no"))
  ⟨[(⟨"Harlowe", "3.3.8"⟩, ⟨⟨"Harlowe", "3.3.8"⟩, .loaded, none,
    some ⟨0, some (.ok ()), none, [], none, none⟩⟩),
    (⟨"Snow", "1.2.3"⟩,
      ⟨⟨"Snow", "1.2.3"⟩, .loaded, none, some ⟨1, some (.ok ()), none, [("melt", melt)], none, none⟩⟩)],
        2⟩

/-- A story of one empty passage in a format. -/
def storyIn (format : FormatRef) (stamp : Nat) : Story :=
  ⟨⟨1⟩, "Story", format, [⟨stamp, .fresh ⟨1⟩ "Start" "" []⟩]⟩

/-- A store with that story in the first format. -/
def harloweStore : Store := ⟨[storyIn ⟨"Harlowe", "3.3.8"⟩ 0], 0, 1⟩

/-- A session on that passage, and a buffer for it. -/
def harloweDesk (s : Session) : Desk :=
  [.op (.request (.attach (.ofText "")))].foldl turn ⟨harloweStore, s⟩

/-- The session after a story in the second format was brought and its extensions were looked up. -/
def melted (s : Session) (stamp : Nat) : Session :=
  (((harloweDesk s).storyChange (storyIn ⟨"Snow", "1.2.3"⟩ stamp) 0).2.session.refreshFormat twoFormats).2

private theorem harloweDesk_opened :
    ∃ s, Session.open? harloweStore twoFormats ⟨1⟩ ⟨1⟩ .default = .ok s ∧
      s.format = ⟨"Harlowe", "3.3.8"⟩ ∧ (harloweDesk s).session.health = .full ∧
      (harloweDesk s).session.buffer.isSome ∧ ((harloweDesk s).tick 0).1 = false ∧
      ∀ format stamp,
        ((storyIn format stamp).find? (harloweDesk s).session.revision.passage.id).isSome := by
  have hopened : ((Session.open? harloweStore twoFormats ⟨1⟩ ⟨1⟩ .default).toOption.map fun s =>
      (s.format, (harloweDesk s).session.health, (harloweDesk s).session.buffer.isSome,
        ((harloweDesk s).tick 0).1,
        (harloweDesk s).session.revision.passage.id)) =
      some (⟨"Harlowe", "3.3.8"⟩, .full, true, false, ⟨1⟩) := by
    decide +kernel
  rcases h : Session.open? harloweStore twoFormats ⟨1⟩ ⟨1⟩ .default with e | s
  · simp [h, Except.toOption] at hopened
  rw [h, Except.toOption, Option.map_some, Option.some.injEq] at hopened
  simp only [Prod.mk.injEq] at hopened
  obtain ⟨hformat, hhealth, hattached, hearly, hpassage⟩ := hopened
  refine ⟨s, rfl, hformat, hhealth, hattached, hearly, fun format stamp => ?_⟩
  rw [hpassage]
  rfl

/-- What the session shows of its format after each of the two stories. -/
private theorem melted_shown {s : Session}
    (h : Session.open? harloweStore twoFormats ⟨1⟩ ⟨1⟩ .default = .ok s) :
    (melted s 1).extensions.map (·.stamp) = some 1 ∧ (melted s 1).modeName = "harlowe-3" ∧
      ((melted s 1).fault? (.exec "melt")).map (·.format) = some ⟨"Harlowe", "3.3.8"⟩ ∧
      (melted s 0).extensions.map (·.stamp) = some 0 := by
  have hshown : ((Session.open? harloweStore twoFormats ⟨1⟩ ⟨1⟩ .default).toOption.map fun s =>
      ((melted s 1).extensions.map (·.stamp), (melted s 1).modeName,
        ((melted s 1).fault? (.exec "melt")).map (·.format), (melted s 0).extensions.map (·.stamp))) =
      some (some 1, "harlowe-3", some ⟨"Harlowe", "3.3.8"⟩, some 0) := by
    decide +kernel
  rw [h, Except.toOption, Option.map_some, Option.some.injEq] at hshown
  simpa only [Prod.mk.injEq] using hshown

/-- The story that is brought is in the second format.  If its passage has changed, the extensions are
those of that format, but the mode and the fault of their command are named for the first one.  If the
passage is the same, the extensions are those of the first format as well. -/
theorem first_format_kept :
    ∃ s, Session.open? harloweStore twoFormats ⟨1⟩ ⟨1⟩ .default = .ok s ∧
      let d := harloweDesk s
      d.session.health = .full ∧ d.session.buffer.isSome ∧ (d.tick 0).1 = false ∧
        (∀ stamp, (d.storyChange (storyIn ⟨"Snow", "1.2.3"⟩ stamp) 0).1 = .ok ()) ∧
        (twoFormats.extensionsFor ⟨"Snow", "1.2.3"⟩ .default).map (·.stamp) = some 1 ∧
        FormatRef.modeName ⟨"Snow", "1.2.3"⟩ = "snow-1" ∧ (melted s 1).extensions.map (·.stamp) = some 1 ∧
        (melted s 1).modeName = "harlowe-3" ∧
        ((melted s 1).fault? (.exec "melt")).map (·.format) = some ⟨"Harlowe", "3.3.8"⟩ ∧
        (melted s 0).extensions.map (·.stamp) = some 0 := by
  obtain ⟨s, h, -, hhealth, hattached, hearly, hfound⟩ := harloweDesk_opened
  have hok : ∀ stamp, ((harloweDesk s).storyChange (storyIn ⟨"Snow", "1.2.3"⟩ stamp) 0).1 = .ok () :=
    fun stamp =>
    (storyChange_of_found hearly (hfound _ stamp)).1
  exact ⟨s, h, hhealth, hattached, hearly, hok, by decide +kernel, by decide +kernel, melted_shown h⟩

/-- After the story with the changed passage every fault is blamed on the first format, whatever turns
follow. -/
theorem binding_of_run_melted :
    ∃ s, Session.open? harloweStore twoFormats ⟨1⟩ ⟨1⟩ .default = .ok s ∧
      (melted s 1).extensions.map (·.stamp) = some 1 ∧
      ∀ more : List Turn,
        let e := more.foldl turn
          { ((harloweDesk s).storyChange (storyIn ⟨"Snow", "1.2.3"⟩ 1) 0).2 with session := melted s 1 }
        ∀ t fault, e.fault? t = some fault → fault.format = ⟨"Harlowe", "3.3.8"⟩ := by
  obtain ⟨s, h, hformat, hhealth, hattached, hearly, hfound⟩ := harloweDesk_opened
  have hloaded : ((Session.open? harloweStore twoFormats ⟨1⟩ ⟨1⟩ .default).toOption.map fun s =>
      (((harloweDesk s).storyChange (storyIn ⟨"Snow", "1.2.3"⟩ 1) 0).2.session.extensions.map (·.stamp),
        ((harloweDesk s).session.news? (storyIn ⟨"Snow", "1.2.3"⟩ 1)).isSome)) = some (some 0, true) := by
    decide +kernel
  rw [h, Except.toOption, Option.map_some, Option.some.injEq, Prod.mk.injEq] at hloaded
  obtain ⟨hold, hnews⟩ := hloaded
  have hnext : (twoFormats.extensionsFor ⟨"Snow", "1.2.3"⟩ .default).map (·.stamp) = some 1 := by
    decide +kernel
  -- the extensions in use and those that are found have different stamps
  have hstamp : ∀ x y,
      ((harloweDesk s).storyChange (storyIn ⟨"Snow", "1.2.3"⟩ 1) 0).2.session.extensions = some x →
      twoFormats.extensionsFor (if ((harloweDesk s).session.news? (storyIn ⟨"Snow", "1.2.3"⟩ 1)).isSome
        then storyIn ⟨"Snow", "1.2.3"⟩ 1 else (harloweDesk s).session.story).format .default = some y →
      x.stamp = y.stamp → x = y := by
    intro x y hx hy hsame
    rw [if_pos hnews] at hy
    have hy : twoFormats.extensionsFor ⟨"Snow", "1.2.3"⟩ .default = some y := hy
    rw [hx, Option.map_some, Option.some.injEq] at hold
    rw [hy, Option.map_some, Option.some.injEq] at hnext
    omega
  obtain ⟨-, -, -, -, -, hlater⟩ := binding_of_run h [.op (.request (.attach (.ofText "")))]
    (storyIn ⟨"Snow", "1.2.3"⟩ 1) 0 twoFormats hhealth hattached hearly (hfound _ 1) hstamp
  refine ⟨s, h, (melted_shown h).1, fun more t fault hfault => ?_⟩
  exact ((hlater more).2 t fault hfault).trans hformat

end Run

end Desk

end PassageEditor
