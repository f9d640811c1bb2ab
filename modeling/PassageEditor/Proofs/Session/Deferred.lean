import PassageEditor.Proofs.Session.InStep
import PassageEditor.Proofs.Session.Listeners
import PassageEditor.Proofs.Session.Work

/-!
# The work after commands

A command puts off three pieces of work: its selection is restored, the placeholders are drawn anew, and
the toolbar is built anew (`Session.batch`).  Each drawing brings up a click on the first placeholder,
which waits behind the work of all commands.  By then a later drawing has taken the placeholder away, and
the click comes to nothing, unless the drawing was the last one (`InUse.works_batches`, `works_stale`).
So in the end the placeholders have just been drawn and the first one is selected
(`InUse.works_commands`).
-/

namespace PassageEditor

open Markup

namespace Session

variable {s t : Session} {b : Buffer} {lines : List (List Char)} {foreign : List MarkId}

/-- The work that a command puts off. -/
def batch (ranges : List Selection) : List Task :=
  [.restoreSelections ranges, .renderPlaceholders true, .refreshToolbar]

/-- A session in use on a buffer with the given lines. -/
structure InUse (s : Session) (lines : List (List Char)) (foreign : List MarkId) : Prop where
  live : s.health ≠ .crashed
  tidy : s.Tidy foreign
  attuned : Attuned s.hub s.marks
  shown : ∃ b, s.buffer = some b ∧ b.lines = lines

/-! ### One piece of work -/

private theorem toolbar_congr (hhealth : t.health = s.health) (hextensions : t.extensions = s.extensions)
    (hconfig : t.config = s.config) (hformat : t.format = s.format) (hbuffer : t.buffer = s.buffer) :
    t.refreshToolbar.toolbar = s.refreshToolbar.toolbar := by
  rw [refreshToolbar_def, refreshToolbar_def]
  unfold activeExtensions
  rw [hhealth, hextensions, hconfig, hformat, hbuffer]
  split <;> rfl

private theorem lines_runTask (s : Session) (task : Task) :
    (s.runTask task).buffer.map (·.lines) = s.buffer.map (·.lines) := by
  have hselect : ∀ (u : Session) ranges, (u.select ranges).buffer.map (·.lines) =
      u.buffer.map (·.lines) := by
    intro u ranges
    show (u.buffer.map _).map _ = _
    rw [Option.map_map]
    refine Option.map_congr fun b _ => ?_
    obtain ⟨selections, _, hselected⟩ := b.exists_setSelections ranges
    exact (congrArg Buffer.lines hselected :)
  refine invariant_runTask (fun u => u.buffer.map (·.lines) = s.buffer.map (·.lines)) rfl (fun _ _ => id)
    (fun event =>
      keeps_dispatchEvent (fun u => u.buffer.map (·.lines)) (fun _ _ => rfl) (fun _ _ => rfl) hselect
        s event)
    (hselect s) (fun b _ hb => ?_) ?_ task
  · rw [hb]
    exact congrArg some (Reconciler.lines_renderPlaceholders s.marks ⟨b, s.hub⟩ true)
  · exact keeps_refreshToolbar (fun u => u.buffer.map (·.lines)) (fun _ _ => rfl) s

private theorem InUse.runTask (h : s.InUse lines foreign) (task : Task) :
    (s.runTask task).InUse lines foreign := by
  have hupheld : s.Upholds Attuned := ⟨h.attuned, fun hnone => h.tidy.bare (.inl hnone)⟩
  obtain ⟨b, hb, hlines⟩ := h.shown
  have hshown := lines_runTask s task
  rw [hb, Option.map_some, Option.map_eq_some_iff] at hshown
  obtain ⟨c, hc, hsame⟩ := hshown
  refine ⟨?_, tidy_runTask h.tidy task, (upholds_runTask upheld_attuned hupheld task).holds, c,
    hc, hsame.trans hlines⟩
  rw [show (s.runTask task).health = s.health from congrArg (·.2.1) (offer_runTask s task)]
  exact h.live

private theorem InUse.of_tasks (h : s.InUse lines foreign) (tasks : List Task) :
    ({ s with tasks := tasks } : Session).InUse lines foreign :=
  ⟨h.live, h.tidy.of_rig rfl, h.attuned, h.shown⟩

private theorem runTask_restore (hlive : s.health ≠ .crashed) (hb : s.buffer = some b)
    (ranges : List Selection) : s.runTask (.restoreSelections ranges) = s.select ranges := by
  simp [runTask_def, hb, hlive]

/-- A drawing brings up a click on the first placeholder, if there is one. -/
private theorem runTask_render (hlive : s.health ≠ .crashed) (hb : s.buffer = some b) {c : Buffer}
    (hc : (s.redrawPlaceholders b).buffer = some c) :
    s.runTask (.renderPlaceholders true) = { s.redrawPlaceholders b with
      tasks := s.tasks ++
        ((s.redrawPlaceholders b).marks.firstPlaceholder? c).toList.map (.activatePlaceholder ·.2) } := by
  have hfirst : (s.redrawPlaceholders b).buffer.bind (s.redrawPlaceholders b).marks.firstPlaceholder? =
      (s.redrawPlaceholders b).marks.firstPlaceholder? c := by rw [hc, Option.bind_some]
  rw [runTask_def, hb]
  dsimp only
  rw [if_neg hlive, hfirst]
  rcases (s.redrawPlaceholders b).marks.firstPlaceholder? c with _ | x
  · simp only [Option.toList_none, List.map_nil, List.append_nil]
    rfl
  · rfl

private theorem runTask_refresh (hlive : s.health ≠ .crashed) (hb : s.buffer = some b) :
    s.runTask .refreshToolbar = s.refreshToolbar := by
  simp [runTask_def, hb, hlive]

private theorem runTask_activate (hlive : s.health ≠ .crashed) (hb : s.buffer = some b)
    (widget : WidgetId) : s.runTask (.activatePlaceholder widget) = s.activatePlaceholder widget := by
  simp [runTask_def, hb, hlive]

theorem Works.one {task : Task} {rest : List Task} (htasks : s.tasks = task :: rest) :
    s.Works 1 (({ s with tasks := rest } : Session).runTask task) := .piece htasks (.none _)

/-! ### The work of one command -/

section Batch

variable (h : s.InUse lines foreign) {rest : List Task}

include h

private theorem InUse.works_restore {ranges : List Selection}
    (htasks : s.tasks = .restoreSelections ranges :: rest) :
    ∃ u, ∃ b : Buffer, s.Works 1 u ∧ u.InUse lines foreign ∧ u.tasks = rest ∧ b.lines = lines ∧
      u.buffer = some (b.setSelections ranges) ∧ u.hub.widgets.length = s.hub.widgets.length := by
  obtain ⟨b, hb, hlines⟩ := h.shown
  have hrest : ({ s with tasks := rest } : Session).InUse lines foreign := h.of_tasks rest
  have hworks := Works.one htasks
  have huse := hrest.runTask (.restoreSelections ranges)
  rw [runTask_restore hrest.live hb] at hworks huse
  refine ⟨_, b, hworks, huse, rfl, hlines, ?_, Hub.length_widgets_dispatch h.attuned.wired.own _⟩
  show s.buffer.map _ = _
  rw [hb, Option.map_some]

private theorem InUse.works_render (hb : s.buffer = some b)
    (htasks : s.tasks = .renderPlaceholders true :: rest) :
    ∃ u c, s.Works 1 u ∧ u.InUse lines foreign ∧
      u.tasks = rest ++ (u.marks.firstPlaceholder? c).toList.map (.activatePlaceholder ·.2) ∧
      u.buffer = some c ∧ c.selections = b.selections ∧ u.InStep c ∧ Reconciler.Exact c foreign ∧
      s.hub.widgets.length ≤ u.hub.widgets.length ∧
      ∀ g ∈ u.marks.placeholders, s.hub.widgets.length ≤ g.widget.value ∧
        g.widget.value < u.hub.widgets.length := by
  have hrest : ({ s with tasks := rest } : Session).InUse lines foreign := h.of_tasks rest
  obtain ⟨c, hc, hstep, hexact⟩ :=
    inStep_redrawPlaceholders (s := { s with tasks := rest }) h.attuned (h.tidy.owned b hb)
  have hworks := Works.one htasks
  have huse := hrest.runTask (.renderPlaceholders true)
  rw [runTask_render hrest.live hb hc] at hworks huse
  have hselections : c.selections = b.selections := by
    obtain rfl := Option.some.inj hc
    exact Buffer.selections_eq_of_unmarked_eq
      (Reconciler.unmarked_renderPlaceholders s.marks ⟨b, s.hub⟩ true)
  obtain ⟨hgrows, hnew⟩ := Reconciler.widgets_renderPlaceholders s.marks ⟨b, s.hub⟩
  exact ⟨_, c, hworks, huse, rfl, hc, hselections, hstep, hexact, hgrows, hnew⟩

private theorem InUse.works_refresh (htasks : s.tasks = .refreshToolbar :: rest) :
    ∃ toolbar, let u : Session := { s with tasks := rest, toolbar := toolbar }
      s.Works 1 u ∧ u.InUse lines foreign ∧ u.toolbar = u.refreshToolbar.toolbar := by
  obtain ⟨b, hb, -⟩ := h.shown
  have hrest : ({ s with tasks := rest } : Session).InUse lines foreign := h.of_tasks rest
  have hworks := Works.one htasks
  have huse := hrest.runTask .refreshToolbar
  rw [runTask_refresh hrest.live hb] at hworks huse
  obtain ⟨toolbar, hrefreshed⟩ := ({ s with tasks := rest } : Session).exists_refreshToolbar
  rw [hrefreshed] at hworks huse
  have hsame : ({ s with tasks := rest, toolbar := toolbar } : Session).refreshToolbar.toolbar =
      ({ s with tasks := rest } : Session).refreshToolbar.toolbar := toolbar_congr rfl rfl rfl rfl rfl
  rw [hrefreshed] at hsame
  exact ⟨toolbar, hworks, huse, hsame.symm⟩

/-- The work of a command leaves placeholders that have just been drawn, with new widgets. -/
private theorem InUse.works_batch {ranges : List Selection} (htasks : s.tasks = batch ranges ++ rest) :
    ∃ u, ∃ b c : Buffer, s.Works 3 u ∧ u.InUse lines foreign ∧
      u.tasks = rest ++ (u.marks.firstPlaceholder? c).toList.map (.activatePlaceholder ·.2) ∧
      u.buffer = some c ∧ b.lines = lines ∧ c.selections = (b.setSelections ranges).selections ∧
      u.InStep c ∧ Reconciler.Exact c foreign ∧ u.toolbar = u.refreshToolbar.toolbar ∧
      s.hub.widgets.length ≤ u.hub.widgets.length ∧
      ∀ g ∈ u.marks.placeholders, s.hub.widgets.length ≤ g.widget.value ∧
        g.widget.value < u.hub.widgets.length := by
  obtain ⟨restored, b, hworks, huse, htasks, hlines, hb, hwidgets⟩ := h.works_restore htasks
  obtain ⟨drawn, c, hworks', huse', htasks', hc, hselections, hstep, hexact, hgrows, hnew⟩ :=
    huse.works_render hb htasks
  obtain ⟨toolbar, hworks'', huse'', htoolbar⟩ := huse'.works_refresh htasks'
  rw [hwidgets] at hgrows hnew
  exact ⟨_, b, c, (hworks.trans hworks').trans hworks'', huse'', rfl, hc, hlines, hselections,
    hstep, hexact, htoolbar,
    hgrows, hnew⟩

end Batch

/-! ### The work of all commands -/

/-- The work of several commands: what waits behind it is followed by the clicks that come up, one for
each drawing of a text that has a placeholder. -/
theorem InUse.works_batches (h : s.InUse lines foreign) {left : List (List Selection)} {rest : List Task}
    (htasks : s.tasks = left.flatMap batch ++ rest) :
    ∃ u, ∃ clicks : List WidgetId, s.Works (3 * left.length) u ∧ u.InUse lines foreign ∧
      u.tasks = rest ++ clicks.map .activatePlaceholder ∧
      clicks.length = (if scanPlaceholders lines = [] then 0 else left.length) ∧
      s.hub.widgets.length ≤ u.hub.widgets.length ∧ ∀ id ∈ clicks, id.value < u.hub.widgets.length := by
  induction left generalizing s rest with
  | nil => exact ⟨s, [], .none s, h, by simpa using htasks, by simp, Nat.le_refl _, by simp⟩
  | cons ranges left ih =>
    rw [List.flatMap_cons, List.append_assoc] at htasks
    obtain ⟨first, b, c, hworks, huse, htasks', hc, -, -, hstep, -, -, hgrows, hnew⟩ :=
      h.works_batch htasks
    rw [List.append_assoc] at htasks'
    obtain ⟨u, clicks, hworks', huse', htasks'', hclicks, hgrows', hbelow⟩ := ih huse htasks'
    have hlines : c.lines = lines := by
      obtain ⟨c', hc', hlines⟩ := huse.shown
      obtain rfl := Option.some.inj (hc.symm.trans hc')
      exact hlines
    have hone := hstep.length_firstPlaceholder?
    rw [hlines] at hone
    refine ⟨u, (first.marks.firstPlaceholder? c).toList.map (·.2) ++ clicks, ?_, huse', ?_, ?_,
      Nat.le_trans hgrows hgrows', ?_⟩
    · rw [List.length_cons, Nat.mul_succ, Nat.add_comm]
      exact hworks.trans hworks'
    · rw [htasks'', List.map_append, List.map_map, List.append_assoc]
      rfl
    · rw [List.length_append, List.length_map, hone, hclicks, List.length_cons]
      split <;> omega
    · intro id hid
      rcases List.mem_append.1 hid with hid | hid
      · obtain ⟨x, hx, rfl⟩ := List.mem_map.1 hid
        obtain ⟨g, hg, m, -, rfl⟩ :=
          Reconciler.mem_livePlaceholders.1 (List.mem_of_head? (Option.mem_toList.1 hx))
        exact Nat.lt_of_lt_of_le (hnew g hg).2 hgrows'
      · exact hbelow id hid

/-- Clicks on widgets that no placeholder has come to nothing. -/
theorem InUse.works_stale (h : s.InUse lines foreign) {clicks : List WidgetId} {rest : List Task}
    (htasks : s.tasks = clicks.map .activatePlaceholder ++ rest)
    (hstale : ∀ id ∈ clicks, ∀ g ∈ s.marks.placeholders, g.widget ≠ id) :
    s.Works clicks.length { s with tasks := rest } := by
  induction clicks generalizing s with
  | nil =>
    obtain rfl : s.tasks = rest := htasks
    exact .none s
  | cons id clicks ih =>
    obtain ⟨b, hb, -⟩ := h.shown
    have hnext := h.of_tasks (clicks.map .activatePlaceholder ++ rest)
    rw [List.map_cons, List.cons_append] at htasks
    refine .piece htasks ?_
    rw [runTask_activate hnext.live hb,
      activatePlaceholder_of_stale hnext.attuned (hstale id List.mem_cons_self)]
    exact ih hnext rfl fun id' hid' => hstale id' (List.mem_cons_of_mem _ hid')

/-- What is left of a text when the work of commands has been done: the placeholders have just been drawn,
the first one is selected or else the given selection, and the toolbar is the one for that selection. -/
structure Finished (u : Session) (c : Buffer) (foreign : List MarkId)
    (restored : List Selection) : Prop where
  selected : restored ≠ []
  tasks : u.tasks = []
  shown : u.buffer = some c
  inStep : u.InStep c
  exact : Reconciler.Exact c foreign
  toolbar : u.toolbar =
    ({ u with
        buffer := some { c with selections := restored, selected := selected }
      } : Session).refreshToolbar.toolbar
  selections : c.selections =
    match (scanPlaceholders c.lines).head? with
    | some p => [⟨p.range.start, p.range.stop⟩]
    | none => restored

private theorem InUse.finished_select (h : s.InUse lines foreign) (hb : s.buffer = some b)
    (hdone : s.tasks = []) (hstep : s.InStep b) (hexact : Reconciler.Exact b foreign)
    (htoolbar : s.toolbar = s.refreshToolbar.toolbar) {p : Placeholder}
    (hp : (scanPlaceholders b.lines).head? = some p) :
    (s.select [⟨p.range.start, p.range.stop⟩]).Finished
      (b.selectOnly ⟨p.range.start, p.range.stop⟩) foreign
      b.selections := by
  have hset : b.setSelections [⟨p.range.start, p.range.stop⟩] =
      b.selectOnly ⟨p.range.start, p.range.stop⟩ :=
    setSelections_of_holds (holds_of_mem_scanPlaceholders (List.mem_of_head? hp))
  have hstill := hstep.select h.attuned [⟨p.range.start, p.range.stop⟩]
  rw [hset] at hstill
  refine ⟨b.selected, hdone, ?_, hstill, hexact, htoolbar.trans (toolbar_congr rfl rfl rfl rfl hb), ?_⟩
  · show s.buffer.map _ = _
    rw [hb, Option.map_some, hset]
  · have hscan : (scanPlaceholders (b.selectOnly ⟨p.range.start, p.range.stop⟩).lines).head? = some p :=
      hp
    rw [hscan]
    rfl

/-- The click that the last drawing has brought up is the last piece of work. -/
private theorem InUse.works_click (h : s.InUse lines foreign) (hb : s.buffer = some b)
    (htasks : s.tasks = (s.marks.firstPlaceholder? b).toList.map (.activatePlaceholder ·.2))
    (hstep : s.InStep b) (hexact : Reconciler.Exact b foreign)
    (htoolbar : s.toolbar = s.refreshToolbar.toolbar) :
    ∃ u c, s.Works (if scanPlaceholders b.lines = [] then 0 else 1) u ∧ c.lines = b.lines ∧
      u.Finished c foreign b.selections := by
  have hhead := hstep.map_firstPlaceholder?
  rcases hfirst : s.marks.firstPlaceholder? b with _ | x
  · rw [hfirst] at hhead htasks
    have hnone : scanPlaceholders b.lines = [] :=
      List.head?_eq_none_iff.1 (Option.map_eq_none_iff.1 hhead.symm)
    rw [if_pos hnone]
    refine ⟨s, b, .none s, rfl, b.selected, htasks, hb, hstep, hexact,
      htoolbar.trans (toolbar_congr rfl rfl rfl rfl hb), ?_⟩
    rw [hnone]
    rfl
  · rw [hfirst] at hhead htasks
    obtain ⟨p, hp, hrange⟩ := Option.map_eq_some_iff.1 hhead.symm
    have hsome : scanPlaceholders b.lines ≠ [] := List.ne_nil_of_mem (List.mem_of_head? hp)
    have hdone := h.of_tasks []
    have hclick : ({ s with tasks := [] } : Session).runTask (.activatePlaceholder x.2) =
        ({ s with tasks := [] } : Session).select [⟨p.range.start, p.range.stop⟩] := by
      rw [runTask_activate hdone.live hb,
        activatePlaceholder_of_live (s := { s with tasks := [] }) (b := b) hstep
        hdone.attuned (List.mem_of_head? hfirst), hrange]
    rw [if_neg hsome]
    refine ⟨_, _, .one htasks, ?_, hclick ▸ hdone.finished_select hb rfl hstep hexact ?_ hp⟩
    · rfl
    · exact htoolbar.trans (toolbar_congr rfl rfl rfl rfl rfl)

/-- Three pieces of work for each command, and one for each drawing of a text with a placeholder. -/
theorem InUse.works_commands (h : s.InUse lines foreign) {left : List (List Selection)}
    {last : List Selection} (htasks : s.tasks = (left ++ [last]).flatMap batch) :
    let k := (left ++ [last]).length
    ∃ u, ∃ b c : Buffer, s.Works (3 * k + if scanPlaceholders lines = [] then 0 else k) u ∧
    b.lines = lines ∧
      c.lines = lines ∧ u.Finished c foreign (b.setSelections last).selections := by
  intro k
  rw [List.flatMap_append, List.flatMap_singleton] at htasks
  obtain ⟨before, clicks, hworks, huse, htasks', hclicks, -, hbelow⟩ := h.works_batches htasks
  obtain ⟨drawn, b, c, hworks', huse', htasks'', hc, hlines, hselections, hstep,
    hexact, htoolbar, -, hnew⟩ :=
    huse.works_batch htasks'
  have hstale : ∀ id ∈ clicks, ∀ g ∈ drawn.marks.placeholders, g.widget ≠ id := by
    rintro id hid g hg rfl
    exact absurd (hbelow _ hid) (Nat.not_lt.2 (hnew g hg).1)
  have hworks'' := huse'.works_stale htasks'' hstale
  have huse'' := huse'.of_tasks ((drawn.marks.firstPlaceholder? c).toList.map (.activatePlaceholder ·.2))
  obtain ⟨u, c', hworks''', hlines', hfinished⟩ :=
    huse''.works_click hc rfl hstep hexact (htoolbar.trans (toolbar_congr rfl rfl rfl rfl rfl))
  have hlines'' : c.lines = lines := by
    obtain ⟨d, hd, hlines⟩ := huse'.shown
    obtain rfl := Option.some.inj (hc.symm.trans hd)
    exact hlines
  rw [hlines''] at hlines' hworks'''
  rw [hselections] at hfinished
  refine ⟨u, b, c', ?_, hlines, hlines', hfinished⟩
  have hall := ((hworks.trans hworks').trans hworks'').trans hworks'''
  have hcount : 3 * left.length + 3 + clicks.length + (if scanPlaceholders lines = [] then 0 else 1) =
      3 * k + if scanPlaceholders lines = [] then 0 else k := by
    have hk : k = left.length + 1 := List.length_append
    rw [hclicks, hk]
    split <;> omega
  rw [hcount] at hall
  exact hall

/-! ### Commands -/

/-- A command that succeeds puts off restoring the selection that it leaves. -/
private theorem execCommand_of_ok {name : String} (hok : (s.execCommand name).1 = .ok ()) :
    let u := (s.execCommand name).2
    u.health ≠ .crashed ∧ ∃ c, u.buffer = some c ∧ u.tasks = s.tasks ++ batch c.selections := by
  dsimp only
  rw [execCommand_def, whileLive_def, withBuffer_def] at hok ⊢
  split at hok
  · simp at hok
  rename_i hlive
  rw [if_neg hlive]
  split at hok
  · simp at hok
  rename_i b hb
  dsimp only at hok ⊢
  rcases hrun : s.runCommand b name with ⟨e | u, c⟩
  · simp [hrun] at hok
  · refine ⟨hlive, _, rfl, ?_⟩
    exact congrArg (s.tasks ++ batch ·) (Buffer.selections_eq_of_unmarked_eq
      (Reconciler.unmarked_reconcile s.marks ⟨c, s.hub⟩ s.story false)).symm

private theorem tasks_of_commands {names : List String} (hne : names ≠ [])
    (hok : ∀ r ∈ (s.each execCommand names).1, r = .ok ()) :
    let u := (s.each execCommand names).2
    ∃ left b, u.health ≠ .crashed ∧ u.buffer = some b ∧
      u.tasks = s.tasks ++ (left ++ [b.selections]).flatMap batch ∧
      (left ++ [b.selections]).length = names.length := by
  induction names generalizing s with
  | nil => exact absurd rfl hne
  | cons name rest ih =>
    obtain ⟨hlive, c, hc, htasks⟩ := execCommand_of_ok (hok _ List.mem_cons_self)
    rcases List.eq_nil_or_concat rest with rfl | hrest
    · refine ⟨[], c, hlive, hc, ?_, rfl⟩
      rw [List.nil_append, List.flatMap_singleton]
      exact htasks
    · have hne' : rest ≠ [] := by
        obtain ⟨front, x, rfl⟩ := hrest
        simp
      obtain ⟨left, b, hlive', hb, htasks', hlength⟩ :=
        ih hne' fun r hr => hok r (List.mem_cons_of_mem _ hr)
      refine ⟨c.selections :: left, b, hlive', hb, ?_, ?_⟩
      · rw [htasks, List.append_assoc] at htasks'
        exact htasks'
      · rw [List.cons_append, List.length_cons, hlength, List.length_cons]

end Session

namespace Hosted

open Session

private theorem desk_foldl_turn (turns : List Desk.Turn) (w : Hosted) :
    (turns.foldl turn w).desk = turns.foldl Desk.turn w.desk :=
  (List.foldl_hom Hosted.desk fun _ _ => rfl).symm

/-- The turns that run commands. -/
def commands (names : List String) : List Desk.Turn := names.map fun name => .op (.request (.exec name))

private theorem session_commands (names : List String) (w : Hosted) :
    ((commands names).foldl turn w).desk.session = (w.desk.session.each execCommand names).2 := by
  induction names generalizing w with
  | nil => rfl
  | cons name rest ih => exact ih (w.turn (.op (.request (.exec name))))

/-- A session with a buffer is in use after any turns, as long as it lives. -/
private theorem inUse_run {store : Store} {formats : Registry} {story : StoryId} {passage : PassageId}
    {config : Config} {s : Session} (h : open? store formats story passage config = .ok s)
    (hformats : formats.Fair) {turns : List Desk.Turn} (hfair : ∀ t ∈ turns, t.Fair) {b : Buffer} :
    let w := turns.foldl turn (opened store s)
    w.desk.session.health ≠ .crashed → w.desk.session.buffer = some b →
      w.desk.session.InUse b.lines w.foreign := by
  intro w hlive hb
  refine ⟨hlive, tidy_run h hformats hfair, ?_, b, hb, rfl⟩
  rw [desk_foldl_turn]
  exact Desk.attuned_run h turns

/-- The work that commands have put off comes to an end after three pieces for each command, and one more
for each where the text has a placeholder.  Then the placeholders have just been drawn, and the first one
is selected, or else what the last command has left selected, moved into the text. -/
theorem works_of_commands {store : Store} {formats : Registry} {story : StoryId} {passage : PassageId}
    {config : Config} {s : Session} (h : open? store formats story passage config = .ok s)
    (hformats : formats.Fair) {turns : List Desk.Turn} (hfair : ∀ t ∈ turns, t.Fair)
    {names : List String} :
    let w := turns.foldl turn (opened store s)
    let v := (commands names).foldl turn w
    let u := v.desk.session
    let k := names.length
    names ≠ [] → w.desk.session.tasks = [] →
      (∀ r ∈ (w.desk.session.each execCommand names).1, r = .ok ()) →
      ∃ b c, u.buffer = some b ∧
        u.Works (3 * k + if scanPlaceholders b.lines = [] then 0 else k) u.runTasks.2 ∧
        u.runTasks.1 = (3 * k + if scanPlaceholders b.lines = [] then 0 else k) ∧
        c.lines = b.lines ∧ u.runTasks.2.localText = u.localText ∧
        u.runTasks.2.Finished c v.foreign (b.selections.map fun x =>
          ⟨b.clamp x.anchor, b.clamp x.head⟩) := by
  intro w v u k hne hidle hok
  have hu : u = (w.desk.session.each execCommand names).2 := session_commands names w
  obtain ⟨left, b, hlive, hb, htasks, hlength⟩ := tasks_of_commands hne hok
  rw [hidle, List.nil_append, ← hu] at htasks
  rw [← hu] at hlive hb
  have hfair' : ∀ t ∈ turns ++ commands names, t.Fair := by
    intro t ht
    rcases List.mem_append.1 ht with ht | ht
    · exact hfair t ht
    · obtain ⟨name, -, rfl⟩ := List.mem_map.1 ht
      trivial
  have hv : (turns ++ commands names).foldl turn (opened store s) = v := List.foldl_append
  have huse := inUse_run (b := b) h hformats hfair'
  rw [hv] at huse
  specialize huse hlive hb
  obtain ⟨t, d, c, hworks, hd, hc, hfinished⟩ := huse.works_commands htasks
  rw [hlength] at hworks
  have hrun := runTasks_of_works hworks hfinished.tasks
  have ht : u.runTasks.2 = t := congrArg Prod.snd hrun
  have hlocal : u.runTasks.2.localText = u.localText := congrArg (·.draft.text) (view_runTasks u)
  have hrestored : (d.setSelections b.selections).selections =
      b.selections.map fun x => ⟨b.clamp x.anchor, b.clamp x.head⟩ := by
    rw [Buffer.selections_setSelections b.selected, Buffer.clamp_congr hd]
  rw [hrestored] at hfinished
  exact ⟨b, c, hb, ht ▸ hworks, congrArg Prod.fst hrun, hc, hlocal, ht ▸ hfinished⟩

private theorem fair_empty : Registry.empty.Fair := by
  intro format config x hx
  simp [Registry.empty, Registry.extensionsFor, Registry.find?] at hx

/-- The text of the passage is shown. -/
def shownTurns : List Desk.Turn := [.op (.request (.attach (.ofText "")))]

/-- Two commands that go to the end of a text and select all of it: eight pieces of work, and the
placeholder is selected. -/
theorem works_of_commands_selectAll :
    ∃ s, open? linkedStore .empty ⟨1⟩ ⟨1⟩ .default = .ok s ∧ Registry.empty.Fair ∧
      (∀ t ∈ shownTurns, t.Fair) ∧
      let w := shownTurns.foldl turn (opened linkedStore s)
      let u := ((commands ["goDocEnd", "selectAll"]).foldl turn w).desk.session
      w.desk.session.tasks = [] ∧
        (∀ r ∈ (w.desk.session.each execCommand ["goDocEnd", "selectAll"]).1, r = .ok ()) ∧
        u.runTasks.1 = 8 ∧
        ∃ c, u.runTasks.2.buffer = some c ∧ c.selections = [⟨⟨0, 0⟩, ⟨0, 6⟩⟩] := by
  have hfair : ∀ t ∈ shownTurns, t.Fair := by
    intro t ht
    obtain rfl := List.mem_singleton.1 ht
    exact Buffer.numbered_ofText ""
  have hvalues : ((open? linkedStore .empty ⟨1⟩ ⟨1⟩ .default).toOption.map fun s =>
      let w := shownTurns.foldl turn (opened linkedStore s)
      let u := ((commands ["goDocEnd", "selectAll"]).foldl turn w).desk.session
      decide (w.desk.session.tasks = [] ∧
        (∀ r ∈ (w.desk.session.each execCommand ["goDocEnd", "selectAll"]).1, r.isOk = true) ∧
        u.buffer.map (fun b => (scanPlaceholders b.lines).map (·.range)) = some [⟨⟨0, 0⟩, ⟨0, 6⟩⟩])) =
          some true := by
    decide +kernel
  rcases hopen : open? linkedStore .empty ⟨1⟩ ⟨1⟩ .default with e | s
  · simp [hopen, Except.toOption] at hvalues
  rw [hopen, Except.toOption, Option.map_some, Option.some.injEq] at hvalues
  obtain ⟨hidle, hok, hscan⟩ := of_decide_eq_true hvalues
  have hok' : ∀ r ∈ ((shownTurns.foldl turn (opened linkedStore s)).desk.session.each execCommand
      ["goDocEnd", "selectAll"]).1, r = .ok () := by
    intro r hr
    rcases r with e | u
    · exact absurd (hok _ hr) (by simp [Except.isOk, Except.toBool])
    · rfl
  obtain ⟨b, c, hb, -, hcount, hlines, -, hfinished⟩ :=
    works_of_commands hopen fair_empty hfair (by simp) hidle hok'
  rw [hb, Option.map_some, Option.some.injEq] at hscan
  obtain ⟨p, hp, hrange⟩ : ∃ p, scanPlaceholders b.lines = [p] ∧ p.range = ⟨⟨0, 0⟩, ⟨0, 6⟩⟩ :=
    List.map_eq_singleton_iff.1 hscan
  refine ⟨s, rfl, fair_empty, hfair, hidle, hok', ?_, c, hfinished.shown, ?_⟩
  · rw [hcount, hp]
    rfl
  · rw [hfinished.selections, hlines, hp]
    dsimp only [List.head?_cons]
    rw [hrange]

end Hosted

end PassageEditor
