import PassageEditor.Proofs.Session.Listing

/-!
# What requests do to the open list

An open list has a buffer, a session that has not crashed and a passage whose variables have been scanned
(`Ordered`).  A request leaves such a list as it is, makes it anew or closes it: moves of the cursor and
picks do the latter two, commands and buffers that are attached the first.
-/

namespace PassageEditor

namespace Session

/-! ### What holds between two operations -/

/-- An open list has a buffer and a session that has not crashed, and the variables of the passage, which
is one of the story, have been scanned. -/
structure Ordered (s : Session) : Prop where
  attached : s.completion.isSome → s.view.shown.isSome
  live : s.completion.isSome → s.health ≠ .crashed
  tracked : ∀ t, s.tracker = some t → t.Consistent ∧ t.index.isScanned s.revision.passage.id
  member : ∃ r ∈ s.story.passages, r.passage.id = s.revision.passage.id

namespace Ordered

variable {s t : Session}

theorem ready (h : s.Ordered) : s.Ready := fun t ht => (h.tracked t ht).2

theorem keep (h : s.Ordered) (hoffer : t.offer = s.offer) (hstory : t.story = s.story)
    (hrevision : t.revision = s.revision) (hshown : s.view.shown.isSome → t.view.shown.isSome) :
    t.Ordered := by
  simp only [offer, Prod.mk.injEq] at hoffer
  obtain ⟨hlist, hhealth, htracker⟩ := hoffer
  refine ⟨fun hc => ?_, fun hc => ?_, fun u hu => ?_, ?_⟩
  · exact hshown (h.attached (hlist ▸ hc))
  · rw [hhealth]
    exact h.live (hlist ▸ hc)
  · rw [hrevision]
    exact h.tracked u (htracker ▸ hu)
  · rw [hstory, hrevision]
    exact h.member

theorem close (h : s.Ordered) (hlist : t.completion = none)
    (htracker : t.tracker = none ∨ t.tracker = s.tracker) (hstory : t.story = s.story)
    (hrevision : t.revision = s.revision) : t.Ordered := by
  refine ⟨fun hc => ?_, fun hc => ?_, fun u hu => ?_, ?_⟩
  · simp [hlist] at hc
  · simp [hlist] at hc
  · rw [hrevision]
    rcases htracker with hnone | hsame
    · simp [hnone] at hu
    · exact h.tracked u (hsame ▸ hu)
  · rw [hstory, hrevision]
    exact h.member

/-- Making a list keeps the order; the buffer is there and the session lives. -/
theorem make (h : s.Ordered) {r : Result (Option CompletionList)} (hshown : s.view.shown.isSome)
    (hlive : s.health ≠ .crashed) (hview : r.2.view = s.view) (hstanding : r.2.standing = s.standing) :
    r.2.Ordered := by
  have hhealth : r.2.health = s.health := congrArg Prod.fst hstanding
  have htracker : r.2.tracker = s.tracker := congrArg Prod.snd hstanding
  have hstory : r.2.story = s.story := congrArg View.story hview
  have hrevision : r.2.revision = s.revision := congrArg View.revision hview
  refine ⟨fun _ => ?_, fun _ => ?_, fun u hu => ?_, ?_⟩
  · rw [hview]
    exact hshown
  · rw [hhealth]
    exact hlive
  · rw [hrevision]
    exact h.tracked u (htracker ▸ hu)
  · rw [hstory, hrevision]
    exact h.member

end Ordered

private theorem tracked_rebuildVariables {s : Session}
    (hmember : ∃ r ∈ s.story.passages, r.passage.id = s.revision.passage.id) :
    ∀ t, s.rebuildVariables.tracker = some t →
      t.Consistent ∧ t.index.isScanned s.revision.passage.id := by
  intro t ht
  rw [rebuildVariables_def] at ht
  obtain ⟨hooks, -, rfl⟩ := Option.map_eq_some_iff.1 ht
  obtain ⟨r, hr, hid⟩ := hmember
  have hempty := Tracker.consistent_empty hooks s.format
  exact ⟨(Tracker.consistent_sync hempty s.story).1, hid ▸ Tracker.isScanned_sync hempty hr⟩

theorem ordered_open {store : Store} {formats : Registry} {story : StoryId} {passage : PassageId}
    {config : Config} {s : Session} (h : open? store formats story passage config = .ok s) :
    s.Ordered ∧ s.completion = none := by
  obtain ⟨st, r, pattern, hst, hr, rfl⟩ := open_eq h
  have hid : r.passage.id = passage := by simpa using List.find?_some hr
  refine ⟨⟨fun hc => by
      simp [rebuildVariables_def] at hc, fun hc => by simp [rebuildVariables_def] at hc, ?_, ?_⟩, rfl⟩
  · exact tracked_rebuildVariables ⟨r, List.mem_of_find?_eq_some hr, rfl⟩
  · exact ⟨r, List.mem_of_find?_eq_some hr, rfl⟩

/-! ### What an operation does to the list -/

/-- An operation makes a list for the text shown, or leaves none open, or leaves the list alone; in the
last case the text changes under an open list if the operation overtakes it. -/
inductive Treats (s t : Session) (made : Option CompletionList) (overtaken : Prop) : Prop
  | makes (list : CompletionList) (b : Buffer) (hmade : made = some list)
    (hopen : t.completion = some list)
      (hshown : t.view.shown = some b.text)
      (hlist : ∃ kind sources, Completion.complete kind b sources = .ok (some list)) (hin : ¬ overtaken)
  | closes (hmade : made = none) (hclosed : t.completion = none) (hin : ¬ overtaken)
  | leaves (hmade : made = none) (hsame : t.completion = s.completion)
      (htext : overtaken ↔ s.completion.isSome ∧ t.view.shown ≠ s.view.shown)

/-- The list that a request makes, if it makes one. -/
def lists? (s : Session) : Request → Option CompletionList
  | .trigger => Result.list? s.triggerCompletion
  | .refresh => Result.list? s.refreshCompletion
  | .select ranges =>
    if s.health = .crashed ∨ s.buffer.isNone then none else Result.list? (s.select ranges).followSelection
  | _ => none

/-- The request changes the text shown under an open list, which stays: a command has changed it, or a
buffer is attached and gets the text of the session. -/
def Overtakes (s : Session) : Request → Prop
  | .attach _ => s.completion.isSome ∧ s.view.shown ≠ some s.localText
  | .exec name =>
    s.completion.isSome ∧ ∃ outcome b, s.ran? name = some (outcome, b) ∧ s.view.shown ≠ some b.text
  | _ => False

namespace Treats

variable {s t : Session} {made : Option CompletionList}

/-- Where a list is made or none is left, the session before does not count. -/
theorem of_makes {u : Session} {r : Result (Option CompletionList)} (h : u.Makes r)
    (hview : r.2.view = u.view) :
    Treats s r.2 (Result.list? r) False := by
  rcases h with ⟨b, list, hb, hlist, hopen, -, kind, hfound⟩ | ⟨hlist, hopen⟩
  · refine .makes list b hlist hopen ?_ ⟨kind, _, hfound⟩ id
    rw [hview, shown_of_buffer hb]
  · exact .closes hlist hopen id

theorem of_kept (hsame : t.completion = s.completion) (hshown : t.view.shown = s.view.shown) :
    Treats s t none False := by
  refine .leaves rfl hsame ⟨False.elim, ?_⟩
  rintro ⟨-, hne⟩
  exact hne hshown

end Treats

private theorem completion_of_offer {s t : Session} (h : t.offer = s.offer) :
    t.completion = s.completion :=
  congrArg Prod.fst h

/-- A command leaves the list; what it does to the text is what overtakes it. -/
private theorem treats_execCommand (s : Session) (name : String) :
    Treats s (s.execCommand name).2 none (s.Overtakes (.exec name)) := by
  have hsame : (s.execCommand name).2.completion = s.completion :=
    completion_of_offer (offer_execCommand s name)
  refine .leaves rfl hsame ?_
  simp only [Overtakes]
  refine and_congr_right fun _ => ?_
  have hview := view_execCommand s name
  rcases hran : s.ran? name with _ | ⟨e | u, b⟩
  · rw [hran] at hview
    simp [hview]
  · rw [hran] at hview
    simp [hview, eq_comm]
  · rw [hran] at hview
    simp [hview, eq_comm]

private theorem treats_attach {s : Session} (h : s.Ordered) (b : Buffer) :
    Treats s (s.attach b).2 none (s.Overtakes (.attach b)) := by
  have hsame : (s.attach b).2.completion = s.completion := completion_of_offer (offer_attach s b)
  refine .leaves rfl hsame ?_
  simp only [Overtakes]
  refine and_congr_right fun hc => ?_
  rw [view_attach, if_neg (h.live hc)]
  exact ne_comm

private theorem treats_refreshCompletion {s : Session} (h : s.Ordered) :
    Treats s s.refreshCompletion.2 (Result.list? s.refreshCompletion) False := by
  cases hc : s.completion with
  | none =>
    have hs : Result.list? s.refreshCompletion = none ∧ s.refreshCompletion.2 = s := by
      rw [refreshCompletion_def, whileLive_def, hc]
      split
      · exact ⟨rfl, rfl⟩
      · exact ⟨rfl, rfl⟩
    rw [hs.1, hs.2]
    exact .of_kept rfl rfl
  | some list =>
    have hopen : s.completion.isSome := by simp [hc]
    obtain ⟨text, htext⟩ := Option.isSome_iff_exists.1 (h.attached hopen)
    obtain ⟨b, hb, -⟩ := Option.map_eq_some_iff.1 htext
    exact .of_makes (makes_refreshCompletion (h.live hopen) hb h.ready) (view_refreshCompletion s)

private theorem treats_changeSelection {s : Session} (h : s.Ordered) (ranges : List Selection) :
    Treats s (s.changeSelection ranges).2 (s.lists? (.select ranges)) False := by
  rw [changeSelection_eq]
  simp only [lists?]
  split
  · exact .of_kept rfl rfl
  · rename_i hnot
    obtain ⟨hlive, hattached⟩ := not_or.1 hnot
    obtain ⟨b, hb⟩ := Option.ne_none_iff_exists'.1 (by simpa using hattached)
    have hselected : (s.select ranges).buffer = some (b.setSelections ranges) := by simp [select, hb]
    have hready : (s.select ranges).Ready := h.ready
    have hmakes := makes_followSelection (s := s.select ranges) hlive hselected hready
    exact .of_makes hmakes (view_followSelection _)

private theorem completion_pickCompletion (s : Session) (index : Nat) :
    (s.pickCompletion index).2.completion = none ∨ (s.pickCompletion index).2 = s := by
  have hpick : ∀ b, (s.afterPick b).completion = none := fun b => congrArg Prod.fst (offer_afterPick s b)
  rw [pickCompletion_eq]
  rcases s.picked? index with _ | ⟨_ | name, b⟩
  · exact .inr rfl
  · exact .inl (hpick b)
  · exact .inl ((completion_of_offer (offer_execCommand _ name)).trans (hpick b))

private theorem completion_detach (s : Session) : s.detach.2.completion = none ∨ s.detach.2 = s := by
  unfold detach
  split
  · exact .inr rfl
  · exact .inl rfl

/-- Each request makes a list, or leaves none open, or leaves it alone. -/
theorem treats_serve {s : Session} (h : s.Ordered) (request : Request) :
    Treats s (s.serve request) (s.lists? request) (s.Overtakes request) := by
  cases request with
  | attach b => exact treats_attach h b
  | exec name => exact treats_execCommand s name
  | detach =>
    show Treats s s.detach.2 none False
    rcases completion_detach s with hc | hs
    · exact .closes rfl hc id
    · exact .of_kept (by rw [hs]) (by rw [hs])
  | pick index =>
    show Treats s (s.pickCompletion index).2 none False
    rcases completion_pickCompletion s index with hc | hs
    · exact .closes rfl hc id
    · exact .of_kept (by rw [hs]) (by rw [hs])
  | trigger =>
    show Treats s s.triggerCompletion.2 (Result.list? s.triggerCompletion) False
    rcases makes_triggerCompletion h.ready with hm | ⟨hr, hs⟩
    · exact .of_makes hm (view_triggerCompletion s)
    · rw [hr, hs]
      exact .of_kept rfl rfl
  | refresh => exact treats_refreshCompletion h
  | select ranges => exact treats_changeSelection h ranges
  | close => exact .closes rfl (completion_closeCompletion s) id
  | key key =>
    exact .of_kept (completion_of_offer (offer_handleKey s key))
      (congrArg View.shown (view_handleKey s key))
  | event event =>
    exact .of_kept (completion_of_offer (offer_dispatchEvent s event))
      (congrArg View.shown (view_dispatchEvent s event))
  | runTasks =>
    exact .of_kept (completion_of_offer (offer_runTasks s)) (congrArg View.shown (view_runTasks s))
  | crash message =>
    obtain ⟨tracker, hoffer, -⟩ := offer_reportCrash s message
    exact .closes rfl (congrArg Prod.fst hoffer) id
  | refreshFormat formats =>
    refine .of_kept ?_ (congrArg View.shown (view_refreshFormat s formats))
    exact (offer_refreshFormat s formats).1
  | drainEvents => exact .of_kept rfl rfl

/-! ### The order is kept -/

private theorem ordered_refreshFormat {s : Session} (h : s.Ordered) (formats : Registry) :
    (s.refreshFormat formats).2.Ordered := by
  have hview := view_refreshFormat s formats
  have hoffer := offer_refreshFormat s formats
  have hstory : (s.refreshFormat formats).2.story = s.story := congrArg View.story hview
  have hrevision : (s.refreshFormat formats).2.revision = s.revision := congrArg View.revision hview
  refine ⟨fun hc => ?_, fun hc => ?_, ?_, ?_⟩
  · rw [hview]
    exact h.attached (hoffer.1 ▸ hc)
  · rw [hoffer.2.1]
    exact h.live (hoffer.1 ▸ hc)
  · rw [hrevision]
    rcases hoffer.2.2 with hsame | ⟨u, hstory', hrevision', hrebuilt⟩
    · rw [hsame]
      exact h.tracked
    · rw [hrebuilt, ← hrevision']
      exact tracked_rebuildVariables (by rw [hstory', hrevision']; exact h.member)
  · rw [hstory, hrevision]
    exact h.member

private theorem unchanged_or_ready (s : Session) (op : Buffer → Result (Option CompletionList)) :
    (s.whileLive (s.withBuffer op)).2 = s ∨ s.view.shown.isSome ∧ s.health ≠ .crashed := by
  rw [whileLive_def, withBuffer_def]
  split
  · exact .inl rfl
  · rename_i hlive
    cases hb : s.buffer with
    | none => exact .inl rfl
    | some b => exact .inr ⟨by simp [shown_of_buffer hb], hlive⟩

/-- Making a list keeps the order. -/
private theorem Ordered.makeList {s : Session} (h : s.Ordered) {r : Result (Option CompletionList)}
    (hready : r.2 = s ∨ s.view.shown.isSome ∧ s.health ≠ .crashed) (hview : r.2.view = s.view)
    (hstanding : r.2.standing = s.standing) : r.2.Ordered := by
  rcases hready with hs | ⟨hshown, hlive⟩
  · rw [hs]
    exact h
  · exact h.make hshown hlive hview hstanding

private theorem ordered_refreshCompletion {s : Session} (h : s.Ordered) :
    s.refreshCompletion.2.Ordered := by
  refine h.makeList ?_ (view_refreshCompletion s)
    (keeps_refreshCompletion (f := standing) (fun _ _ _ => rfl) s)
  cases hc : s.completion with
  | some list =>
    have hopen : s.completion.isSome := by simp [hc]
    exact .inr ⟨h.attached hopen, h.live hopen⟩
  | none =>
    left
    rw [refreshCompletion_def, whileLive_def, hc]
    split
    · rfl
    · rfl

private theorem ordered_changeSelection {s : Session} (h : s.Ordered) (ranges : List Selection) :
    (s.changeSelection ranges).2.Ordered := by
  rw [changeSelection_eq]
  split
  · exact h
  · rename_i hnot
    obtain ⟨hlive, hattached⟩ := not_or.1 hnot
    obtain ⟨b, hb⟩ := Option.ne_none_iff_exists'.1 (by simpa using hattached)
    have hselect : (s.select ranges).Ordered :=
      h.keep (offer_select s ranges) rfl rfl (by rw [view_select]; exact id)
    have hshown : (s.select ranges).view.shown.isSome := by
      rw [view_select, shown_of_buffer hb]
      rfl
    exact hselect.make hshown hlive (view_followSelection _)
      (keeps_followSelection (f := standing) (fun _ _ _ => rfl) _)

private theorem ordered_execCommand {s : Session} (h : s.Ordered) (name : String) :
    (s.execCommand name).2.Ordered := by
  have hview := view_execCommand s name
  rcases hran : s.ran? name with _ | ⟨e | u, b⟩
  · rw [hran] at hview
    exact h.keep (offer_execCommand s name) (congrArg View.story hview) (congrArg View.revision hview)
      (by rw [hview]; exact id)
  · rw [hran] at hview
    exact h.keep (offer_execCommand s name) (congrArg View.story hview) (congrArg View.revision hview)
      (by rw [hview]; exact fun _ => rfl)
  · rw [hran] at hview
    exact h.keep (offer_execCommand s name) (congrArg View.story hview) (congrArg View.revision hview)
      (by rw [hview]; exact fun _ => rfl)

private theorem ordered_afterPick {s : Session} (h : s.Ordered) (b : Buffer) : (s.afterPick b).Ordered :=
  h.close rfl (.inr rfl) (congrArg View.story (view_afterPick s b))
    (congrArg View.revision (view_afterPick s b))

/-- Whatever is asked for, the order is kept. -/
theorem ordered_serve {s : Session} (h : s.Ordered) (request : Request) : (s.serve request).Ordered := by
  -- an operation that leaves both the list and the view alone
  have hkeep : ∀ t : Session, t.offer = s.offer → t.view = s.view → t.Ordered := fun t hoffer hview =>
    h.keep hoffer (congrArg View.story hview) (congrArg View.revision hview) (by rw [hview]; exact id)
  have hclose : ∀ t : Session, t.completion = none → t.tracker = none ∨
      t.tracker = s.tracker → t.view = s.view →
      t.Ordered := fun t hclosed htracker hview =>
    h.close hclosed htracker (congrArg View.story hview) (congrArg View.revision hview)
  cases request with
  | attach b =>
    have hview := view_attach s b
    refine h.keep (offer_attach s b) ?_ ?_ ?_
    · exact (congrArg View.story hview).trans (by split <;> rfl)
    · exact (congrArg View.revision hview).trans (by split <;> rfl)
    · intro hs
      show (s.attach b).2.view.shown.isSome
      rw [hview]
      split
      · exact hs
      · rfl
  | detach =>
    show s.detach.2.Ordered
    unfold detach
    split
    · exact h
    · exact h.close rfl (.inr rfl) rfl rfl
  | exec name => exact ordered_execCommand h name
  | pick index =>
    exact invariant_pickCompletion Ordered h (ordered_afterPick h)
      (fun _ name ht => ordered_execCommand ht name) index
  | trigger =>
    exact h.makeList (unchanged_or_ready s _) (view_triggerCompletion s)
      (keeps_triggerCompletion (f := standing) (fun _ _ _ => rfl) s)
  | refresh => exact ordered_refreshCompletion h
  | select ranges => exact ordered_changeSelection h ranges
  | close =>
    refine hclose _ (completion_closeCompletion s) (.inr ?_) (view_closeCompletion s)
    exact congrArg Prod.snd (keeps_closeCompletion (f := standing) (fun _ _ _ => rfl) s)
  | crash message =>
    obtain ⟨tracker, hoffer, htracker⟩ := offer_reportCrash s message
    simp only [offer, Prod.mk.injEq] at hoffer
    exact hclose _ hoffer.1 (hoffer.2.2 ▸ htracker) (view_reportCrash s message)
  | key key => exact hkeep _ (offer_handleKey s key) (view_handleKey s key)
  | event event => exact hkeep _ (offer_dispatchEvent s event) (view_dispatchEvent s event)
  | runTasks => exact hkeep _ (offer_runTasks s) (view_runTasks s)
  | refreshFormat formats => exact ordered_refreshFormat h formats
  | drainEvents => exact hkeep _ rfl rfl

theorem ordered_editBuffer {s : Session} (h : s.Ordered) (change : Buffer → Buffer) :
    (s.editBuffer change).Ordered := by
  refine h.keep rfl rfl rfl fun hshown => ?_
  show ((s.buffer.map change).map (·.text)).isSome
  rw [Option.isSome_map, Option.isSome_map]
  simpa [view] using hshown

end Session

end PassageEditor
