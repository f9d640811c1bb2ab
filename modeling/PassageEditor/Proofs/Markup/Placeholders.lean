import PassageEditor.Proofs.Markup.Drawn
import PassageEditor.Proofs.Markup.Links

/-!
# When placeholders are in step

A pass over the placeholders draws them anew if it is forced to or if the text is not the one that they
were drawn for; otherwise it does nothing.  Edits may lead back to that text and leave marks behind that
are gone or too long.  So a scene is traced together with whether an edit has disturbed a placeholder
since the last drawing (`Traced`), and reconciling brings the placeholders in step exactly if it draws
them or none has been disturbed (`inStep_reconcile_iff`).
-/

namespace PassageEditor.Markup

/-! ### Traced scenes -/

namespace Scene

/-- Whether a pass over the placeholders draws them anew. -/
def draws (s : Scene) (force : Bool) : Bool := force || s.marks.source ≠ some s.canvas.buffer.text

/-- The marks of placeholders stand at the placeholders of the text, one at each, and every handle has
one, which is where a click on its widget leads. -/
structure InStep (s : Scene) : Prop where
  ranges : (marksOf .placeholder s.canvas.buffer).map (·.range) =
    (scanPlaceholders s.canvas.buffer.lines).map (·.range)
  handles : ∀ h ∈ s.marks.placeholders, ∃ m ∈ marksOf .placeholder s.canvas.buffer, m.id = h.mark ∧
    h.clickRanges s.canvas.hub = [m.range]

private theorem placeholders_eq (s : Scene) (force : Bool) :
    s.step (.placeholders force) =
      if s.draws force = true then
        let out := Reconciler.drawPlaceholders (Handle.clearAll s.marks.placeholders s.canvas)
          (scanPlaceholders s.canvas.buffer.lines)
        ⟨out.2, { s.marks with placeholders := out.1, source := some s.canvas.buffer.text }⟩
      else s := by
  unfold step draws Reconciler.renderPlaceholders
  dsimp only
  cases force with
  | true => rfl
  | false =>
    by_cases hsame : s.marks.source = some s.canvas.buffer.text
    · simp [hsame]
    · simp [hsame]

end Scene

/-- A scene, and whether an edit has disturbed a placeholder since they were drawn. -/
structure Traced where
  scene : Scene
  disturbed : Bool

namespace Traced

def start (designated : Modifier) (text : String) : Traced := ⟨.start designated text, false⟩

def step (w : Traced) (t : Scene.Step) : Traced :=
  ⟨w.scene.step t,
    match t with
    | .edit e => w.disturbed || disturbs w.scene.canvas.buffer e
    | .placeholders force => if w.scene.draws force then false else w.disturbed
    | .links _ => w.disturbed⟩

/-- What is known of a traced scene: the handles with the placeholders that they were drawn for. -/
structure Known (w : Traced) (drawn : List (Handle × Placeholder)) : Prop where
  kept : Kept w.scene.canvas drawn
  handles : drawn.map (·.1) = w.scene.marks.placeholders
  scanned : ∀ text, w.scene.marks.source = some text →
    drawn.map (·.2) = scanPlaceholders (Text.lines text.toList)
  marked : Marked w.scene.canvas.buffer (w.scene.marks.links.map (·.2))
  links : ∀ g ∈ w.scene.marks.links.map (·.2), ∀ id ∈ g.listeners,
    id.value < w.scene.canvas.hub.nextListener
  apart : ∀ g ∈ w.scene.marks.links.map (·.2), ∀ d ∈ drawn, ∀ id ∈ d.1.listeners, id ∉ g.listeners
  calm : w.disturbed = false ↔ ∀ d ∈ drawn, Intact w.scene.canvas.buffer d

namespace Known

variable {w : Traced} {drawn : List (Handle × Placeholder)}

private theorem edit (h : Known w drawn) (e : Buffer.Edit) : Known (w.step (.edit e)) drawn := by
  refine ⟨h.kept.edit e, h.handles, h.scanned, h.marked.edit e, h.links, h.apart, ?_⟩
  show (w.disturbed || disturbs w.scene.canvas.buffer e) = false ↔ _
  rw [Bool.or_eq_false_iff, h.calm]
  exact (h.kept.intact_edit_iff e).symm

private theorem linksStep (h : Known w drawn) (story : Story) : Known (w.step (.links story)) drawn := by
  have hmoves := Reconciler.moves_renderLinks w.scene.marks w.scene.canvas story
  have hlater := Later.of_moves hmoves
  have hold : Handle.HoldAll .passageLink (w.scene.marks.links.map (·.2)) w.scene.canvas.buffer := by
    intro g hg m hm hid
    exact (h.marked.marks g hg m hm hid).1
  obtain ⟨hkept, hintact⟩ := h.kept.of_moves (by decide) hmoves hold h.apart
  refine ⟨hkept, h.handles, h.scanned, Scene.marked_step h.marked (.links story), ?_, ?_, ?_⟩
  · intro g hg id hid
    obtain ⟨p, hp, rfl⟩ := List.mem_map.1 hg
    rcases Reconciler.handle_renderLinks hp with hg | hfresh
    · exact Nat.lt_of_lt_of_le (h.links _ hg id hid) hlater.nextListener
    · exact (hfresh.listeners id hid).2
  · intro g hg d hd id hid hmem
    obtain ⟨p, hp, rfl⟩ := List.mem_map.1 hg
    rcases Reconciler.handle_renderLinks hp with hg | hfresh
    · exact h.apart _ hg d hd id hid hmem
    · have hge := (hfresh.listeners id hmem).1
      have hlt := h.kept.below d hd id hid
      omega
  · show w.disturbed = false ↔ _
    rw [h.calm]
    exact forall₂_congr fun d _ => (hintact d).symm

/-- When the old ones have been cleared there is no mark of a placeholder left. -/
private theorem marksOf_clearAll (h : Known w drawn) :
    marksOf .placeholder (Handle.clearAll w.scene.marks.placeholders w.scene.canvas).buffer = [] := by
  rw [List.eq_nil_iff_forall_not_mem]
  intro m hm
  obtain ⟨hm, hcls⟩ := mem_marksOf.1 hm
  obtain ⟨hm, hother⟩ := mem_marks_clearAll.1 hm
  obtain ⟨d, hd, hid, -⟩ := h.kept.owned m (mem_marksOf.2 ⟨hm, hcls⟩)
  refine hother d.1 ?_ hid
  rw [← h.handles]
  exact List.mem_map_of_mem hd

private theorem drawing (h : Known w drawn) {force : Bool} (hdraws : w.scene.draws force = true) :
    ∃ drawn', Known (w.step (.placeholders force)) drawn' := by
  have hclear : Moves .placeholder w.scene.marks.placeholders w.scene.canvas
      (Handle.clearAll w.scene.marks.placeholders w.scene.canvas) := moves_clearAll (fun _ hg => hg) _
  have hcleared := Later.of_moves hclear
  have hspec := Reconciler.kept_drawPlaceholders (hcleared.numbered h.kept.numbered)
    (hcleared.hub h.kept.hub)
    h.marksOf_clearAll
  have hdrawn := Later.of_moves (moves_drawPlaceholders [] (scanPlaceholders w.scene.canvas.buffer.lines)
    (Handle.clearAll w.scene.marks.placeholders w.scene.canvas))
  have hstep : w.step (.placeholders force) =
      let out := Reconciler.drawPlaceholders (Handle.clearAll w.scene.marks.placeholders w.scene.canvas)
        (scanPlaceholders w.scene.canvas.buffer.lines)
      ⟨⟨out.2, { w.scene.marks with placeholders := out.1, source := some w.scene.canvas.buffer.text }⟩,
        false⟩ := by
    show (⟨w.scene.step (.placeholders force),
      if w.scene.draws force = true then false else w.disturbed⟩ : Traced) = _
    rw [w.scene.placeholders_eq force, if_pos hdraws, if_pos hdraws]
  have hmarked : Marked (w.step (.placeholders force)).scene.canvas.buffer
      ((w.step (.placeholders force)).scene.marks.links.map (·.2)) :=
    Scene.marked_step h.marked (.placeholders force)
  rw [hcleared.lines] at hspec
  rw [hstep] at hmarked ⊢
  generalize Handle.clearAll w.scene.marks.placeholders w.scene.canvas = cleared at *
  generalize Reconciler.drawPlaceholders cleared (scanPlaceholders w.scene.canvas.buffer.lines) = out at *
  obtain ⟨hkept, hhandles, hscanned, hfresh, hintact⟩ := hspec
  refine ⟨_, hkept, hhandles, ?_, hmarked, ?_, ?_, iff_of_true rfl hintact⟩
  · intro text htext
    obtain rfl := Option.some.inj htext
    rw [hscanned, Buffer.lines_text]
  · intro g hg id hid
    exact Nat.lt_of_lt_of_le (h.links g hg id hid)
      (Nat.le_trans hcleared.nextListener hdrawn.nextListener)
  · intro g hg d hd id hid hmem
    have hge := ((hfresh d hd).listeners id hid).1
    have hlt := h.links g hg id hmem
    have hle := hcleared.nextListener
    omega

theorem step (h : Known w drawn) (t : Scene.Step) : ∃ drawn', Known (w.step t) drawn' := by
  cases t with
  | edit e => exact ⟨drawn, h.edit e⟩
  | placeholders force =>
    by_cases hdraws : w.scene.draws force = true
    · exact h.drawing hdraws
    · refine ⟨drawn, ?_⟩
      show Known ⟨w.scene.step (.placeholders force),
        if w.scene.draws force = true then false else w.disturbed⟩ drawn
      rw [w.scene.placeholders_eq force, if_neg hdraws, if_neg hdraws]
      exact h
  | links story => exact ⟨drawn, h.linksStep story⟩

/-- Placeholders in step have marks where they were drawn, so those are intact. -/
private theorem intact_of_inStep (h : Known w drawn)
    (hscan : drawn.map (·.2) = scanPlaceholders w.scene.canvas.buffer.lines) (hstep : w.scene.InStep) :
    ∀ d ∈ drawn, Intact w.scene.canvas.buffer d := by
  intro d hd
  have hhandle : d.1 ∈ w.scene.marks.placeholders := by
    rw [← h.handles]
    exact List.mem_map_of_mem hd
  obtain ⟨m, hm, hid, hclicks⟩ := hstep.handles d.1 hhandle
  have hrange : m.range = d.2.range := by
    rw [h.kept.clicks d hd] at hclicks
    exact (List.singleton_inj.1 hclicks).symm
  have hscanned : d.2 ∈ scanPlaceholders w.scene.canvas.buffer.lines := by
    rw [← hscan]
    exact List.mem_map_of_mem hd
  refine ⟨m, hm, hid, ?_⟩
  rw [hrange]
  exact covers_of_mem_scanPlaceholders hscanned

private theorem inStep_of_intact (h : Known w drawn)
    (hscan : drawn.map (·.2) = scanPlaceholders w.scene.canvas.buffer.lines)
    (hintact : ∀ d ∈ drawn, Intact w.scene.canvas.buffer d) : w.scene.InStep := by
  have haligned := h.kept.aligned hintact hscan
  refine ⟨?_, ?_⟩
  · have hranges := congrArg (List.map Prod.snd) haligned
    rw [List.map_map, List.map_map] at hranges
    rw [← hscan, List.map_map]
    exact hranges
  · intro g hg
    rw [← h.handles] at hg
    obtain ⟨d, hd, rfl⟩ := List.mem_map.1 hg
    have hmem : (d.1.mark, d.2.range) ∈
        (marksOf .placeholder w.scene.canvas.buffer).map fun m => (m.id, m.range) := by
      rw [haligned]
      exact List.mem_map_of_mem hd
    obtain ⟨m, hm, heq⟩ := List.mem_map.1 hmem
    obtain ⟨hid, hrange⟩ := Prod.mk.inj heq
    refine ⟨m, hm, hid, ?_⟩
    rw [h.kept.clicks d hd, hrange]

/-- Where the text is the one that the placeholders were drawn for, they are in step if none has been
disturbed. -/
private theorem inStep_iff (h : Known w drawn)
    (hsource : w.scene.marks.source = some w.scene.canvas.buffer.text) :
    w.scene.InStep ↔ w.disturbed = false := by
  have hscan : drawn.map (·.2) = scanPlaceholders w.scene.canvas.buffer.lines := by
    rw [h.scanned _ hsource, Buffer.lines_text]
  rw [h.calm]
  exact ⟨h.intact_of_inStep hscan, h.inStep_of_intact hscan⟩

end Known

private theorem known_start (designated : Modifier) (text : String) :
    Known (start designated text) [] where
  kept :=
    { numbered := Buffer.numbered_ofText text
      hub := fun _ hl => absurd hl List.not_mem_nil
      below := fun _ hd => absurd hd List.not_mem_nil
      clicks := fun _ hd => absurd hd List.not_mem_nil
      shaped := fun _ hd => absurd hd List.not_mem_nil
      increasing := List.Pairwise.nil
      ordered := List.Pairwise.nil
      owned := fun _ hm => absurd hm List.not_mem_nil }
  handles := rfl
  scanned := fun _ hsource => by simp [start, Scene.start, Reconciler.empty] at hsource
  marked := Scene.marked_run designated text []
  links := fun _ hg => absurd hg List.not_mem_nil
  apart := fun _ hg => absurd hg List.not_mem_nil
  calm := iff_of_true rfl fun _ hd => absurd hd List.not_mem_nil

/-- The handles and the placeholders that they were drawn for are known after any run. -/
private theorem known_run (designated : Modifier) (text : String) (steps : List Scene.Step) :
    ∃ drawn, Known (steps.foldl step (start designated text)) drawn := by
  induction steps using List.reverseRecOn with
  | nil => exact ⟨[], known_start designated text⟩
  | append_singleton steps t ih =>
    obtain ⟨drawn, h⟩ := ih
    rw [List.foldl_append]
    exact h.step t

/-- Reconciling after any edits and passes: the placeholders are in step afterwards exactly if the pass
has drawn them, which it does when it is forced to and when the text is another than at the last drawing,
or if no edit since the last drawing has taken a character of a placeholder's mark away or put a text
strictly inside one. -/
theorem inStep_reconcile_iff (designated : Modifier) (text : String) (steps : List Scene.Step)
    (story : Story) (force : Bool) :
    let w := steps.foldl step (start designated text)
    (w.scene.reconcile story force).InStep ↔ w.scene.draws force = true ∨ w.disturbed = false := by
  intro w
  obtain ⟨drawn, hknown⟩ := known_run designated text (steps ++ [.placeholders force, .links story])
  rw [List.foldl_append] at hknown
  change Known ((w.step (.placeholders force)).step (.links story)) drawn at hknown
  -- both passes leave the text alone, and the second one leaves the rest to the first
  have hsource : (w.scene.reconcile story force).marks.source =
      some (w.scene.reconcile story force).canvas.buffer.text := by
    have htext : (w.scene.reconcile story force).canvas.buffer.text = w.scene.canvas.buffer.text := by
      unfold Buffer.text Buffer.chars
      rw [show (w.scene.reconcile story force).canvas.buffer.lines = w.scene.canvas.buffer.lines from
        Reconciler.lines_reconcile w.scene.marks w.scene.canvas story force]
    rw [htext]
    show (w.scene.step (.placeholders force)).marks.source = _
    rw [w.scene.placeholders_eq force]
    split
    · rfl
    · rename_i hdraws
      simp only [Scene.draws, Bool.or_eq_true, decide_eq_true_eq, not_or, not_not] at hdraws
      exact hdraws.2
  rw [Scene.reconcile_eq] at hsource ⊢
  refine (hknown.inStep_iff hsource).trans ?_
  show (if w.scene.draws force = true then false else w.disturbed) = false ↔ _
  split
  · rename_i hdraws
    exact iff_of_true rfl (.inl hdraws)
  · rename_i hdraws
    simp [hdraws]

/-! ### A placeholder that was retyped -/

/-- The label of a placeholder is taken away and typed again after a pass. -/
def retyped : List Scene.Step :=
  [.placeholders false, .edit (.replace "" ⟨0, 4⟩ ⟨0, 5⟩), .edit (.replace "a" ⟨0, 4⟩ ⟨0, 4⟩)]

/-- The text is the one from before, and so the next pass draws nothing, but the mark is gone. -/
theorem retyped_placeholder_without_mark :
    let s := (retyped.foldl step (start .ctrl "$\x7b1:a\x7d")).scene.reconcile Scene.soleStory false
    s.canvas.buffer.text = "$\x7b1:a\x7d" ∧
      (scanPlaceholders s.canvas.buffer.lines).map (·.range) = [⟨⟨0, 0⟩, ⟨0, 6⟩⟩] ∧
      marksOf .placeholder s.canvas.buffer = [] ∧ ¬ s.InStep := by
  intro s
  have hvalues : s.canvas.buffer.text = "$\x7b1:a\x7d" ∧
      (scanPlaceholders s.canvas.buffer.lines).map (·.range) = [⟨⟨0, 0⟩, ⟨0, 6⟩⟩] ∧
      marksOf .placeholder s.canvas.buffer = [] := by decide +kernel
  obtain ⟨htext, hscan, hmarks⟩ := hvalues
  refine ⟨htext, hscan, hmarks, fun h => ?_⟩
  have hranges := h.ranges
  rw [hscan, hmarks] at hranges
  simp at hranges

end Traced

end PassageEditor.Markup
