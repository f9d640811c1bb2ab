import PassageEditor.Proofs.Markup.Ownership
import PassageEditor.Proofs.Session.Listing

/-!
# Operations that leave marks and listeners alone

Of a session, its marks and listeners hang on the reconciler, the hub, the marks of the attached buffer,
the health, and the format, whose commands may put marks on the buffer as well (`Session.Rig`).  Lists,
selections, events, keys, the toolbar and the clock leave all of that alone; for events this is because no
listener of the session removes or adds another one (`Session.Own`).
-/

namespace PassageEditor

namespace Session

structure Rig where
  marks : Markup.Reconciler
  health : Health
  extensions : Option LoadedExtensions
  listeners : List Listener
  nextListener : Nat
  /-- The marks on the attached buffer, and their next number. -/
  board : Option (List Mark × Nat)

def rig (s : Session) : Rig :=
  ⟨s.marks, s.health, s.extensions, s.hub.listeners, s.hub.nextListener,
    s.buffer.map fun b => (b.marks, b.nextMark)⟩

/-- No listener is one of the host. -/
def Own (s : Session) : Prop := ∀ l ∈ s.hub.listeners, ∀ x, l.reaction ≠ .host x

private theorem Own.of_rig {s t : Session} (h : s.Own) (hrig : t.rig = s.rig) : t.Own := by
  have hlisteners : t.hub.listeners = s.hub.listeners := congrArg Rig.listeners hrig
  unfold Own
  rw [hlisteners]
  exact h

variable {s t : Session}

theorem buffer_eq_none_of_rig (hrig : t.rig = s.rig) (hnone : t.buffer = none) : s.buffer = none := by
  have hboard := congrArg Rig.board hrig
  simp only [rig, hnone, Option.map_none] at hboard
  exact Option.map_eq_none_iff.1 hboard.symm

/-! ### Lists -/

private theorem rig_withList (s : Session) (completion : Option CompletionList) (hints : Option Hints) :
    (s.withList completion hints).rig = s.rig := by
  cases h : s.buffer <;> simp [withList, rig, h]

theorem rig_closeCompletion (s : Session) : s.closeCompletion.rig = s.rig :=
  keeps_closeCompletion rig_withList s

theorem rig_triggerCompletion (s : Session) : s.triggerCompletion.2.rig = s.rig :=
  keeps_triggerCompletion rig_withList s

theorem rig_refreshCompletion (s : Session) : s.refreshCompletion.2.rig = s.rig :=
  keeps_refreshCompletion rig_withList s

theorem rig_followEdit (s : Session) : s.followEdit.2.rig = s.rig := keeps_followEdit rig_withList s

theorem rig_followSelection (s : Session) : s.followSelection.2.rig = s.rig :=
  keeps_followSelection rig_withList s

/-! ### What the format contributes -/

theorem rig_registerMode (s : Session) : s.registerMode.rig = s.rig := by
  rw [registerMode_def]
  split
  · rename_i x b hx hb
    obtain ⟨modes, hsame⟩ := x.exists_registerMode s.format b
    simp [rig, hb, hsame]
  · rfl

theorem rig_refreshToolbar (s : Session) : s.refreshToolbar.rig = s.rig :=
  keeps_refreshToolbar rig (fun _ _ => rfl) s

/-! ### Selections, events and keys -/

theorem rig_select (h : s.Own) (ranges : List Selection) : (s.select ranges).rig = s.rig := by
  obtain ⟨hlisteners, hnext⟩ := Markup.listeners_dispatch h (.beforeSelection ranges)
  have hboard : ((s.buffer.map (·.setSelections ranges)).map fun b => (b.marks, b.nextMark)) =
      s.buffer.map fun b => (b.marks, b.nextMark) := by
    rw [Option.map_map]
    refine Option.map_congr fun b _ => ?_
    show ((b.setSelections ranges).marks, (b.setSelections ranges).nextMark) = _
    obtain ⟨selections, _, h⟩ := b.exists_setSelections ranges
    rw [h]
  simp only [rig, select, hlisteners, hnext, hboard]

private theorem rig_applyEffect (h : s.Own) (e : Effect) : (s.applyEffect e).rig = s.rig := by
  cases e with
  | setSelection range => exact rig_select h _
  | openPassage id => rfl
  | preventDefault => rfl

theorem rig_dispatchEvent (h : s.Own) (event : Event) : (s.dispatchEvent event).2.rig = s.rig := by
  obtain ⟨hlisteners, hnext⟩ := Markup.listeners_dispatch h event
  have hfold : ∀ (effects : List Effect) (t : Session), t.rig = s.rig →
      (effects.foldl applyEffect t).rig = s.rig := by
    intro effects
    induction effects with
    | nil => exact fun _ => id
    | cons e effects ih => exact fun t ht => ih _ ((rig_applyEffect (h.of_rig ht) e).trans ht)
  have hheard : ({ s with hub := (s.hub.dispatch event).2 } : Session).rig = s.rig := by
    simp only [rig, hlisteners, hnext]
  exact hfold _ _ hheard

theorem rig_changeSelection (h : s.Own) (ranges : List Selection) :
    (s.changeSelection ranges).2.rig = s.rig := by
  rw [changeSelection_eq]
  split
  · rfl
  · exact (rig_followSelection _).trans (rig_select h ranges)

theorem rig_handleKey (h : s.Own) (key : String) : (s.handleKey key).2.rig = s.rig :=
  keeps_handleKey rig (rig_dispatchEvent h) key

end Session

theorem Desk.rig_tick (d : Desk) (now : Nat) : (d.tick now).2.session.rig = d.session.rig := by
  rw [session_tick]
  rfl

end PassageEditor
