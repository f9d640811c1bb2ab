import PassageEditor.Markup.Reconciler

/-!
# Marks leave the rest of the buffer alone

Drawing marks, taking them away and matching them with the text anew changes the marks of a buffer and
nothing else of it: without its marks it is the same buffer (`unmarked_reconcile`, `unmarked_teardown`).
So the lines stay, and so do the hints.
-/

namespace PassageEditor

namespace Buffer

/-- A buffer as if nothing had ever been marked in it. -/
def unmarked (b : Buffer) : Buffer := { b with marks := [], nextMark := 0 }

private theorem lines_eq_of_unmarked_eq {b c : Buffer} (h : b.unmarked = c.unmarked) :
    b.lines = c.lines :=
  (congrArg lines h :)

theorem selections_eq_of_unmarked_eq {b c : Buffer} (h : b.unmarked = c.unmarked) :
    b.selections = c.selections :=
  (congrArg selections h :)

theorem hints_eq_of_unmarked_eq {b c : Buffer} (h : b.unmarked = c.unmarked) : b.hints = c.hints :=
  (congrArg hints h :)

end Buffer

namespace Markup

@[simp]
theorem Handle.unmarked_clear (h : Handle) (c : Canvas) :
    (h.clear c).buffer.unmarked = c.buffer.unmarked := rfl

@[simp]
theorem Handle.unmarked_clearAll (handles : List Handle) (c : Canvas) :
    (Handle.clearAll handles c).buffer.unmarked = c.buffer.unmarked := by
  unfold Handle.clearAll
  induction handles generalizing c with
  | nil => rfl
  | cons h handles ih => rw [List.foldl_cons, ih, unmarked_clear]

namespace Reconciler

@[simp]
theorem unmarked_drawPlaceholder (c : Canvas) (p : Placeholder) :
    (drawPlaceholder c p).2.buffer.unmarked = c.buffer.unmarked := rfl

@[simp]
theorem unmarked_drawPlaceholders (c : Canvas) (ps : List Placeholder) :
    (drawPlaceholders c ps).2.buffer.unmarked = c.buffer.unmarked := by
  induction ps generalizing c with
  | nil => rfl
  | cons p ps ih => exact (ih (drawPlaceholder c p).2).trans (unmarked_drawPlaceholder c p)

@[simp]
theorem unmarked_renderPlaceholders (r : Reconciler) (c : Canvas) (force : Bool) :
    (r.renderPlaceholders c force).2.2.buffer.unmarked = c.buffer.unmarked := by
  unfold renderPlaceholders
  dsimp only
  split
  · rfl
  · simp

private theorem unmarked_rekey (s : Rekeyed) (h : Handle) :
    (rekey s h).canvas.buffer.unmarked = s.canvas.buffer.unmarked := by
  unfold rekey
  split
  · split <;> rfl
  · rfl

private theorem unmarked_foldl_rekey (s : Rekeyed) (handles : List Handle) :
    (handles.foldl rekey s).canvas.buffer.unmarked = s.canvas.buffer.unmarked := by
  induction handles generalizing s with
  | nil => rfl
  | cons h handles ih => rw [List.foldl_cons, ih, unmarked_rekey]

@[simp]
theorem unmarked_drawLink (c : Canvas) (designated : Modifier) (link : Link) :
    (drawLink c designated link).2.buffer.unmarked = c.buffer.unmarked := rfl

private theorem unmarked_drawMissing (designated : Modifier) (wanted : List Link)
    (links : List (LinkKey × Handle)) (c : Canvas) :
    (drawMissing designated wanted links c).2.2.buffer.unmarked = c.buffer.unmarked := by
  induction wanted generalizing links c with
  | nil => rfl
  | cons link rest ih =>
    unfold drawMissing
    split
    · exact ih links c
    · exact (ih _ _).trans (unmarked_drawLink c designated link)

@[simp]
theorem unmarked_renderLinks (r : Reconciler) (c : Canvas) (story : Story) :
    (r.renderLinks c story).2.2.buffer.unmarked = c.buffer.unmarked := by
  unfold renderLinks
  dsimp only
  rw [unmarked_drawMissing, Handle.unmarked_clearAll, unmarked_foldl_rekey]

@[simp]
theorem unmarked_reconcile (r : Reconciler) (c : Canvas) (story : Story) (force : Bool) :
    (r.reconcile c story force).2.2.buffer.unmarked = c.buffer.unmarked := by
  unfold reconcile
  dsimp only
  rw [unmarked_renderLinks, unmarked_renderPlaceholders]

@[simp]
theorem unmarked_teardown (r : Reconciler) (c : Canvas) :
    (r.teardown c).2.2.buffer.unmarked = c.buffer.unmarked := by
  simp [teardown]

/-! ### The text -/

theorem lines_renderPlaceholders (r : Reconciler) (c : Canvas) (force : Bool) :
    (r.renderPlaceholders c force).2.2.buffer.lines = c.buffer.lines :=
  Buffer.lines_eq_of_unmarked_eq (unmarked_renderPlaceholders r c force)

theorem lines_renderLinks (r : Reconciler) (c : Canvas) (story : Story) :
    (r.renderLinks c story).2.2.buffer.lines = c.buffer.lines :=
  Buffer.lines_eq_of_unmarked_eq (unmarked_renderLinks r c story)

theorem lines_reconcile (r : Reconciler) (c : Canvas) (story : Story) (force : Bool) :
    (r.reconcile c story force).2.2.buffer.lines = c.buffer.lines :=
  Buffer.lines_eq_of_unmarked_eq (unmarked_reconcile r c story force)

theorem lines_teardown (r : Reconciler) (c : Canvas) : (r.teardown c).2.2.buffer.lines = c.buffer.lines :=
  Buffer.lines_eq_of_unmarked_eq (unmarked_teardown r c)

end Reconciler

end Markup

end PassageEditor
