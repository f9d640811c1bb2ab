import PassageEditor.Proofs.Format.Equations

/-!
# A record of the calls of format code

Operations that call the hooks of a format, run with a record of the hooks that they call (`Called`): a
hook is recorded where the format is called, and nowhere else.  What an operation gives with the record is
what it gives without.
-/

namespace PassageEditor

/-- A value, and the hooks of the format that were called for it, in order. -/
structure Called (α : Type) where
  value : α
  hooks : List HookKind

namespace Called

variable {α β : Type}

instance : Monad Called where
  pure a := ⟨a, []⟩
  bind x f := ⟨(f x.value).value, x.hooks ++ (f x.value).hooks⟩

instance : CallsFormat Called where
  call format hook x := ⟨format.call hook x, [hook]⟩

@[simp]
theorem value_pure (a : α) : (pure a : Called α).value = a := rfl

@[simp]
theorem hooks_pure (a : α) : (pure a : Called α).hooks = [] := rfl

@[simp]
theorem value_bind (x : Called α) (f : α → Called β) : (x >>= f).value = (f x.value).value := rfl

@[simp]
theorem hooks_bind (x : Called α) (f : α → Called β) : (x >>= f).hooks = x.hooks ++ (f x.value).hooks :=
  rfl

@[simp]
theorem value_map (f : α → β) (x : Called α) : (f <$> x).value = f x.value := rfl

@[simp]
theorem hooks_map (f : α → β) (x : Called α) : (f <$> x).hooks = x.hooks := List.append_nil _

@[simp]
theorem value_foldlM (f : β → α → Called β) (l : List α) (b : β) :
    (l.foldlM f b).value = l.foldl (fun b a => (f b a).value) b := by
  induction l generalizing b with
  | nil => rfl
  | cons a l ih => rw [List.foldlM_cons, value_bind, ih, List.foldl_cons]

/-! ### The format -/

@[simp]
theorem value_callM (format : FormatRef) (hook : HookKind) (x : Outcome α) :
    (format.callM hook x : Called _).value = format.call hook x := rfl

@[simp]
theorem value_callOrM (format : FormatRef) (hook : HookKind) (fallback : α) (x : Outcome α) :
    (format.callOrM hook fallback x : Called α).value = format.callOr hook fallback x := by
  rw [FormatRef.callOrM, value_bind, value_callM, FormatRef.callOr_def]
  cases format.call hook x <;> rfl

@[simp]
theorem value_parseReferencesM (x : Extensions) (format : FormatRef) (text : String) :
    (x.parseReferencesM format text : Called _).value = x.parseReferences format text := by
  rw [Extensions.parseReferencesM, Extensions.parseReferences_def]
  cases x.references with
  | none => rfl
  | some parse => exact value_callOrM _ _ _ _

@[simp]
theorem value_extensions_registerModeM (x : Extensions) (format : FormatRef) (b : Buffer) :
    (x.registerModeM format b : Called _).value = x.registerMode format b := by
  rw [Extensions.registerModeM, Extensions.registerMode_def]
  cases x.mode with
  | none => rfl
  | some outcome =>
    dsimp only
    rw [value_bind, value_callM]
    cases format.call .mode outcome <;> rfl

/-! ### Variables -/

@[simp]
theorem value_scanM (state : Tracker × SyncReport) (r : Revision) :
    (Tracker.scanM state r : Called _).value = Tracker.scan state r := by
  obtain ⟨t, report⟩ := state
  rw [Tracker.scan_def]
  by_cases hseen : t.hasSeen r <;> simp [Tracker.scanM, Tracker.scanWith, Tracker.parseM, hseen]

@[simp]
theorem value_syncM (t : Tracker) (s : Story) : (t.syncM s : Called _).value = t.sync s := by
  have hscan : (fun state r => (Tracker.scanWith Tracker.parseM state r : Called _).value) =
      Tracker.scan := by
    funext state r
    exact value_scanM state r
  rw [Tracker.sync_def, Tracker.syncM, Tracker.syncWith, value_bind, value_foldlM, hscan]
  rfl

/-! ### Completion lists -/

open Completion

@[simp]
theorem value_orderedNamesM (t : Tracker) (names : List String) (query : String) :
    (orderedNamesM t names query : Called _).value = orderedNames t names query := by
  rw [orderedNamesM, orderedNames_def]
  cases t.hooks.suggest with
  | none => rfl
  | some suggest => exact value_callOrM _ _ _ _

@[simp]
theorem value_namesM? (b : Buffer) (t : Tracker) (passage : PassageId) (pattern : Pattern.Regex) :
    (namesM? b t passage pattern : Called _).value = names? b t passage pattern := by
  rw [namesM?, names?_def]
  cases (cursorLine? b).bind fun p => query? p.1 with
  | none => rfl
  | some typed =>
    dsimp only
    by_cases hquery : (String.ofList typed ≠ "" &&
        !(t.hooks.pattern.getD pattern).isMatch (String.ofList typed)) = true
    · rw [if_pos hquery, if_pos hquery]
      rfl
    · rw [if_neg hquery, if_neg hquery]
      cases t.index.visibleNames passage <;> simp

@[simp]
theorem value_completeM (kind : CompletionKind) (b : Buffer) (s : Sources) :
    (completeM kind b s : Called _).value = complete kind b s := by
  rw [complete_def]
  cases kind with
  | link => rfl
  | command => rfl
  | variableName =>
    unfold completeM
    cases s.tracker with
    | none => rfl
    | some tracker => exact value_namesM? _ _ _ _

end Called

end PassageEditor
