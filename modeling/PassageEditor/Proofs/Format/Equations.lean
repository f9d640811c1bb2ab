import PassageEditor.Completion.Complete

/-!
# Operations that call the format as functions

In `Id` a call of the format is its answer, so that each operation is the function that its equation
gives.
-/

namespace PassageEditor

theorem FormatRef.callOr_def {α : Type} (format : FormatRef) (hook : HookKind) (fallback : α)
    (x : Outcome α) :
    format.callOr hook fallback x =
      match format.call hook x with
      | .ok a => a
      | .error _ => fallback := rfl

theorem Extensions.parseReferences_def (x : Extensions) (format : FormatRef) (text : String) :
    x.parseReferences format text =
      match x.references with
      | none => []
      | some parse => format.callOr .references [] (parse text) := rfl

theorem Extensions.registerMode_def (x : Extensions) (format : FormatRef) (b : Buffer) :
    x.registerMode format b =
      match x.mode with
      | none => (none, b)
      | some outcome =>
        match format.call .mode outcome with
        | .ok _ => (some format.modeName, b.defineMode format.modeName)
        | .error _ => (none, b) := rfl

namespace Tracker

theorem scan_def (t : Tracker) (report : SyncReport) (r : Revision) :
    scan (t, report) r =
      if t.hasSeen r then (t, report)
      else t.rescan report r (t.format.call .parseDefinitions (t.hooks.parse r.passage.text)) := rfl

theorem sync_def (t : Tracker) (s : Story) :
    t.sync s =
      let (t, report) := s.passages.foldl scan (t, ⟨0, 0, 0⟩)
      let gone := t.departed s
      ({ report with removed := gone.length }, gone.foldl forget t) := by
  have hscans : Id.run (s.passages.foldlM (scanWith parseM) (t, ⟨0, 0, 0⟩)) =
      s.passages.foldl scan (t, ⟨0, 0, 0⟩) :=
    List.idRun_foldlM
  rw [← hscans]
  rfl

end Tracker

namespace Completion

theorem orderedNames_def (t : Tracker) (names : List String) (query : String) :
    orderedNames t names query =
      match t.hooks.suggest with
      | none => Ranking.rank names query
      | some suggest =>
        t.format.callOr .suggestVariableName (Ranking.rank names query) (suggest names query) := rfl

theorem names?_def (b : Buffer) (t : Tracker) (passage : PassageId) (pattern : Pattern.Regex) :
    names? b t passage pattern =
      match (cursorLine? b).bind fun p => query? p.1 with
      | none => .ok none
      | some typed =>
        let query := String.ofList typed
        if query ≠ "" && !(t.hooks.pattern.getD pattern).isMatch query then .ok none
        else
          match t.index.visibleNames passage with
          | .error e => .error (.lookup e)
          | .ok names =>
            let ordered := orderedNames t (names.filter fun name => !t.hooks.reserved.contains name) query
            .ok (some ⟨.variableName, ⟨⟨b.cursor.line, b.cursor.ch - (typed.length + 1)⟩, b.cursor⟩,
              ordered.map fun name => ⟨name, .insert⟩⟩) := rfl

theorem complete_def (kind : CompletionKind) (b : Buffer) (s : Sources) :
    complete kind b s =
      match kind with
      | .link => .ok (passages? b s.story)
      | .command => .ok (commands? b s.toolbar)
      | .variableName =>
        match s.tracker with
        | none => .ok none
        | some tracker => names? b tracker s.passage s.pattern := rfl

end Completion

end PassageEditor
