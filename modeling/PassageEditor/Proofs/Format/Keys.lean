import Mathlib.Data.List.DropRight
import Mathlib.Data.List.TakeWhile
import PassageEditor.Format.Registry
import PassageEditor.Proofs.Text.Lines

/-!
# The keys of registered formats

A format is registered under its name and version with the blanks around them taken off.  Nothing is left
to take off then (`trim_trim`), so what is accepted as a key is told by its characters alone
(`validate_eq_ok_iff`).
-/

namespace PassageEditor

namespace Text

private theorem trimLeft_trimLeft (cs : List Char) : trimLeft (trimLeft cs) = trimLeft cs :=
  List.dropWhile_idempotent _ cs

/-- A beginning of a text that does not begin with white space does not either. -/
private theorem trimLeft_of_isPrefix {cs ds : List Char} (h : ds <+: cs) (hcs : trimLeft cs = cs) :
    trimLeft ds = ds := by
  cases ds with
  | nil => rfl
  | cons d ds =>
    obtain ⟨rest, rfl⟩ := h
    have hd := (List.dropWhile_eq_self_iff.1 hcs) (by simp)
    exact List.dropWhile_eq_self_iff.2 fun _ => hd

theorem trim_trim (s : String) : trim (trim s) = trim s := by
  unfold trim
  rw [String.toList_ofList]
  have hcut : (trimLeft (trimLeft s.toList).reverse).reverse <+: trimLeft s.toList :=
    List.rdropWhile_prefix _ _
  have hstart := trimLeft_of_isPrefix hcut (trimLeft_trimLeft _)
  rw [hstart, List.reverse_reverse, trimLeft_trimLeft]

end Text

/-- Three runs of digits with points between them. -/
def IsTriplet (s : String) : Prop :=
  ∃ a b c : List Char, s.toList = a ++ '.' :: b ++ '.' :: c ∧ ∀ run ∈ [a, b, c],
    run ≠ [] ∧ ∀ d ∈ run, d.isDigit

private theorem isVersion_iff {s : String} : isVersion s ↔ IsTriplet s := by
  have hall (a b c : List Char) : ([a, b, c].all fun part => !part.isEmpty && part.all Char.isDigit) ↔
      ∀ run ∈ [a, b, c], run ≠ [] ∧ ∀ d ∈ run, d.isDigit := by
    simp
  constructor
  · intro h
    unfold isVersion at h
    split at h
    next a b c hs =>
      refine ⟨a, b, c, ?_, (hall a b c).1 h⟩
      rw [← Text.joinWith_splitAt '.' s.toList, hs]
      simp [Text.joinWith]
    next => cases h
  · rintro ⟨a, b, c, hs, hruns⟩
    -- no run holds a point, so the text is cut at the two points between them
    have hpoint : ∀ run ∈ [a, b, c], '.' ∉ run := by
      intro run hrun hmem
      exact absurd ((hruns run hrun).2 '.' hmem) (by decide)
    have hsplit : Text.splitAt '.' s.toList = [a, b, c] := by
      rw [← Text.splitAt_joinWith (List.cons_ne_nil _ _) hpoint, hs]
      simp [Text.joinWith]
    unfold isVersion
    rw [hsplit]
    exact (hall a b c).2 hruns

namespace FormatRef

/-- Without the blanks around its name and version. -/
def trimmed (f : FormatRef) : FormatRef := ⟨Text.trim f.name, Text.trim f.version⟩

theorem trimmed_trimmed (f : FormatRef) : f.trimmed.trimmed = f.trimmed := by
  simp only [trimmed, Text.trim_trim]

/-- What a format may be registered under. -/
structure Proper (key : FormatRef) : Prop where
  trimmed : key.trimmed = key
  name : key.name ≠ ""
  version : IsTriplet key.version

theorem validate_eq_ok_iff {key : FormatRef} (h : key.trimmed = key) :
    key.validate = .ok () ↔ key.Proper := by
  have hname : Text.trim key.name = key.name := congrArg FormatRef.name h
  have hversion : Text.trim key.version = key.version := congrArg FormatRef.version h
  unfold validate
  rw [hname, hversion]
  by_cases hblank : key.name = ""
  · rw [if_pos hblank]
    refine ⟨fun hv => (nomatch hv), fun hp => absurd hblank hp.name⟩
  · rw [if_neg hblank]
    by_cases hdigits : isVersion key.version
    · rw [if_pos hdigits]
      exact ⟨fun _ => ⟨h, hblank, isVersion_iff.1 hdigits⟩, fun _ => rfl⟩
    · rw [if_neg hdigits]
      exact ⟨fun hv => (nomatch hv), fun hp => absurd (isVersion_iff.2 hp.version) hdigits⟩

end FormatRef

end PassageEditor
