import Mathlib.Data.List.Infix
import PassageEditor.Proofs.Variable.Follows

/-!
# The parses of a tracker

The parser is code of the format, which may keep a state of its own: what it says of a text may depend on
the calls before.  Here a tracker is synced with any parser and with a record of its calls, each with the
revision whose text it was given and what it said.  A call is recorded where the parser is called, by
`Parsing.ask`, and nowhere else.  With a parser that says the same of a text each time, the syncs are
those of the tracker (`fst_run_sync`, `fst_run_syncs`).
-/

namespace PassageEditor

open VariableIndex

/-- A call of the parser for a revision, and what it said. -/
structure Parse where
  revision : Revision
  outcome : Outcome (List Token)

namespace Parse

/-- What a scan takes in; a parser that fails finds nothing. -/
def tokens (x : Parse) : List Token :=
  match x.outcome with
  | .ok tokens => tokens
  | .failed _ => []
  | .panicked _ => []

def failed (x : Parse) : Bool :=
  match x.outcome with
  | .ok _ => false
  | .failed _ => true
  | .panicked _ => true

def definitions (x : Parse) : List Definition :=
  definitionsIn x.revision.passage.id x.revision.passage.name x.tokens

theorem definitions_of_failed {x : Parse} (h : x.failed) : x.definitions = [] := by
  obtain ⟨r, outcome⟩ := x
  cases outcome with
  | ok tokens => simp [failed] at h
  | failed e => rfl
  | panicked p => rfl

end Parse

/-- What a parser says of a text, by the calls before. -/
abbrev Parser := List Parse → String → Outcome (List Token)

/-- What the parser said at each call of a record. -/
def Answered (parser : Parser) (parses : List Parse) : Prop :=
  ∀ before x, (before ++ [x]).IsPrefix parses → x.outcome = parser before x.revision.passage.text

theorem Answered.nil (parser : Parser) : Answered parser [] := by
  intro before x h
  simp at h

private theorem Answered.concat {parser : Parser} {parses : List Parse} (h : Answered parser parses)
    (r : Revision) : Answered parser (parses ++ [⟨r, parser parses r.passage.text⟩]) := by
  intro before x hx
  rcases List.prefix_concat_iff.1 hx with heq | hx
  · obtain ⟨rfl, hlast⟩ := List.append_inj' heq rfl
    obtain rfl := List.singleton_inj.1 hlast
    rfl
  · exact h before x hx

namespace Tracker

/-- A tracker takes a parse in. -/
def take (t : Tracker) (x : Parse) : Tracker :=
  { t with
    index := t.index.resetPassage x.revision.passage.id x.revision.passage.name x.tokens
    scanned := (x.revision.passage.id, x.revision) :: t.scanned.filter (·.1 ≠ x.revision.passage.id) }

private theorem hasSeen_take_of_ne {t : Tracker} {x : Parse} {r : Revision}
    (h : r.passage.id ≠ x.revision.passage.id) :
    (t.take x).hasSeen r = t.hasSeen r := by
  unfold hasSeen take
  rw [lookup_put, if_neg h]

end Tracker

/-- A report takes a parse in. -/
def SyncReport.count (report : SyncReport) (x : Parse) : SyncReport :=
  { report with rescanned := report.rescanned + 1, faults := report.faults + if x.failed then 1 else 0 }

theorem SyncReport.foldl_count (report : SyncReport) (parses : List Parse) :
    parses.foldl count report =
      { report with
        rescanned := report.rescanned + parses.length
        faults := report.faults + parses.countP (·.failed) } := by
  induction parses generalizing report with
  | nil => rfl
  | cons x parses ih =>
    rw [List.foldl_cons, ih, List.countP_cons, List.length_cons]
    simp only [count, SyncReport.mk.injEq, true_and]
    omega

namespace Parsing

/-! ### Calling the parser -/

/-- A call of the parser. -/
def ask (parser : Parser) (r : Revision) : StateM (List Parse) (Outcome (List Token)) := do
  let parses ← get
  let outcome := parser parses r.passage.text
  set (parses ++ [⟨r, outcome⟩])
  pure outcome

/-- What the tracker is told when the parser has been called. -/
def answer (parser : Parser) (t : Tracker) (r : Revision) :
    StateM (List Parse) (Except ExtensionFault (List Token)) := do
  let outcome ← ask parser r
  pure (t.format.call .parseDefinitions outcome)

def scan (parser : Parser) (state : Tracker × SyncReport) (r : Revision) :
    StateM (List Parse) (Tracker × SyncReport) :=
  Tracker.scanWith (answer parser) state r

def sync (parser : Parser) (t : Tracker) (s : Story) : StateM (List Parse) (SyncReport × Tracker) :=
  t.syncWith (answer parser) s

/-- One sync after the other. -/
def syncs (parser : Parser) (t : Tracker) (history : List Story) : StateM (List Parse) Tracker :=
  history.foldlM (fun t s => do return (← sync parser t s).2) t

section Run

variable {parser : Parser} {t : Tracker} {report : SyncReport} {parses : List Parse} {r : Revision}

/-! ### What the calls do -/

private theorem run_scan_of_seen (h : t.hasSeen r) :
    (scan parser (t, report) r).run parses = ((t, report), parses) := by
  simp only [scan, Tracker.scanWith, if_pos h]
  rfl

private theorem run_scan_of_new (h : ¬ t.hasSeen r) :
    let x : Parse := ⟨r, parser parses r.passage.text⟩
    (scan parser (t, report) r).run parses = ((t.take x, report.count x), parses ++ [x]) := by
  have hanswer : (answer parser t r).run parses =
      (t.format.call .parseDefinitions (parser parses r.passage.text),
      parses ++ [⟨r, parser parses r.passage.text⟩]) := rfl
  simp only [scan, Tracker.scanWith, if_neg h, StateT.run_bind, hanswer]
  cases parser parses r.passage.text with
  | ok tokens => rfl
  | failed e => rfl
  | panicked p => rfl

private theorem run_scans_cons (parser : Parser) (state : Tracker × SyncReport) (r : Revision)
    (rs : List Revision) (parses : List Parse) :
    ((r :: rs).foldlM (scan parser) state).run parses =
      let next := (scan parser state r).run parses
      (rs.foldlM (scan parser) next.1).run next.2 := by
  rw [List.foldlM_cons]
  rfl

/-- The passages of a story are parsed in their order, but for those whose revision was scanned last. -/
theorem run_scans {rs : List Revision} (hids : (rs.map (·.passage.id)).Nodup) (t : Tracker)
    (report : SyncReport) (hparses : Answered parser parses) :
    ∃ new : List Parse,
      (rs.foldlM (scan parser) (t, report)).run parses =
          ((new.foldl Tracker.take t, new.foldl SyncReport.count report), parses ++ new) ∧
        new.map (·.revision) = rs.filter (fun r => !t.hasSeen r) ∧ Answered parser (parses ++ new) := by
  induction rs generalizing t report parses with
  | nil =>
    refine ⟨[], ?_, rfl, ?_⟩
    · rw [List.append_nil]
      rfl
    · rwa [List.append_nil]
  | cons r rs ih =>
    rw [List.map_cons, List.nodup_cons] at hids
    rw [run_scans_cons]
    by_cases hseen : t.hasSeen r
    · obtain ⟨new, hrun, hnew, hanswered⟩ := ih hids.2 t report hparses
      refine ⟨new, ?_, ?_, hanswered⟩
      · rw [run_scan_of_seen hseen]
        exact hrun
      · rw [List.filter_cons_of_neg (by simpa using hseen), hnew]
    · let x : Parse := ⟨r, parser parses r.passage.text⟩
      obtain ⟨new, hrun, hnew, hanswered⟩ := ih hids.2 (t.take x) (report.count x) (hparses.concat r)
      refine ⟨x :: new, ?_, ?_, ?_⟩
      · rw [run_scan_of_new hseen, List.foldl_cons, List.foldl_cons, List.append_cons parses x new]
        exact hrun
      · -- the passages that follow are others, so this parse leaves alone whether they are seen
        have hrest : rs.filter (fun q => !(t.take x).hasSeen q) = rs.filter fun q => !t.hasSeen q := by
          apply List.filter_congr
          intro q hq
          rw [Tracker.hasSeen_take_of_ne fun hid => hids.1 (List.mem_map.2 ⟨q, hq, hid⟩)]
        rw [List.filter_cons_of_pos (by simpa using hseen), List.map_cons, hnew, hrest]
      · rwa [List.append_cons]

theorem run_sync (parser : Parser) (t : Tracker) (s : Story) (parses : List Parse) :
    (sync parser t s).run parses =
      let scanned := (s.passages.foldlM (scan parser) (t, ⟨0, 0, 0⟩)).run parses
      let gone := scanned.1.1.departed s
      (({ scanned.1.2 with removed := gone.length }, gone.foldl Tracker.forget scanned.1.1), scanned.2) :=
      rfl

theorem run_syncs_concat (parser : Parser) (t : Tracker) (history : List Story) (s : Story)
    (parses : List Parse) :
    (syncs parser t (history ++ [s])).run parses =
      let old := (syncs parser t history).run parses
      let now := (sync parser old.1 s).run old.2
      (now.1.2, now.2) := by
  unfold syncs
  rw [List.foldlM_append]
  rfl

/-! ### A parser that says the same of a text each time -/

variable {parse : String → Outcome (List Token)}

private theorem fst_run_scan (h : t.hooks.parse = parse) (report : SyncReport) (r : Revision)
    (parses : List Parse) :
    ((scan (fun _ => parse) (t, report) r).run parses).1 = Tracker.scan (t, report) r := by
  subst h
  by_cases hseen : t.hasSeen r
  · rw [run_scan_of_seen hseen]
    simp [Tracker.scan_def, hseen]
  · rw [run_scan_of_new hseen]
    simp only [Tracker.scan_def, if_neg hseen, Tracker.take, SyncReport.count, Parse.tokens, Parse.failed]
    cases t.hooks.parse r.passage.text with
    | ok tokens => rfl
    | failed e => rfl
    | panicked p => rfl

private theorem fst_run_scans (h : t.hooks.parse = parse) (report : SyncReport) (rs : List Revision)
    (parses : List Parse) :
    ((rs.foldlM (scan fun _ => parse) (t, report)).run parses).1 = rs.foldl Tracker.scan (t, report) := by
  induction rs generalizing t report parses with
  | nil => rfl
  | cons r rs ih =>
    have hhooks : (Tracker.scan (t, report) r).1.hooks.parse = parse := by
      have hcode : (Tracker.scan (t, report) r).1.hooks = t.hooks :=
        congrArg Prod.fst (Tracker.code_scan (t, report) r)
      rw [hcode, h]
    rw [run_scans_cons, List.foldl_cons]
    dsimp only
    rw [fst_run_scan h]
    exact ih hhooks _ _

theorem fst_run_sync (h : t.hooks.parse = parse) (s : Story) (parses : List Parse) :
    ((sync (fun _ => parse) t s).run parses).1 = t.sync s := by
  rw [run_sync, Tracker.sync_def]
  dsimp only
  rw [fst_run_scans h]

theorem fst_run_syncs (hooks : VariableHooks) (format : FormatRef) (history : List Story)
    (parses : List Parse) :
    ((syncs (fun _ => hooks.parse) (.empty hooks format) history).run parses).1 =
      Tracker.after hooks format history := by
  induction history using List.reverseRecOn with
  | nil => rfl
  | append_singleton history s ih =>
    have hhooks : (Tracker.after hooks format history).hooks.parse = hooks.parse :=
      congrArg (·.1.parse) (Tracker.code_after hooks format history)
    rw [run_syncs_concat]
    dsimp only
    rw [ih, fst_run_sync hhooks, Tracker.after_concat]

end Run

end Parsing
end PassageEditor
