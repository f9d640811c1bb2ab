import Mathlib.Data.List.Nodup
import PassageEditor.Proofs.Story.Stamps

/-!
# What a story holds

What a story holds is told by the writes: its roll lists the passages in their order, with how each of
them came to its place.  A passage that is added to a story takes the story's format, one that is appended
to a stored story keeps the format that it has (`told_run`).  So the passages of a story have its format
just where all that were appended and not deleted since came with it.  Updates leave the roll as it is,
and each revision has a stamp that no other one ever has (`Numbered`).
-/

namespace PassageEditor

/-- Adds passages to a story one after the other, each with the next stamp. -/
def Story.addAll (s : Story) (stamp : Nat) : List Passage → Story
  | [] => s
  | p :: ps => (s.addPassage stamp p).addAll (stamp + 1) ps

/-- What is done to a store. -/
inductive Write
  /-- A story is built passage by passage and inserted. -/
  | insert (story : StoryId) (name : String) (format : FormatRef) (passages : List Passage)
  | create (story : StoryId) (passage : Passage)
  | update (story : StoryId) (id : PassageId) (u : Passage.Update)
  | delete (story : StoryId) (id : PassageId)

namespace Write

/-- The story that is written to. -/
def story : Write → StoryId
  | insert story _ _ _ | create story _ | update story _ _ | delete story _ => story

/-- Whether an update finds its passage. -/
def finds (s : Store) : Write → Bool
  | update story id _ => (s.passage? story id).isSome
  | _ => false

/-- What becomes of the story that is written to. -/
def rewritten (stamp : Nat) : Write → Option Story → Option Story
  | insert story name format passages, _ =>
    some ((⟨story, name, format, []⟩ : Story).addAll stamp passages)
  | create _ p, st => st.map fun st => { st with passages := st.passages ++ [⟨stamp, p⟩] }
  | update _ id u, st => st.map fun st => (st.update? stamp id u).getD st
  | delete _ id, st => st.map fun st => { st with passages := st.passages.filter (·.passage.id ≠ id) }

/-- The revisions that are made. -/
def made (s : Store) : Write → List Revision
  | insert _ _ format passages => (passages.zipIdx s.nextStamp).map fun p => ⟨p.2, { p.1 with format }⟩
  | create story p => ((s.story? story).map fun _ => ⟨s.nextStamp, p⟩).toList
  | update story id u => ((s.passage? story id).map fun r => ⟨s.nextStamp, r.passage.updated u⟩).toList
  | delete _ _ => []

end Write

namespace Store

def write (s : Store) : Write → Store
  | .insert story name format passages =>
    { s with nextStamp := s.nextStamp + passages.length }.insertStory
      ((⟨story, name, format, []⟩ : Story).addAll s.nextStamp passages)
  | .create story p => (s.addPassage story p).2
  | .update story id u => s.updatePassage story id u
  | .delete story id => (s.removePassage story id).2

/-- The store after some writes. -/
def run (writes : List Write) : Store := writes.foldl write empty

/-- How many of some writes are updates that find their passage. -/
def hits (s : Store) : List Write → Nat
  | [] => 0
  | w :: ws => (if w.finds s then 1 else 0) + hits (s.write w) ws

/-- Some story of the store has the revision. -/
def Holds (s : Store) (r : Revision) : Prop := ∃ id st, s.story? id = some st ∧ r ∈ st.passages

end Store

/-! ### The roll -/

/-- How a passage came to its place: under the format of the story, or with the one that it had. -/
inductive Entry
  | added
  | appended (format : FormatRef)
  deriving DecidableEq

def Entry.format (own : FormatRef) : Entry → FormatRef
  | added => own
  | appended format => format

/-- The passages of a story in their order. -/
structure Roll where
  format : FormatRef
  entries : List (PassageId × Entry)

/-- The formats of a story and of its passages. -/
def Roll.told (roll : Roll) : FormatRef × List (PassageId × FormatRef) :=
  (roll.format, roll.entries.map fun e => (e.1, e.2.format roll.format))

def Story.told (st : Story) : FormatRef × List (PassageId × FormatRef) :=
  (st.format, st.passages.map fun r => (r.passage.id, r.passage.format))

/-- What a write does to the roll of its story. -/
def Write.entered : Write → Option Roll → Option Roll
  | insert _ _ format passages, _ => some ⟨format, passages.map fun p => (p.id, .added)⟩
  | create _ p, roll =>
    roll.map fun roll => { roll with entries := roll.entries ++ [(p.id, .appended p.format)] }
  | update _ _ _, roll => roll
  | delete _ id, roll => roll.map fun roll => { roll with entries := roll.entries.filter (·.1 ≠ id) }

/-- What a write does to the roll of a story. -/
def Roll.after (id : StoryId) (roll : Option Roll) (w : Write) : Option Roll :=
  if w.story = id then w.entered roll else roll

/-- The roll of a story after some writes; none if it was never inserted. -/
def roll (writes : List Write) (id : StoryId) : Option Roll := writes.foldl (Roll.after id) none

/-! ### One write -/

namespace Story

private theorem addAll_eq (s : Story) (stamp : Nat) (ps : List Passage) :
    s.addAll stamp ps = { s with
      passages := s.passages ++ (ps.zipIdx stamp).map fun p =>
        ⟨p.2, { p.1 with format := s.format }⟩ } := by
  induction ps generalizing s stamp with
  | nil => simp [addAll]
  | cons p ps ih => simp [addAll, ih, addPassage]

private theorem replaceFirst?_of_split {f : Revision → Revision} {id : PassageId}
    {front back : List Revision} {r : Revision} (hfront : ∀ q ∈ front, q.passage.id ≠ id)
    (hr : r.passage.id = id) :
    replaceFirst? f id (front ++ r :: back) = some (front ++ f r :: back) := by
  induction front with
  | nil => simp [replaceFirst?, hr]
  | cons q front ih =>
    rw [List.cons_append, replaceFirst?, if_neg (hfront q List.mem_cons_self),
      ih fun q hq => hfront q (List.mem_cons_of_mem _ hq)]
    rfl

/-- An update replaces the first passage with the identifier, if there is one. -/
private theorem update?_cases (s : Story) (stamp : Nat) (id : PassageId) (u : Passage.Update) :
    (s.find? id = none ∧ s.update? stamp id u = none) ∨
      ∃ front r back, s.passages = front ++ r :: back ∧
        (∀ q ∈ front, q.passage.id ≠ id) ∧ s.find? id = some r ∧
        s.update? stamp id u =
          some { s with passages := front ++ ⟨stamp, r.passage.updated u⟩ :: back } := by
  cases hfind : s.find? id with
  | none => exact .inl ⟨rfl, update?_eq_none_iff.2 hfind⟩
  | some r =>
    obtain ⟨hr, front, back, hpassages, hfront⟩ := List.find?_eq_some_iff_append.1 hfind
    have hfront : ∀ q ∈ front, q.passage.id ≠ id := fun q hq => by simpa using hfront q hq
    refine .inr ⟨front, r, back, hpassages, hfront, rfl, ?_⟩
    rw [update?, hpassages, replaceFirst?_of_split hfront (by simpa using hr)]
    rfl

end Story

namespace Store

variable {s t : Store} {w : Write} {r r' : Revision} {id : StoryId}

private theorem id_of_story? {st : Story} (h : s.story? id = some st) : st.id = id := by
  simpa using List.find?_some h

/-- An operation that rewrites a story of the store if there is one with the identifier. -/
private theorem story?_of_rewrite (story : StoryId) {f : Story → Story}
    (hnone : s.story? story = none → t = s)
    (hsome : ∀ st, s.story? story = some st → t.story? id = if (f st).id = id then some (f st)
      else s.story? id)
    (hf : ∀ st, (f st).id = st.id) :
    t.story? id = if story = id then (s.story? id).map f else s.story? id := by
  cases hst : s.story? story with
  | none =>
    rw [hnone hst]
    by_cases hid : story = id
    · rw [if_pos hid, ← hid, hst]
      rfl
    · rw [if_neg hid]
  | some st =>
    rw [hsome st hst, hf, id_of_story? hst]
    by_cases hid : story = id
    · rw [if_pos hid, if_pos hid, ← hid, hst]
      rfl
    · rw [if_neg hid, if_neg hid]

/-- A write changes the story that it is for and no other. -/
private theorem story?_write (s : Store) (w : Write) (id : StoryId) :
    (s.write w).story? id = if w.story = id then w.rewritten s.nextStamp (s.story? id)
      else s.story? id := by
  cases w with
  | insert story name format passages =>
    have hid : (Story.addAll ⟨story, name, format, []⟩ s.nextStamp passages).id = story := by
      rw [Story.addAll_eq]
    show (insertStory _ _).story? id = _
    rw [story?_insertStory, hid]
    rfl
  | create story p =>
    refine story?_of_rewrite story (fun hst => ?_) (fun st hst => ?_) fun _ => rfl
    · simp only [write, addPassage, hst]
    · simp only [write, addPassage, hst]
      exact story?_insertStory _ _ id
  | update story pid u =>
    refine story?_of_rewrite story (fun hst => ?_) (fun st hst => ?_) fun st => ?_
    · simp only [write, updatePassage, hst]
    · cases hup : st.update? s.nextStamp pid u with
      | none =>
        simp only [write, updatePassage, hst, hup, Option.getD_none, id_of_story? hst]
        by_cases hid : story = id
        · rw [if_pos hid, ← hid, hst]
        · rw [if_neg hid]
      | some st' =>
        simp only [write, updatePassage, hst, hup]
        exact story?_insertStory _ _ id
    · rcases st.update?_cases s.nextStamp pid u with ⟨-, hup⟩ | ⟨front, r, back, -, -, -, hup⟩
      · rw [hup]
        rfl
      · rw [hup]
        rfl
  | delete story pid =>
    refine story?_of_rewrite story (fun hst => ?_) (fun st hst => ?_) fun _ => rfl
    · simp only [write, removePassage, hst]
    · simp only [write, removePassage, hst]
      exact story?_insertStory _ _ id

private theorem passage?_of_story? {st : Story} (h : s.story? id = some st) (p : PassageId) :
    s.passage? id p = st.find? p := by
  rw [passage?, h, Option.bind_some]

/-- An update that does not find its passage leaves the store as it is. -/
private theorem updatePassage_of_missing {p : PassageId} {u : Passage.Update}
    (h : s.passage? id p = none) :
    s.updatePassage id p u = s := by
  unfold updatePassage
  cases hst : s.story? id with
  | none => rfl
  | some st =>
    rw [passage?_of_story? hst] at h
    dsimp only
    rw [Story.update?_eq_none_iff.2 h]

private theorem updates_write (s : Store) (w : Write) :
    (s.write w).updates = s.updates + if w.finds s then 1 else 0 := by
  cases w with
  | insert story name format passages => rfl
  | create story p =>
    show (s.addPassage story p).2.updates = s.updates
    unfold addPassage
    cases s.story? story <;> rfl
  | update story pid u =>
    show (s.updatePassage story pid u).updates = s.updates +
      if (s.passage? story pid).isSome then 1 else 0
    cases hfound : s.passage? story pid with
    | none =>
      rw [updatePassage_of_missing hfound]
      rfl
    | some r =>
      obtain ⟨st, hst, hfind⟩ := Option.bind_eq_some_iff.1 hfound
      rcases st.update?_cases s.nextStamp pid u with ⟨hnone, -⟩ | ⟨front, q, back, -, -, -, hup⟩
      · rw [hnone] at hfind
        cases hfind
      · simp only [updatePassage, hst, hup]
        rfl
  | delete story pid =>
    show (s.removePassage story pid).2.updates = s.updates
    unfold removePassage
    cases s.story? story <;> rfl

private theorem nextStamp_write (s : Store) (w : Write) :
    (s.write w).nextStamp = s.nextStamp + (w.made s).length := by
  cases w with
  | insert story name format passages =>
    show s.nextStamp + passages.length = _
    simp [Write.made]
  | create story p =>
    show (s.addPassage story p).2.nextStamp = _
    simp only [addPassage, Write.made]
    cases s.story? story <;> rfl
  | update story pid u =>
    show (s.updatePassage story pid u).nextStamp = _
    rw [nextStamp_updatePassage, Write.made]
    cases s.passage? story pid <;> rfl
  | delete story pid =>
    show (s.removePassage story pid).2.nextStamp = s.nextStamp
    unfold removePassage
    cases s.story? story <;> rfl

/-- The revisions of a write take the next stamps in turn. -/
private theorem stamps_made (s : Store) (w : Write) :
    (w.made s).map (·.stamp) = List.range' s.nextStamp (w.made s).length := by
  cases w with
  | insert story name format passages => simp [Write.made, Function.comp_def]
  | create story p =>
    simp only [Write.made]
    cases s.story? story <;> rfl
  | update story pid u =>
    simp only [Write.made]
    cases s.passage? story pid <;> rfl
  | delete story pid => rfl

/-- Nothing comes into a store but what a write makes. -/
private theorem holds_write (h : (s.write w).Holds r) : s.Holds r ∨ r ∈ w.made s := by
  obtain ⟨id, st, hst, hr⟩ := h
  rw [story?_write] at hst
  by_cases hid : w.story = id
  · rw [if_pos hid, ← hid] at hst
    cases w with
    | insert story name format passages =>
      obtain rfl := Option.some.inj hst
      rw [Story.addAll_eq] at hr
      exact .inr hr
    | create story p =>
      obtain ⟨old, hold, rfl⟩ := Option.map_eq_some_iff.1 hst
      rcases List.mem_append.1 hr with hr | hr
      · exact .inl ⟨story, old, hold, hr⟩
      · change s.story? story = some old at hold
        exact .inr (by simpa [Write.made, hold] using hr)
    | update story pid u =>
      obtain ⟨old, hold, rfl⟩ := Option.map_eq_some_iff.1 hst
      rcases old.update?_cases s.nextStamp pid u with ⟨-, hup⟩ |
        ⟨front, q, back, hpassages, -, hfind, hup⟩
      · rw [hup] at hr
        exact .inl ⟨story, old, hold, hr⟩
      · rw [hup] at hr
        simp only [Option.getD_some, List.mem_append, List.mem_cons] at hr
        rcases hr with hr | rfl | hr
        · exact .inl ⟨story, old, hold, by simp [hpassages, hr]⟩
        · have hfound : s.passage? story pid = some q := (passage?_of_story? hold pid).trans hfind
          exact .inr (by simp [Write.made, hfound])
        · exact .inl ⟨story, old, hold, by simp [hpassages, hr]⟩
    | delete story pid =>
      obtain ⟨old, hold, rfl⟩ := Option.map_eq_some_iff.1 hst
      exact .inl ⟨story, old, hold, (List.mem_filter.1 hr).1⟩
  · rw [if_neg hid] at hst
    exact .inl ⟨id, st, hst, hr⟩

end Store

/-! ### Stamps -/

namespace Store

variable {s : Store} {w : Write} {r r' : Revision}

/-- No two revisions have one stamp, and the stamps that the store gives out next are those of none. -/
structure Numbered (s : Store) : Prop where
  lt : ∀ r, s.Holds r → r.stamp < s.nextStamp
  unique : ∀ r r', s.Holds r → s.Holds r' → r.stamp = r'.stamp → r = r'

private theorem stamp_of_made (h : r ∈ w.made s) :
    s.nextStamp ≤ r.stamp ∧ r.stamp < (s.write w).nextStamp := by
  have hmem := List.mem_map_of_mem (f := (·.stamp)) h
  rw [stamps_made, List.mem_range'_1] at hmem
  rw [nextStamp_write]
  exact hmem

private theorem unique_made (h : r ∈ w.made s) (h' : r' ∈ w.made s) (hstamp : r.stamp = r'.stamp) :
    r = r' := by
  have hnodup : ((w.made s).map (·.stamp)).Nodup := by
    rw [stamps_made]
    exact List.nodup_range'
  exact List.inj_on_of_nodup_map hnodup h h' hstamp

private theorem numbered_empty : empty.Numbered := by
  have hnone : ∀ r, ¬ empty.Holds r := by
    rintro r ⟨id, st, hst, -⟩
    cases hst
  exact ⟨fun r hr => absurd hr (hnone r), fun r _ hr => absurd hr (hnone r)⟩

private theorem Numbered.write (h : s.Numbered) (w : Write) : (s.write w).Numbered where
  lt r hr := by
    rcases holds_write hr with hold | hmade
    · have := h.lt r hold
      rw [nextStamp_write]
      omega
    · exact (stamp_of_made hmade).2
  unique r r' hr hr' hstamp := by
    rcases holds_write hr with hold | hmade
    · rcases holds_write hr' with hold' | hmade'
      · exact h.unique r r' hold hold' hstamp
      · have := h.lt r hold
        have := (stamp_of_made hmade').1
        omega
    · rcases holds_write hr' with hold' | hmade'
      · have := h.lt r' hold'
        have := (stamp_of_made hmade).1
        omega
      · exact unique_made hmade hmade' hstamp

private theorem numbered_writes (h : s.Numbered) (writes : List Write) :
    (writes.foldl Store.write s).Numbered := by
  induction writes generalizing s with
  | nil => exact h
  | cons w ws ih => exact ih (h.write w)

/-- What is found after some writes was there before or has a stamp that was not given out then. -/
private theorem holds_writes {writes : List Write} (h : (writes.foldl Store.write s).Holds r) :
    s.Holds r ∨ s.nextStamp ≤ r.stamp := by
  induction writes generalizing s with
  | nil => exact .inl h
  | cons w ws ih =>
    rcases ih h with hwritten | hnew
    · rcases holds_write hwritten with hold | hmade
      · exact .inl hold
      · exact .inr (stamp_of_made hmade).1
    · rw [nextStamp_write] at hnew
      exact .inr (by omega)

private theorem updates_writes (s : Store) (writes : List Write) :
    (writes.foldl Store.write s).updates = s.updates + s.hits writes := by
  induction writes generalizing s with
  | nil => rfl
  | cons w ws ih => rw [List.foldl_cons, ih, updates_write, hits, Nat.add_assoc]

end Store

/-! ### Formats -/

private theorem told_map {st : Option Story} {roll : Option Roll} {f : Story → Story} {g : Roll → Roll}
    (hfg : ∀ st roll, st.told = roll.told → (f st).told = (g roll).told)
    (h : st.map Story.told = roll.map Roll.told) :
    (st.map f).map Story.told = (roll.map g).map Roll.told := by
  cases st with
  | none =>
    cases roll with
    | none => rfl
    | some roll => cases h
  | some st =>
    cases roll with
    | none => cases h
    | some roll => exact congrArg some (hfg st roll (Option.some.inj h))

/-- A write keeps story and roll in step. -/
private theorem told_rewritten {st : Option Story} {roll : Option Roll}
    (h : st.map Story.told = roll.map Roll.told) (w : Write) (stamp : Nat) :
    (w.rewritten stamp st).map Story.told = (w.entered roll).map Roll.told := by
  cases w with
  | insert story name format passages =>
    have hids : (passages.zipIdx stamp).map (fun p => (p.1.id, format)) = passages.map fun p =>
        (p.id, format) := by
      have hfst :=
        congrArg (List.map fun p : Passage => (p.id, format)) (List.zipIdx_map_fst stamp passages)
      rwa [List.map_map] at hfst
    simp [Write.rewritten, Write.entered, Story.addAll_eq, Story.told, Roll.told, Entry.format,
      hids, Function.comp_def]
  | create story p =>
    refine told_map (fun st roll hsame => ?_) h
    obtain ⟨hformat, hentries⟩ := Prod.mk.inj hsame
    simp [Story.told, Roll.told, hformat, hentries, Entry.format]
  | update story pid u =>
    rw [Write.entered, ← Option.map_id' (x := roll)]
    refine told_map (fun st roll hsame => ?_) h
    rw [← hsame]
    rcases st.update?_cases stamp pid u with ⟨-, hup⟩ | ⟨front, r, back, hpassages, -, -, hup⟩
    · rw [hup]
      rfl
    · simp [Story.told, hup, hpassages, Passage.updated]
  | delete story pid =>
    refine told_map (fun st roll hsame => ?_) h
    obtain ⟨hformat, hentries⟩ := Prod.mk.inj hsame
    have hfilter := congrArg (List.filter (·.1 ≠ pid)) hentries
    rw [List.filter_map, List.filter_map] at hfilter
    exact Prod.ext hformat hfilter

private theorem told_writes {s : Store} {id : StoryId} {roll : Option Roll}
    (h : (s.story? id).map Story.told = roll.map Roll.told) (writes : List Write) :
    ((writes.foldl Store.write s).story? id).map Story.told =
      (writes.foldl (Roll.after id) roll).map Roll.told := by
  induction writes generalizing s roll with
  | nil => exact h
  | cons w ws ih =>
    refine ih ?_
    rw [Store.story?_write, Roll.after]
    by_cases hid : w.story = id
    · rw [if_pos hid, if_pos hid]
      exact told_rewritten h w s.nextStamp
    · rw [if_neg hid, if_neg hid]
      exact h

theorem told_run (writes : List Write) (id : StoryId) :
    ((Store.run writes).story? id).map Story.told = (roll writes id).map Roll.told :=
  told_writes rfl writes

/-- All passages of a story have its format just where those have that were appended to it. -/
private theorem formats_iff {st : Story} {roll : Roll} (h : st.told = roll.told) :
    (∀ r ∈ st.passages, r.passage.format = st.format) ↔
      ∀ id format, (id, Entry.appended format) ∈ roll.entries → format = st.format := by
  obtain ⟨hformat, hentries⟩ := Prod.mk.inj h
  have hseen : ∀ id format, (∃ r ∈ st.passages, (r.passage.id, r.passage.format) = (id, format)) ↔
      ∃ e ∈ roll.entries, (e.1, e.2.format roll.format) = (id, format) := fun id format => by
    rw [← List.mem_map, ← List.mem_map, hentries]
  constructor
  · intro hall id format hentry
    obtain ⟨r, hr, hsame⟩ := (hseen id format).2 ⟨_, hentry, rfl⟩
    rw [← (Prod.mk.inj hsame).2, hall r hr]
  · intro hall r hr
    obtain ⟨⟨id, entry⟩, hentry, hsame⟩ := (hseen _ _).1 ⟨r, hr, rfl⟩
    rw [← (Prod.mk.inj hsame).2]
    cases entry with
    | added => exact hformat.symm
    | appended format => exact hall id format hentry

/-! ### Updates -/

/-- What an update makes of a passage: the given fields, and the others as they were. -/
structure Passage.Revised (u : Passage.Update) (old new : Passage) : Prop where
  name : new.name = u.name.getD old.name
  text : new.text = u.text.getD old.text
  tags : new.tags = u.tags.getD old.tags
  id : new.id = old.id
  format : new.format = old.format
  position : new.position = old.position
  size : new.size = old.size

/-- What an update makes of a store. -/
structure Store.Updated (s : Store) (story : StoryId) (id : PassageId) (u : Passage.Update)
    (t : Store) : Prop where
  elsewhere : ∀ other, other ≠ story → t.story? other = s.story? other
  missing : s.passage? story id = none → t = s
  /-- The first passage with the identifier gets a revision that is none of the old ones; it keeps its
  place, and what stands before and behind it stays. -/
  found : ∀ r, s.passage? story id = some r → ∃ st front back new,
    s.story? story = some st ∧ st.passages = front ++ r :: back ∧ (∀ q ∈ front, q.passage.id ≠ id) ∧
    t.story? story = some { st with passages := front ++ new :: back } ∧
    Passage.Revised u r.passage new.passage ∧ ∀ old, s.Holds old → old.stamp ≠ new.stamp

private theorem Store.story?_updatePassage (s : Store) (story : StoryId) (id : PassageId)
    (u : Passage.Update) (other : StoryId) : (s.updatePassage story id u).story? other =
      if story = other then (s.story? other).map fun st => (st.update? s.nextStamp id u).getD st
      else s.story? other :=
  story?_write s (.update story id u) other

private theorem Store.updated_updatePassage {s : Store} (h : s.Numbered) (story : StoryId)
    (id : PassageId) (u : Passage.Update) : s.Updated story id u (s.updatePassage story id u) where
  elsewhere other hother := by
    rw [story?_updatePassage, if_neg hother.symm]
  missing := updatePassage_of_missing
  found r hr := by
    obtain ⟨st, hst, hfind⟩ := Option.bind_eq_some_iff.1 hr
    rcases st.update?_cases s.nextStamp id u with ⟨hnone, -⟩ |
      ⟨front, q, back, hpassages, hfront, hq, hup⟩
    · rw [hnone] at hfind
      cases hfind
    · obtain rfl : q = r := Option.some.inj (hq.symm.trans hfind)
      refine ⟨st, front, back, ⟨s.nextStamp, q.passage.updated u⟩, hst, hpassages, hfront, ?_,
        ⟨rfl, rfl, rfl, rfl, rfl, rfl, rfl⟩, fun old hold => Nat.ne_of_lt (h.lt old hold)⟩
      rw [story?_updatePassage, if_pos rfl, hst, Option.map_some, hup]
      rfl

/-- Through any writes the passages of a story keep their order, and their formats are those of its roll:
so all have the format of the story just where those have that were appended to it as they were and not
deleted since.  An update gives the first passage with its identifier a revision of its own and leaves all
others, a stamp tells a revision from all that ever were, and the count is that of the updates that found
their passage. -/
theorem roll_of_run (writes : List Write) :
    (∀ id, ((Store.run writes).story? id).map Story.told = (roll writes id).map Roll.told) ∧
    (∀ id st, (Store.run writes).story? id = some st →
      ∃ entries, roll writes id = some ⟨st.format, entries⟩ ∧
        ((∀ r ∈ st.passages, r.passage.format = st.format) ↔
          ∀ p format, (p, Entry.appended format) ∈ entries → format = st.format)) ∧
    (∀ story id u, (Store.run writes).Updated story id u ((Store.run writes).updatePassage story id u)) ∧
    (∀ more r r', (Store.run writes).Holds r → (Store.run (writes ++ more)).Holds r' →
      r.stamp = r'.stamp → r = r') ∧
    (Store.run writes).updates = Store.empty.hits writes := by
  have hnumbered : (Store.run writes).Numbered := Store.numbered_writes Store.numbered_empty writes
  refine ⟨told_run writes, fun id st hst => ?_, Store.updated_updatePassage hnumbered, ?_, ?_⟩
  · have htold := told_run writes id
    rw [hst, Option.map_some] at htold
    obtain ⟨found, hroll, hsame⟩ := Option.map_eq_some_iff.1 htold.symm
    obtain ⟨format, entries⟩ := found
    obtain rfl : format = st.format := (Prod.mk.inj hsame).1
    exact ⟨entries, hroll, formats_iff hsame.symm⟩
  · intro more r r' hr hr' hstamp
    rw [Store.run, List.foldl_append] at hr'
    rcases Store.holds_writes hr' with hold | hnew
    · exact hnumbered.unique r r' hr hold hstamp
    · have := hnumbered.lt r hr
      rw [hstamp] at this
      exact absurd hnew (Nat.not_le.2 this)
  · rw [Store.run, Store.updates_writes]
    exact Nat.zero_add _

/-- A story with one passage is inserted, another passage is appended to it, and of two updates one finds
its passage. -/
def caveWrites (format : FormatRef) : List Write :=
  [.insert ⟨100⟩ "Story" ⟨"Harlowe", "3.3.8"⟩ [.fresh ⟨1⟩ "Start" "" []],
    .create ⟨100⟩ { Passage.fresh ⟨2⟩ "Cave" "" [] with format },
    .update ⟨100⟩ ⟨2⟩ (.ofText "dark"), .update ⟨100⟩ ⟨3⟩ (.ofText "dark")]

/-- The appended passage comes with the format of the story, and a further update finds the first one. -/
theorem roll_of_run_cave :
    let s := Store.run (caveWrites ⟨"Harlowe", "3.3.8"⟩)
    s.updates = 1 ∧
    (∃ st, s.story? ⟨100⟩ = some st ∧ st.passages.map (·.passage.text) = ["", "dark"] ∧
      ∀ r ∈ st.passages, r.passage.format = ⟨"Harlowe", "3.3.8"⟩) ∧
    ∃ r front back new, s.passage? ⟨100⟩ ⟨1⟩ = some r ∧
      ((s.updatePassage ⟨100⟩ ⟨1⟩ (.ofText "light")).story? ⟨100⟩).map (·.passages) =
        some (front ++ new :: back) ∧
      new.passage.text = "light" ∧ new.passage.name = "Start" ∧ r.stamp ≠ new.stamp := by
  intro s
  obtain ⟨-, hformats, hupdated, -, hcount⟩ := roll_of_run (caveWrites ⟨"Harlowe", "3.3.8"⟩)
  obtain ⟨entries, hroll, hiff⟩ := hformats ⟨100⟩ _ rfl
  have hentries : [(⟨1⟩, .added), (⟨2⟩, .appended ⟨"Harlowe", "3.3.8"⟩)] = entries :=
    congrArg Roll.entries (Option.some.inj hroll)
  have hbound : ∀ p format, (p, Entry.appended format) ∈ entries → format = ⟨"Harlowe", "3.3.8"⟩ := by
    simp [← hentries]
  obtain ⟨st, front, back, new, hst, hpassages, -, hafter, hrevised, hnew⟩ :=
    (hupdated ⟨100⟩ ⟨1⟩ (.ofText "light")).found _ rfl
  refine ⟨hcount, ⟨_, rfl, rfl, hiff.2 hbound⟩, _, front, back, new, rfl,
    congrArg _ hafter, hrevised.text,
    hrevised.name, hnew _ ⟨⟨100⟩, st, hst, ?_⟩⟩
  rw [hpassages]
  exact List.mem_append_right _ List.mem_cons_self

/-- A passage without a format is appended and stays without one. -/
theorem appended_without_format :
    ∃ st, (Store.run (caveWrites ⟨"", ""⟩)).story? ⟨100⟩ = some st ∧ st.format = ⟨"Harlowe", "3.3.8"⟩ ∧
      st.passages.map (·.passage.format) = [⟨"Harlowe", "3.3.8"⟩, ⟨"", ""⟩] :=
  ⟨_, rfl, rfl, rfl⟩

end PassageEditor
