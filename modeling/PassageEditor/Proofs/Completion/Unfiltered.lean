import PassageEditor.Proofs.Completion.Names

/-!
# Lists while nothing is typed

Right behind opening brackets the list holds all passages with a name, since the empty name is left out
before the names are ranked (`labels_of_opening`).  Right behind an at sign nothing is left out, so a
variable with the empty name is all that is offered (`labels_of_at`).
-/

namespace PassageEditor.Completion

open Markup

variable {b : Buffer} {t : Tracker} {passage : PassageId} {story : Story}
  {line front : List Char} {names : List String}

theorem labels_of_at (pattern : Pattern.Regex) (hline : b.lines[b.cursor.line]? = some line)
    (htyped : Typed (line.take b.cursor.ch) []) (hsuggest : t.hooks.suggest = none)
    (hnames : t.index.visibleNames passage = .ok names) :
    ∃ list, names? b t passage pattern = .ok (some list) ∧
      list.labels =
        (if "" ∈ unreserved t names then (unreserved t names).filter (· = "") else unreserved t names) := by
  obtain ⟨list, hlist, hlabels⟩ := exists_names hline htyped (Or.inl rfl : Accepted t pattern []) hnames
  have hsilent : ∀ given, ¬ Suggests t (unreserved t names) [] given := by
    rintro given ⟨suggest, hsome, -⟩
    rw [hsuggest] at hsome
    cases hsome
  refine ⟨list, hlist, ?_⟩
  rw [hlabels, orderedNames_of_not_suggests hsilent]
  exact Ranking.rank_empty _

/-- Opening brackets at the end are the last that open a list. -/
private theorem lastPlace_opening (front : List Char) :
    LastPlace [opening, arrow] (front ++ opening) front.length where
  occurs := ⟨opening, by simp, by simp [OccursAt]⟩
  last j hj mark hmark hoccurs := by
    have hlength : 2 ≤ mark.length := by
      simp only [List.mem_cons, List.not_mem_nil, or_false] at hmark
      rcases hmark with rfl | rfl <;> decide
    have hle := hoccurs.le_length (List.ne_nil_of_length_pos (by omega))
    rw [List.length_append, show opening.length = 2 from rfl] at hle
    omega

theorem labels_of_opening (hline : b.lines[b.cursor.line]? = some line)
    (hopening : line.take b.cursor.ch = front ++ opening)
    (hopen : ∀ j, ¬ Closes (line.drop b.cursor.ch) j) :
    ∃ list, passages? b story = some list ∧
      list.labels = (story.passages.map (·.passage.name)).filter (· ≠ "") := by
  have hsome : passages? b story ≠ none := fun hnone =>
    ((passages?_eq_none_iff hline).1 hnone).1 ⟨front, [], by rw [List.append_nil, hopening]⟩
  obtain ⟨list, hlist⟩ := Option.ne_none_iff_exists'.1 hsome
  refine ⟨list, hlist, ?_⟩
  obtain ⟨trigger, hoffers⟩ := offers_of_passages hline hlist
  obtain ⟨query, -, hquery, hlabels⟩ := hoffers.labels
  have hlast := lastPlace_opening front
  rw [← hopening] at hlast
  obtain rfl := hoffers.latest.unique hlast
  have hnothing : (line.take b.cursor.ch).drop (front.length + 2) = [] := by
    rw [hopening, List.drop_length_add_append]
    rfl
  -- the brackets are the last that open a link as well, so the name that is left out is the empty one
  have hcontent : linkContent (line.take b.cursor.ch) = [] := by
    rw [hoffers.excluded front.length ⟨⟨opening, by simp, ?_⟩, fun j hj mark hmark => ?_⟩, hnothing]
    · rw [hopening]
      simp [OccursAt]
    · exact hlast.last j hj mark (by simp_all)
  rw [hlabels, hquery hopen, hnothing, hcontent, Ranking.rank_empty, if_neg (by simp)]

/-- While nothing is typed all candidates keep their places, unless some but not all of them are empty
texts: then only those are left.  So without code of the format to order them, an at sign offers all
variables that are not reserved unless one of them has the empty name and another has not; while opening
brackets that no others close always offer all passages with a name. -/
theorem labels_of_nothing_typed (candidates : List String) (b : Buffer) (t : Tracker)
    (passage : PassageId) (pattern : Pattern.Regex) (story : Story) :
    Ranking.rank candidates "" = (if "" ∈ candidates then candidates.filter (· = "") else candidates) ∧
    (Ranking.rank candidates "" = candidates ↔ ("" ∈ candidates → ∀ c ∈ candidates, c = "")) ∧
    (∀ line names, b.lines[b.cursor.line]? = some line → Typed (line.take b.cursor.ch) [] →
      t.hooks.suggest = none → t.index.visibleNames passage = .ok names →
      ∃ list, names? b t passage pattern = .ok (some list) ∧
        list.labels =
          (if "" ∈ unreserved t names then (unreserved t names).filter (· = "") else unreserved t names) ∧
        ((∀ name ∈ names, name ∉ t.hooks.reserved → name ∈ list.labels) ↔
          ("" ∈ unreserved t names → ∀ name ∈ unreserved t names, name = ""))) ∧
    ∀ line front, b.lines[b.cursor.line]? = some line → line.take b.cursor.ch = front ++ opening →
      (∀ j, ¬ Closes (line.drop b.cursor.ch) j) →
      ∃ list, passages? b story = some list ∧
        list.labels = (story.passages.map (·.passage.name)).filter (· ≠ "") := by
  refine ⟨Ranking.rank_empty candidates, Ranking.rank_empty_eq_self_iff candidates, ?_, fun line front =>
    labels_of_opening⟩
  intro line names hline htyped hsuggest hnames
  obtain ⟨list, hlist, hlabels⟩ := labels_of_at pattern hline htyped hsuggest hnames
  refine ⟨list, hlist, hlabels, ?_⟩
  have hall : (∀ name ∈ names, name ∉ t.hooks.reserved → name ∈ list.labels) ↔
      ∀ name ∈ unreserved t names, name ∈ list.labels :=
    ⟨fun h name hname => h name (mem_unreserved.1 hname).1 (mem_unreserved.1 hname).2,
      fun h name hname hfree => h name (mem_unreserved.2 ⟨hname, hfree⟩)⟩
  rw [hall, hlabels]
  by_cases hempty : "" ∈ unreserved t names
  · simp only [hempty, if_true, true_imp_iff, List.mem_filter, decide_eq_true_eq]
    exact forall₂_congr fun name hname => and_iff_right hname
  · simp [hempty]

/-- A variable and a name built into the format behind an at sign, and a passage behind opening
brackets. -/
theorem labels_of_nothing_typed_gold :
    (∃ list, names? ((Buffer.ofText "set @").setCursor ⟨0, 5⟩)
        (heroTracker "it" "gold" [] none) ⟨1⟩ .empty = .ok (some list) ∧ list.labels = ["gold", "it"]) ∧
    ∃ list, passages? ((Buffer.ofText "Go [[").setCursor ⟨0, 5⟩) startStory = some list ∧
      list.labels = ["Start"] := by
  let t := heroTracker "it" "gold" [] none
  have hnames : t.index.visibleNames ⟨1⟩ = .ok ["gold", "it"] := by decide +kernel
  have hopen : ∀ j, ¬ Closes [] j := fun j hj =>
    absurd (hj.occurs.le_length closing_ne_nil) (by simp [closing])
  obtain ⟨-, -, hat, -⟩ :=
    labels_of_nothing_typed [] ((Buffer.ofText "set @").setCursor ⟨0, 5⟩) t ⟨1⟩ .empty startStory
  obtain ⟨-, -, -, hopening⟩ :=
    labels_of_nothing_typed [] ((Buffer.ofText "Go [[").setCursor ⟨0, 5⟩) t ⟨1⟩ .empty startStory
  obtain ⟨list, hlist, hlabels, -⟩ :=
    hat "set @".toList _ (by decide +kernel) (typed_of_query (by decide +kernel)) rfl hnames
  obtain ⟨list', hlist', hlabels'⟩ :=
    hopening "Go [[".toList "Go ".toList (by decide +kernel) (by decide +kernel) hopen
  exact ⟨⟨list, hlist, hlabels.trans (by decide +kernel)⟩, list', hlist', hlabels'⟩

/-- Beside a variable with the empty name the other variable is not offered. -/
theorem nameless_variable_alone :
    (heroTracker "" "gold" [] none).index.visibleNames ⟨1⟩ = .ok ["gold", ""] ∧
      ∃ list, names? ((Buffer.ofText "set @").setCursor ⟨0, 5⟩)
          (heroTracker "" "gold" [] none) ⟨1⟩ .empty = .ok (some list) ∧ list.labels = [""] :=
  ⟨by decide +kernel, ⟨.variableName, ⟨⟨0, 4⟩, ⟨0, 5⟩⟩, [⟨"", .insert⟩]⟩, by decide +kernel, rfl⟩

end PassageEditor.Completion
