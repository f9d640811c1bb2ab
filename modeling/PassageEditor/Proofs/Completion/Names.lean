import PassageEditor.Proofs.Completion.Span
import PassageEditor.Proofs.Ranking.Perfect

/-!
# The list of variables

Behind an at sign with what may be a name there is a list for every passage that has been scanned,
whatever the code of the format does (`exists_names`).  Without its answer the list holds the visible
names in the order of their rank, and none that is reserved; but the answer counts as it comes, so a
reserved name in it is offered (`labels_of_names`).
-/

namespace PassageEditor.Completion

open Markup

variable {b : Buffer} {t : Tracker} {passage : PassageId} {pattern : Pattern.Regex}
  {line before query : List Char}
  {names : List String}

/-! ### What is typed -/

private theorem Typed.unique {other : List Char} (h : Typed before query) (h' : Typed before other) :
    query = other :=
  (h'.longest query h.behind h.visible).eq_of_length_le
    (h.longest other h'.behind h'.visible).length_le

private theorem query?_eq_some_iff : query? before = some query ↔ Typed before query := by
  refine ⟨typed_of_query, fun h => ?_⟩
  have hsome : ∀ cs : List Char, '@' :: query <:+ cs → query? cs ≠ none := by
    intro cs hbehind
    induction cs with
    | nil => simp at hbehind
    | cons d ds ih =>
      unfold query?
      split
      · simp
      · rename_i hstart
        rcases List.suffix_cons_iff.1 hbehind with heq | hsuffix
        · obtain ⟨rfl, rfl⟩ := List.cons.inj heq
          exact absurd (by simpa using h.visible) hstart
        · exact ih hsuffix
  obtain ⟨found, hfound⟩ := Option.ne_none_iff_exists'.1 (hsome before h.behind)
  rw [hfound, (typed_of_query hfound).unique h]

/-! ### The list -/

/-- The names that a passage sees without those that the format reserves. -/
def unreserved (t : Tracker) (names : List String) : List String :=
  names.filter fun name => !t.hooks.reserved.contains name

theorem mem_unreserved {name : String} :
    name ∈ unreserved t names ↔ name ∈ names ∧ name ∉ t.hooks.reserved := by
  simp [unreserved]

/-- What is typed may be a name; nothing at all always may. -/
def Accepted (t : Tracker) (pattern : Pattern.Regex) (query : List Char) : Prop :=
  query = [] ∨ (t.hooks.pattern.getD pattern).isMatch (String.ofList query) = true

/-- The code of the format answers with a list of names. -/
def Suggests (t : Tracker) (names : List String) (query : List Char) (given : List String) : Prop :=
  ∃ suggest, t.hooks.suggest = some suggest ∧ suggest names (String.ofList query) = .ok given

theorem exists_names (hline : b.lines[b.cursor.line]? = some line)
    (htyped : Typed (line.take b.cursor.ch) query) (haccepted : Accepted t pattern query)
    (hnames : t.index.visibleNames passage = .ok names) :
    ∃ list, names? b t passage pattern = .ok (some list) ∧
      list.labels = orderedNames t (unreserved t names) (String.ofList query) := by
  have hmatch : ¬ (String.ofList query ≠ "" &&
    !(t.hooks.pattern.getD pattern).isMatch (String.ofList query)) = true := by
    rcases haccepted with rfl | hmatch
    · simp
    · simp [hmatch]
  refine ⟨⟨.variableName, ⟨⟨b.cursor.line, b.cursor.ch - (query.length + 1)⟩, b.cursor⟩,
    (orderedNames t (unreserved t names) (String.ofList query)).map fun name => ⟨name, .insert⟩⟩, ?_, ?_⟩
  · rw [names?_def]
    unfold cursorLine?
    simp only [hline, Option.map_some, Option.bind_some,
      query?_eq_some_iff.2 htyped, if_neg hmatch, hnames]
    rfl
  · simp only [CompletionList.labels, List.map_map, Function.comp_def, List.map_id']

/-- Where the code of the format is missing, fails or panics, the names are ranked. -/
theorem orderedNames_of_not_suggests (h : ∀ given, ¬ Suggests t names query given) :
    orderedNames t names (String.ofList query) = Ranking.rank names (String.ofList query) := by
  rw [orderedNames_def]
  cases hsuggest : t.hooks.suggest with
  | none => rfl
  | some suggest =>
    dsimp only
    cases hanswer : suggest names (String.ofList query) with
    | ok given => exact absurd ⟨suggest, hsuggest, hanswer⟩ (h given)
    | failed e => rfl
    | panicked p => rfl

private theorem orderedNames_of_suggests {given : List String} (h : Suggests t names query given) :
    orderedNames t names (String.ofList query) = given := by
  obtain ⟨suggest, hsuggest, hanswer⟩ := h
  simp only [orderedNames_def, hsuggest, hanswer]
  rfl

/-- Behind an at sign with what may be a name there is a list for every passage that has been scanned.  It
is what the code of the format answers, or else, whether there is no such code or it fails or panics, the
rank of the visible names that are not reserved.  So no label is reserved just where the answer, if there
is one, has no reserved name. -/
theorem labels_of_names (hline : b.lines[b.cursor.line]? = some line)
    (htyped : Typed (line.take b.cursor.ch) query) (haccepted : Accepted t pattern query)
    (hnames : t.index.visibleNames passage = .ok names) :
    ∃ list, names? b t passage pattern = .ok (some list) ∧
      ((∀ given, ¬ Suggests t (unreserved t names) query given) →
        list.labels = Ranking.rank (unreserved t names) (String.ofList query) ∧
          ∀ label ∈ list.labels, label ∈ names ∧ label ∉ t.hooks.reserved) ∧
      (∀ given, Suggests t (unreserved t names) query given → list.labels = given) ∧
      ((∀ label ∈ list.labels, label ∉ t.hooks.reserved) ↔
        ∀ given, Suggests t (unreserved t names) query given →
          ∀ name ∈ given, name ∉ t.hooks.reserved) := by
  obtain ⟨list, hlist, hlabels⟩ := exists_names hline htyped haccepted hnames
  have hanswered : ∀ given, Suggests t (unreserved t names) query given →
      list.labels = given := fun given h =>
    hlabels.trans (orderedNames_of_suggests h)
  have hranked : (∀ given, ¬ Suggests t (unreserved t names) query given) →
      list.labels = Ranking.rank (unreserved t names) (String.ofList query) ∧
        ∀ label ∈ list.labels, label ∈ names ∧ label ∉ t.hooks.reserved := by
    intro h
    have hrank := hlabels.trans (orderedNames_of_not_suggests h)
    refine ⟨hrank, fun label hlabel => ?_⟩
    rw [hrank] at hlabel
    exact mem_unreserved.1 (Ranking.mem_of_mem_rank hlabel)
  refine ⟨list, hlist, hranked, hanswered, ?_, ?_⟩
  · intro h given hgiven name hname
    exact h name (hanswered given hgiven ▸ hname)
  · intro h
    by_cases hgiven : ∃ given, Suggests t (unreserved t names) query given
    · obtain ⟨given, hgiven⟩ := hgiven
      rw [hanswered given hgiven]
      exact h given hgiven
    · exact fun label hlabel => ((hranked (not_exists.1 hgiven)).2 label hlabel).2

/-- A tracker of a format with a built-in name that has scanned a passage in which a variable is
defined. -/
def heroTracker (native defined : String) (reserved : List String)
    (suggest : Option (List String → String → Outcome (List String))) : Tracker :=
  ((Tracker.empty ⟨reserved, none, suggest,
    fun _ => .ok [.native native, .mention ⟨defined, .origin, some "1", false⟩]⟩
      ⟨"Harlowe", "3.3.8"⟩).sync
      startStory).2

/-- An at sign and two letters. -/
def heroBuffer : Buffer := (Buffer.ofText "set @go").setCursor ⟨0, 7⟩

/-- The code that should order the names panics. -/
theorem labels_of_names_panic :
    let t := heroTracker "it" "gold" ["it"] (some fun _ _ => .panicked .other)
    t.index.visibleNames ⟨1⟩ = .ok ["gold", "it"] ∧ Typed "set @go".toList "go".toList ∧
    Accepted t .empty "go".toList ∧
      ∃ list, names? heroBuffer t ⟨1⟩ .empty = .ok (some list) ∧ list.labels = ["gold"] ∧
        ∀ label ∈ list.labels, label ∉ ["it"] := by
  intro t
  have hnames : t.index.visibleNames ⟨1⟩ = .ok ["gold", "it"] := by decide +kernel
  have htyped : Typed "set @go".toList "go".toList := typed_of_query (by decide +kernel)
  have haccepted : Accepted t .empty "go".toList := .inr (by decide +kernel)
  obtain ⟨list, hlist, hranked, -, -⟩ := labels_of_names (b := heroBuffer) rfl htyped haccepted hnames
  have hsilent : ∀ given, ¬ Suggests t (unreserved t ["gold", "it"]) "go".toList given := by
    rintro given ⟨suggest, hsuggest, hanswer⟩
    obtain rfl := Option.some.inj hsuggest
    simp at hanswer
  obtain ⟨hlabels, hunreserved⟩ := hranked hsilent
  refine ⟨hnames, htyped, haccepted, list, hlist, hlabels.trans (by decide +kernel),
    fun label hlabel => ?_⟩
  exact (hunreserved label hlabel).2

/-- The code of the format puts a mark before each name, and so makes a reserved one of `gold`. -/
theorem reserved_name_suggested :
    let t := heroTracker "it" "gold" [":gold"] (some fun names query =>
      .ok (names.reverse.map fun name => query ++ ":" ++ name))
    ∃ list, names? ((Buffer.ofText "set @").setCursor ⟨0, 5⟩) t ⟨1⟩ .empty = .ok (some list) ∧
      list.labels = [":it", ":gold"] ∧ ":gold" ∈ t.hooks.reserved := by
  intro t
  exact ⟨⟨.variableName, ⟨⟨0, 4⟩, ⟨0, 5⟩⟩, [⟨":it", .insert⟩, ⟨":gold", .insert⟩]⟩, by
      decide +kernel, rfl,
    List.mem_singleton.2 rfl⟩

end PassageEditor.Completion
