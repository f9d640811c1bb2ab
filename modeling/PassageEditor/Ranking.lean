import PassageEditor.Text.Conversion

/-!
# Ranking candidates against a query

Candidates are scored by their similarity to the query and passed through the confidence filter: they are
sorted by descending score, equal scores in their old order, and cut at a floor that the best score
decides, the high floor if it reaches that one, else the low floor, else no floor at all.  The scores can
be of any type with an order and the similarity can be any function, so that the facts about the filter
depend neither on floating-point numbers nor on how two texts are compared.
-/

namespace PassageEditor.Ranking

/-! ### The confidence filter -/

section Filter

variable {α β : Type} [LT β] [DecidableLT β] [LE β] [DecidableLE β]

/-- Puts an item behind the items that it does not beat; the list is given from the last item to the
first. -/
def insertScored (item : α × β) : List (α × β) → List (α × β)
  | [] => [item]
  | last :: before => if last.2 < item.2 then last :: insertScored item before else item :: last :: before

/-- Stable, by descending score. -/
def sortScored (items : List (α × β)) : List (α × β) :=
  (items.foldl (fun sorted item => insertScored item sorted) []).reverse

/-- The two score floors. -/
structure Floors (β : Type) where
  high : β
  low : β

/-- The floor for a best score. -/
def Floors.floorFor (floors : Floors β) (top : β) : Option β :=
  if floors.high ≤ top then some floors.high
  else if floors.low ≤ top then some floors.low
  else none

/-- Whether a score reaches the floor, if there is one. -/
def reaches : (floor : Option β) → (score : β) → Bool
  | none, _ => true
  | some floor, score => floor ≤ score

/-- The items whose score reaches the floor for the best score, best first. -/
def confidenceFilter (floors : Floors β) (items : List (α × β)) : List α :=
  match sortScored items with
  | [] => []
  | top :: rest => ((top :: rest).filter fun item => reaches (floors.floorFor top.2) item.2).map (·.1)

/-- Ranks by any score. -/
def rankBy (floors : Floors β) (score : String → β) (candidates : List String) : List String :=
  confidenceFilter floors (candidates.map fun candidate => (candidate, score candidate))

end Filter

/-! ### The Jaro-Winkler similarity

Two characters match when they are equal and their places differ by less than half the longer length; each
character takes the first free partner in reach.  The score rises with the number of matches, falls with
the matches that stand in a different order, and rises again with a common beginning. -/

/-- Takes the first free character equal to `c` among the places from `low` up to, and without, `high`;
the first character of the list stands at place `place`. -/
def takePartner (c : Char) (low high : Nat) :
    (place : Nat) → List (Char × Bool) → Option (List (Char × Bool))
  | _, [] => none
  | place, (d, taken) :: rest =>
    if low ≤ place ∧ place < high ∧ c = d ∧ taken = false then some ((d, true) :: rest)
    else (takePartner c low high (place + 1) rest).map ((d, taken) :: ·)

/-- Pairs off the characters of the first text from left to right.  Gives the matched characters of the
first text and the second text with its taken characters marked. -/
def pairOff (reach : Nat) :
    (place : Nat) → List Char → List (Char × Bool) → List Char × List (Char × Bool)
  | _, [], pool => ([], pool)
  | place, c :: cs, pool =>
    match takePartner c (place - reach) (place + reach + 1) 0 pool with
    | none => pairOff reach (place + 1) cs pool
    | some pool =>
      let (matched, pool) := pairOff reach (place + 1) cs pool
      (c :: matched, pool)

/-- How far apart the places of matching characters may be. -/
def reach (a b : List Char) : Nat :=
  max a.length b.length / 2 - 1

/-- The number of matches, and the number of them that stand in a different order, halved. -/
def matchCounts (a b : List Char) : Nat × Nat :=
  let (left, pool) := pairOff (reach a b) 0 a (b.map (·, false))
  let right := (pool.filter (·.2)).map (·.1)
  (left.length, ((left.zip right).filter fun p => p.1 ≠ p.2).length / 2)

def jaro (a b : List Char) : Float :=
  if a.isEmpty && b.isEmpty then 1.0
  else if a.isEmpty || b.isEmpty then 0.0
  else
    let (m, t) := matchCounts a b
    if m = 0 then 0.0
    else (m.toFloat / a.length.toFloat + m.toFloat / b.length.toFloat + (m - t).toFloat / m.toFloat) / 3.0

/-- The length of the common beginning, at most four. -/
def commonStart (a b : List Char) : Nat :=
  (((a.take 4).zip b).takeWhile fun p => p.1 = p.2).length

/-- A score above 0.7 moves towards one by a tenth of the distance for each character of the common
beginning. -/
def jaroWinkler (a b : String) : Float :=
  let sim := jaro a.toList b.toList
  if sim > 0.7 then sim + 0.1 * (commonStart a.toList b.toList).toFloat * (1.0 - sim) else sim

/-! ### Ranking -/

/-- Scores from 0.8 on narrow a result to themselves; when there are none, scores from 0.6 on do. -/
def floors : Floors Float := ⟨0.8, 0.6⟩

section Similarity

variable (similarity : String → String → Float)

/-- The candidates that resemble the query, best first. -/
def rankWith (candidates : List String) (query : String) : List String :=
  rankBy floors (similarity query) candidates

/-- As `rankWith`, by the lower case of both sides. -/
def rankIgnoringCaseWith (candidates : List String) (query : String) : List String :=
  rankBy floors (fun candidate => similarity (Text.lower query) (Text.lower candidate)) candidates

end Similarity

/-- The candidates that resemble the query in the Jaro-Winkler similarity, best first. -/
def rank (candidates : List String) (query : String) : List String :=
  rankWith jaroWinkler candidates query

/-- As `rank`, by the lower case of both sides. -/
def rankIgnoringCase (candidates : List String) (query : String) : List String :=
  rankIgnoringCaseWith jaroWinkler candidates query

end PassageEditor.Ranking
