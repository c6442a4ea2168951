import Filmography.Query.Basic

/-!
# Queries built by calls

A query can be built by a list of calls, each of which adds a term, sets a condition or attaches a
sub-query. `Query.apply` says what one call does, and `Query.applyAll` applies a list in order.
The query syntax is another way to write such a list.
-/

namespace Filmography

/-- One step in building a query. -/
inductive Call (ν : Type := Float) where
  /-- Add a term. -/
  | text (term : Text)
  /-- Ask for a kind. -/
  | entity (kind : Kind)
  /-- Restrict the year. -/
  | years (range : Range)
  /-- Restrict the rank. -/
  | rank (range : Range)
  /-- Restrict the number of votes. -/
  | votes (range : Range)
  /-- Restrict the season, and ask for episodes. -/
  | seasons (range : Range)
  /-- Restrict the number of an episode, and ask for episodes. -/
  | episodes (range : Range)
  /-- Restrict the billing position. -/
  | billed (range : Range)
  /-- Leave out movies made for TV, or do not. -/
  | noTv (yes : Bool)
  /-- Leave out movies made for video, or do not. -/
  | noVideo (yes : Bool)
  /-- Ask for the episodes of a TV show. -/
  | tvshow (sub : Query ν)
  /-- Ask for the cast of a movie, TV show or episode. -/
  | credits (sub : Query ν)
  /-- Ask for the credits of an actor. -/
  | cast (sub : Query ν)
  /-- Add a sort key. -/
  | sort (key : SortKey)
  /-- Limit the number of results. -/
  | limit (n : UInt64)
  /-- Do not limit the number of results. -/
  | unlimited
  /-- Allow matching by similarity, or do not. -/
  | fuzzy (yes : Bool)
  /-- Ignore letter case, or do not. -/
  | ignoreCase (yes : Bool)
  /-- Set the lead at which the best candidate is picked without asking. -/
  | goodThreshold (threshold : ν)
  /-- Set the least similarity. -/
  | minSimilarity (similarity : ν)
  /-- Log the compiled statement, or do not. -/
  | debug (yes : Bool)

namespace Query

variable {ν : Type}

/-- What a call does to a query. -/
def apply (q : Query ν) : Call ν → Query ν
  | .text term => q.text term
  | .entity kind => q.entity kind
  | .years range => { q with years := range }
  | .rank range => { q with rank := range }
  | .votes range => { q with votes := range }
  | .seasons range => q.inSeasons range
  | .episodes range => q.inEpisodes range
  | .billed range => { q with billed := range }
  | .noTv yes => { q with noTv := yes }
  | .noVideo yes => { q with noVideo := yes }
  | .tvshow sub => q.ofTvshow sub
  | .credits sub => q.ofCredits sub
  | .cast sub => q.ofCast sub
  | .sort key => q.sortBy key
  | .limit n => { q with limit := some n }
  | .unlimited => { q with limit := none }
  | .fuzzy yes => { q with fuzzy := yes }
  | .ignoreCase yes => { q with ignoreCase := yes }
  | .goodThreshold threshold => { q with goodThreshold := threshold }
  | .minSimilarity similarity => { q with minSimilarity := similarity }
  | .debug yes => { q with debug := yes }

/-- What a list of calls does to a query, the first call first. -/
def applyAll (q : Query ν) (calls : List (Call ν)) : Query ν :=
  calls.foldl apply q

@[simp]
theorem applyAll_nil (q : Query ν) : q.applyAll [] = q := rfl

@[simp]
theorem applyAll_cons (q : Query ν) (c : Call ν) (cs : List (Call ν)) :
    q.applyAll (c :: cs) = (q.apply c).applyAll cs := rfl

/-- Applying calls in two parts is applying all of them. -/
theorem applyAll_append (q : Query ν) (cs ds : List (Call ν)) :
    q.applyAll (cs ++ ds) = (q.applyAll cs).applyAll ds :=
  List.foldl_append

end Query

end Filmography
