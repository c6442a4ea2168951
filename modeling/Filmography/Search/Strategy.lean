import Filmography.Query.Basic

/-!
# Strategies for matching names

The text of a query is matched with names by similarity, as a pattern or exactly. Similarity is
taken where the query allows it and the store can do it; otherwise a text with wildcards, or one
for which letter case is ignored, is a pattern.
-/

namespace Filmography

/-- How the text of a query is matched with names. -/
inductive Strategy where
  /-- The name is the text. -/
  | exact
  /-- The text is a pattern for the name, ASCII letter case aside. -/
  | pattern
  /-- The name is similar to the text, and more similar names come first. -/
  | similarity
deriving DecidableEq, Repr

/-- The strategy for a query, given whether names can be matched by similarity. -/
def Strategy.ofQuery {ν : Type} (q : Query ν) (fuzzyCapable : Bool) : Strategy :=
  if q.fuzzy && fuzzyCapable then .similarity
  else if q.hasWildcard || q.ignoreCase then .pattern
  else .exact

/-- The name of a strategy. -/
def Strategy.name : Strategy → String
  | exact => "Exact"
  | pattern => "Pattern"
  | similarity => "Similarity"

end Filmography
