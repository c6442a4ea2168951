import Filmography.Kind
import Filmography.Query.Range
import Filmography.Query.Sort

/-!
# Queries

A query asks for entities by the text of their name and by any number of conditions, all of which
must hold. It may carry up to three sub-queries, each of which is resolved to a single entity
before the query itself runs: the TV show whose episodes are sought, the movie, show or episode
whose cast is sought, and the actor whose credits are sought.

Thresholds and similarities are numbers of a type `ν`. Queries that people write have
floating-point thresholds, and `Query` without an argument means these.

The operations of this module keep what every query promises: the kinds of a query are listed once
each, sub-queries ask for kinds that fit their role, and a pattern is never matched by similarity
unless that is asked for again.
-/

namespace Filmography

/-- The conditions of a query, apart from its sub-queries. -/
structure Criteria (ν : Type := Float) where
  /-- The words of the name that is sought. -/
  terms : List Text := []
  /-- The kinds that are sought; all of them if none is listed. -/
  kinds : List Kind := []
  /-- The year. -/
  years : Range := .unconstrained
  /-- The rank of the rating, from 0 to 100. -/
  rank : Range := .unconstrained
  /-- The number of votes of the rating. -/
  votes : Range := .unconstrained
  /-- The season of an episode. -/
  seasons : Range := .unconstrained
  /-- The number of an episode in its season. -/
  episodes : Range := .unconstrained
  /-- The billing position of the credit that joins a result to a sub-query. -/
  billed : Range := .unconstrained
  /-- Whether movies made for TV are left out. -/
  noTv : Bool := false
  /-- Whether movies made for video are left out. -/
  noVideo : Bool := false
  /-- The sort keys, the first one counting most. -/
  sorts : List SortKey := []
  /-- The greatest number of results, if there is one. -/
  limit : Option UInt64 := some 30
  /-- Whether names may be matched by similarity. -/
  fuzzy : Bool := true
  /-- Whether letter case is ignored where names are not matched by similarity. -/
  ignoreCase : Bool := false
  /-- By how much the best of several candidates must lead to be picked without asking. -/
  goodThreshold : ν
  /-- The least similarity of a match. -/
  minSimilarity : ν
  /-- Whether the compiled statement of the query is logged. -/
  debug : Bool := false

/-- A query: its own conditions and its sub-queries. -/
structure Query (ν : Type := Float) extends Criteria ν where
  /-- The TV show whose episodes are sought. -/
  tvshow : Option (Query ν) := none
  /-- The movie, TV show or episode whose cast is sought. -/
  credits : Option (Query ν) := none
  /-- The actor whose credits are sought. -/
  cast : Option (Query ν) := none

namespace Criteria

variable {ν : Type}

/-- How many results a query without a limit of its own yields at most. -/
def defaultLimit : UInt64 := 30

/-- A term is a pattern if it contains `%`, which stands for any characters, or `_`, which stands
for any one character. -/
def isPattern (term : Text) : Bool :=
  term.any fun c => c = '%' || c = '_'

/-- Whether the text of a query is a pattern. -/
def hasWildcard (c : Criteria ν) : Bool :=
  c.terms.any isPattern

/-- The name that is sought: the terms with a space between any two. -/
def name? (c : Criteria ν) : Option Text :=
  match c.terms with
  | [] => none
  | terms => some (Text.joined [' '] terms)

/-- The kinds with one more, if it is not among them. -/
def insertKind (k : Kind) (kinds : List Kind) : List Kind :=
  if k ∈ kinds then kinds else kinds ++ [k]

end Criteria

namespace Query

variable {ν : Type}

/-- The query that asks for everything, with the default thresholds. -/
def empty : Query := { goodThreshold := 0.25, minSimilarity := 0.3 }

/-- Add a term. A pattern turns matching by similarity off. -/
def text (q : Query ν) (term : Text) : Query ν :=
  { q with
    terms := q.terms ++ [term]
    fuzzy := q.fuzzy && !Criteria.isPattern term }

/-- Ask for a kind. -/
def entity (q : Query ν) (k : Kind) : Query ν :=
  { q with kinds := Criteria.insertKind k q.kinds }

/-- Ask for episodes of certain seasons. -/
def inSeasons (q : Query ν) (r : Range) : Query ν :=
  { q with seasons := r, kinds := Criteria.insertKind .episode q.kinds }

/-- Ask for episodes of certain numbers. -/
def inEpisodes (q : Query ν) (r : Range) : Query ν :=
  { q with episodes := r, kinds := Criteria.insertKind .episode q.kinds }

/-- Ask for the episodes of the TV show that a sub-query finds. It is made to seek TV shows. -/
def ofTvshow (q sub : Query ν) : Query ν :=
  { q with tvshow := some { sub with kinds := [.tvshow] } }

/-- Ask for the cast of what a sub-query finds. It is made to seek media if it lists no kind. -/
def ofCredits (q sub : Query ν) : Query ν :=
  { q with credits := some { sub with kinds := if sub.kinds = [] then Kind.media else sub.kinds } }

/-- Ask for the credits of the actor that a sub-query finds. It is made to seek actors. -/
def ofCast (q sub : Query ν) : Query ν :=
  { q with cast := some { sub with kinds := [.actor] } }

/-- Add a sort key. -/
def sortBy (q : Query ν) (k : SortKey) : Query ν :=
  { q with sorts := q.sorts ++ [k] }

end Query

end Filmography
