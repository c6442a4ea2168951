import Filmography.Search.Compile
import Filmography.Search.Dialogue
import Filmography.Search.Engine

/-!
# Resolving sub-queries

Before a query runs, each of its sub-queries runs and is settled to one of its hits: first the TV
show, then the credited media, then the cast member, each after its own sub-queries. Only the
threshold of the query as a whole counts, for its sub-queries at every depth, and a query that is
logged has its sub-queries logged.

An error while a sub-query runs is reported as one of that sub-query. A refusal to choose among the
hits of a sub-query belongs to the query that asks.

* `Query.prepare` settles the sub-queries and compiles the query;
* `Query.search` also runs it.
-/

namespace Filmography

/-- What a search goes through: a catalogue, whether names can be compared by similarity, and the
engine that runs statements. -/
structure Store (ν : Type := Float) [Score ν] where
  /-- The catalogue. -/
  catalog : Catalog
  /-- Whether names can be compared by similarity. -/
  fuzzy : Bool
  /-- The engine. -/
  engine : Engine ν := .indexed

variable {ν : Type} [Score ν]

/-- Conditions as they count within a query with the given threshold and logging. -/
def Criteria.within (threshold : ν) (debug : Bool) (c : Criteria ν) : Criteria ν :=
  { c with goodThreshold := threshold, debug := c.debug || debug }

namespace Query

/-- A query as it counts within a query with the given threshold and logging. -/
def within (threshold : ν) (debug : Bool) (q : Query ν) : Query ν :=
  { q with toCriteria := q.toCriteria.within threshold debug }

/-- Settle a sub-query, given how it is prepared. -/
def settle (s : Store ν) (role : Role) (q : Query ν) (prepared : Dialogue ν (Statement ν)) :
    Dialogue ν Resolution := do
  let found := prepared.bind fun statement => .done (statement.hits s.engine s.catalog)
  let candidates ← found.mapError (Error.subSearch role)
  let picked ← pick role q.goodThreshold candidates
  Dialogue.report (.settled role q picked) (pure ())
  match picked with
  | none => return .unresolved
  | some hit => return .resolved hit.id

/-- Settle the sub-queries of a query within another and compile it. -/
def prepareWithin (s : Store ν) (threshold : ν) (debug : Bool) :
    Query ν → Dialogue ν (Statement ν)
  | ⟨c, tvshow, credits, cast⟩ => do
    let logged := c.debug || debug
    let tvshowIs ← match tvshow with
      | none => pure .notRequested
      | some q => settle s .tvshow (q.within threshold logged) (q.prepareWithin s threshold logged)
    let creditsIs ← match credits with
      | none => pure .notRequested
      | some q => settle s .credits (q.within threshold logged) (q.prepareWithin s threshold logged)
    let castIs ← match cast with
      | none => pure .notRequested
      | some q => settle s .cast (q.within threshold logged) (q.prepareWithin s threshold logged)
    let q : Query ν := ⟨c.within threshold debug, tvshow, credits, cast⟩
    let statement := q.compile ⟨tvshowIs, creditsIs, castIs⟩ s.fuzzy
    .report (.compiled q statement) (pure statement)
termination_by structural q => q

/-- Settle the sub-queries of a query and compile it. -/
def prepare (s : Store ν) (q : Query ν) : Dialogue ν (Statement ν) :=
  q.prepareWithin s q.goodThreshold false

/-- Settle the sub-queries of a query and run it. -/
def search (s : Store ν) (q : Query ν) : Dialogue ν (List (Hit ν)) := do
  let statement ← q.prepare s
  .done (statement.hits s.engine s.catalog)

end Query

end Filmography
