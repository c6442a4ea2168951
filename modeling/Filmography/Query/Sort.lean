import Filmography.Text.LowerCase

/-!
# Sort keys

A sort key is a column and a direction. Every column has a direction of its own, which counts when
a key does not name one: the columns by which the best comes first descend, the others ascend.
-/

namespace Filmography

/-- A column that results can be sorted by. -/
inductive SortColumn where
  /-- The name of the kind. -/
  | entity
  /-- The atom. -/
  | id
  /-- The name. -/
  | name
  /-- The year, zero if unknown. -/
  | year
  /-- The similarity with the text of the query. -/
  | similarity
  /-- The rank, zero if there is no rating. -/
  | rank
  /-- The number of votes, zero if there is no rating. -/
  | votes
  /-- The season of an episode. -/
  | season
  /-- The number of an episode in its season. -/
  | episode
  /-- The billing position of a credit. -/
  | billing
deriving DecidableEq, Repr

/-- The direction of a sort key. -/
inductive Direction where
  /-- Smallest first. -/
  | asc
  /-- Largest first. -/
  | desc
deriving DecidableEq, Repr

namespace SortColumn

/-- All columns, in the order in which they are listed to a person. -/
def all : List SortColumn :=
  [entity, id, name, year, similarity, rank, votes, season, episode, billing]

/-- The words for a column, in lower case, the canonical one first. -/
def words : SortColumn → List String
  | entity => ["entity", "kind"]
  | id => ["id", "atom"]
  | name => ["name", "title"]
  | year => ["year"]
  | similarity => ["similarity", "sim"]
  | rank => ["rank"]
  | votes => ["votes"]
  | season => ["season"]
  | episode => ["episode"]
  | billing => ["billing", "billed", "position"]

/-- The canonical name of a column. -/
def text (c : SortColumn) : Text :=
  (c.words.headD "").toList

/-- The direction of a key that names none. -/
def defaultDirection : SortColumn → Direction
  | year | similarity | rank | votes => .desc
  | entity | id | name | season | episode | billing => .asc

/-- The column that a word names in any letter case, or the lower-case word if there is none. -/
def parse (t : Text) : Except Text SortColumn :=
  let word := t.lower
  match all.find? fun c => c.words.any fun w => w.toList == word with
  | some c => .ok c
  | none => .error word

end SortColumn

namespace Direction

/-- The canonical name of a direction. -/
def text : Direction → Text
  | asc => "asc".toList
  | desc => "desc".toList

/-- The words for a direction, in lower case. -/
def words : Direction → List String
  | asc => ["asc", "ascending"]
  | desc => ["desc", "descending"]

/-- The direction that a word names in any letter case, or the lower-case word if there is
none. -/
def parse (t : Text) : Except Text Direction :=
  let word := t.lower
  match [asc, desc].find? fun d => d.words.any fun w => w.toList == word with
  | some d => .ok d
  | none => .error word

end Direction

/-- A sort key. -/
structure SortKey where
  /-- What is compared. -/
  column : SortColumn
  /-- Which end comes first. -/
  direction : Direction
deriving DecidableEq, Repr

/-- What is wrong with a text that should be a sort key. -/
inductive SortFault where
  /-- A word names no column, or no direction. -/
  | unknown (word : Text)
  /-- There are no words, or more than two. -/
  | wordCount
deriving DecidableEq, Repr

namespace SortKey

/-- A sort key as text: column and direction. -/
def print (k : SortKey) : Text :=
  k.column.text ++ ' ' :: k.direction.text

/-- Read a sort key: a column and an optional direction, among white space. -/
def parse (t : Text) : Except SortFault SortKey :=
  match t.words with
  | [column] => do
    let c ← (SortColumn.parse column).mapError .unknown
    return ⟨c, c.defaultDirection⟩
  | [column, direction] => do
    let c ← (SortColumn.parse column).mapError .unknown
    let d ← (Direction.parse direction).mapError .unknown
    return ⟨c, d⟩
  | _ => .error .wordCount

end SortKey

end Filmography
