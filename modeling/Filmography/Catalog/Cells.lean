import Filmography.Catalog.Basic

/-!
# Tables as cells

Seen from outside, a table consists of rows of cells, a cell being an integer, a text or nothing.
`Catalog.cells` lists the rows of a table in the order of their keys, and `Catalog.putCells` puts a
row into a table, without regard to what the other tables hold.
-/

namespace Filmography

/-- What stands in a column of a row. -/
inductive Cell where
  /-- Nothing. -/
  | null
  /-- An integer. -/
  | integer (n : Int)
  /-- A text. -/
  | text (t : Text)
deriving DecidableEq, Repr

namespace Cell

/-- An integer that may be missing. -/
def ofOption : Option Int → Cell
  | none => null
  | some n => integer n

/-- The integer in a cell. -/
def integer? : Cell → Option Int
  | integer n => some n
  | _ => none

/-- The text in a cell. -/
def text? : Cell → Option Text
  | text t => some t
  | _ => none

/-- The integer in a cell that may be empty. -/
def optional? : Cell → Option (Option Int)
  | null => some none
  | integer n => some (some n)
  | text _ => none

end Cell

/-- The tables of a catalogue. -/
inductive TableName where
  /-- The names of all entities. -/
  | name
  /-- The movies. -/
  | movie
  /-- The TV shows. -/
  | tvshow
  /-- The episodes. -/
  | episode
  /-- The actors. -/
  | actor
  /-- The ratings. -/
  | rating
  /-- The credits. -/
  | credit
deriving DecidableEq, Repr

namespace TableName

/-- All tables. -/
def all : List TableName := [name, movie, tvshow, episode, actor, rating, credit]

/-- The name of a table as text. -/
def text : TableName → Text
  | name => "name".toList
  | movie => "movie".toList
  | tvshow => "tvshow".toList
  | episode => "episode".toList
  | actor => "actor".toList
  | rating => "rating".toList
  | credit => "credit".toList

/-- The table that a text names. -/
def ofText? (t : Text) : Option TableName :=
  all.find? fun n => n.text = t

end TableName

/-! ### Rows as cells -/

/-- The cells of a row. -/
def NameRow.cells (r : NameRow) : List Cell :=
  [.integer r.atom, .text r.name]

/-- The cells of a row. -/
def MovieRow.cells (r : MovieRow) : List Cell :=
  [.integer r.atom, .text r.title, .ofOption r.year, .text r.sequence, .integer r.tv,
    .integer r.video]

/-- The cells of a row. -/
def TvshowRow.cells (r : TvshowRow) : List Cell :=
  [.integer r.atom, .text r.title, .ofOption r.year, .text r.sequence, .ofOption r.yearStart,
    .ofOption r.yearEnd]

/-- The cells of a row. -/
def EpisodeRow.cells (r : EpisodeRow) : List Cell :=
  [.integer r.atom, .integer r.tvshow, .text r.title, .ofOption r.year, .ofOption r.season,
    .ofOption r.number]

/-- The cells of a row. -/
def ActorRow.cells (r : ActorRow) : List Cell :=
  [.integer r.atom, .text r.fullName, .text r.sequence]

/-- The cells of a row. -/
def RatingRow.cells (r : RatingRow) : List Cell :=
  [.integer r.atom, .integer r.votes, .integer r.rank]

/-- The cells of a row. -/
def CreditRow.cells (r : CreditRow) : List Cell :=
  [.integer r.actor, .integer r.media, .text r.character, .ofOption r.position, .text r.attrs]

/-- The row with given cells. -/
def NameRow.ofCells? : List Cell → Option NameRow
  | [atom, name] => return ⟨← atom.integer?, ← name.text?⟩
  | _ => none

/-- The row with given cells. -/
def MovieRow.ofCells? : List Cell → Option MovieRow
  | [atom, title, year, sequence, tv, video] =>
    return ⟨← atom.integer?, ← title.text?, ← year.optional?, ← sequence.text?, ← tv.integer?,
      ← video.integer?⟩
  | _ => none

/-- The row with given cells. -/
def TvshowRow.ofCells? : List Cell → Option TvshowRow
  | [atom, title, year, sequence, yearStart, yearEnd] =>
    return ⟨← atom.integer?, ← title.text?, ← year.optional?, ← sequence.text?,
      ← yearStart.optional?, ← yearEnd.optional?⟩
  | _ => none

/-- The row with given cells. -/
def EpisodeRow.ofCells? : List Cell → Option EpisodeRow
  | [atom, tvshow, title, year, season, number] =>
    return ⟨← atom.integer?, ← tvshow.integer?, ← title.text?, ← year.optional?,
      ← season.optional?, ← number.optional?⟩
  | _ => none

/-- The row with given cells. -/
def ActorRow.ofCells? : List Cell → Option ActorRow
  | [atom, fullName, sequence] =>
    return ⟨← atom.integer?, ← fullName.text?, ← sequence.text?⟩
  | _ => none

/-- The row with given cells. -/
def RatingRow.ofCells? : List Cell → Option RatingRow
  | [atom, votes, rank] => return ⟨← atom.integer?, ← votes.integer?, ← rank.integer?⟩
  | _ => none

/-- The row with given cells. -/
def CreditRow.ofCells? : List Cell → Option CreditRow
  | [actor, media, character, position, attrs] =>
    return ⟨← actor.integer?, ← media.integer?, ← character.text?, ← position.optional?,
      ← attrs.text?⟩
  | _ => none

/-! ### Tables as cells -/

namespace Catalog

/-- Smaller atoms come first. -/
def atomLE (a b : Int) : Bool := a ≤ b

/-- The rows of a table in the order of their keys. -/
def cells (c : Catalog) : TableName → List (List Cell)
  | .name => (c.names.sorted atomLE).map NameRow.cells
  | .movie => (c.movies.sorted atomLE).map MovieRow.cells
  | .tvshow => (c.tvshows.sorted atomLE).map TvshowRow.cells
  | .episode => (c.episodes.sorted atomLE).map EpisodeRow.cells
  | .actor => (c.actors.sorted atomLE).map ActorRow.cells
  | .rating => (c.ratings.sorted atomLE).map RatingRow.cells
  | .credit => (c.credits.sorted CreditRow.keyLE).map CreditRow.cells

/-- The catalogue with a row put into a table, if its cells make one. -/
def putCells (c : Catalog) (cells : List Cell) : TableName → Option Catalog
  | .name => (NameRow.ofCells? cells).map fun r => { c with names := c.names.put r }
  | .movie => (MovieRow.ofCells? cells).map fun r => { c with movies := c.movies.put r }
  | .tvshow => (TvshowRow.ofCells? cells).map fun r => { c with tvshows := c.tvshows.put r }
  | .episode => (EpisodeRow.ofCells? cells).map fun r => { c with episodes := c.episodes.put r }
  | .actor => (ActorRow.ofCells? cells).map fun r => { c with actors := c.actors.put r }
  | .rating => (RatingRow.ofCells? cells).map fun r => { c with ratings := c.ratings.put r }
  | .credit => (CreditRow.ofCells? cells).map fun r => { c with credits := c.credits.put r }

end Catalog

end Filmography
