import Filmography.Catalog.Basic
import Filmography.Data.Record

/-!
# The data files

The catalogue is filled from six data files, one for each table but that of the names. A record of
an entity also gives the entity its name. A record with the key of an earlier one replaces it.
-/

namespace Filmography

/-- A data file. -/
inductive DataFile where
  /-- The movies. -/
  | movies
  /-- The TV shows. -/
  | tvshows
  /-- The episodes. -/
  | episodes
  /-- The actors. -/
  | actors
  /-- The ratings. -/
  | ratings
  /-- The credits. -/
  | credits
deriving DecidableEq, Repr

namespace DataFile

/-- All data files, in the order in which they are loaded. -/
def all : List DataFile := [movies, tvshows, episodes, actors, ratings, credits]

/-- The name of a data file that is not compressed. -/
def fileName : DataFile → Text
  | movies => "movies.tsv".toList
  | tvshows => "tvshows.tsv".toList
  | episodes => "episodes.tsv".toList
  | actors => "actors.tsv".toList
  | ratings => "ratings.tsv".toList
  | credits => "credits.tsv".toList

/-- The name of a data file that is compressed. -/
def compressedName (f : DataFile) : Text :=
  f.fileName ++ ".gz".toList

/-- What the records of a data file look like. -/
abbrev schema : DataFile → Schema
  | movies => ⟨"Movie", [⟨"atom_id", .atom⟩, ⟨"title", .text⟩, ⟨"year", .optional⟩,
      ⟨"sequence", .text⟩, ⟨"tv", .flag⟩, ⟨"video", .flag⟩]⟩
  | tvshows => ⟨"TvShow", [⟨"atom_id", .atom⟩, ⟨"title", .text⟩, ⟨"year", .optional⟩,
      ⟨"sequence", .text⟩, ⟨"year_start", .optional⟩, ⟨"year_end", .optional⟩]⟩
  | episodes => ⟨"Episode", [⟨"atom_id", .atom⟩, ⟨"tvshow_atom_id", .atom⟩, ⟨"title", .text⟩,
      ⟨"year", .optional⟩, ⟨"season", .optional⟩, ⟨"episode", .optional⟩]⟩
  | actors => ⟨"Actor", [⟨"atom_id", .atom⟩, ⟨"full_name", .text⟩, ⟨"sequence", .text⟩]⟩
  | ratings => ⟨"Rating", [⟨"atom_id", .atom⟩, ⟨"votes", .number⟩, ⟨"rank", .number⟩]⟩
  | credits => ⟨"Credit", [⟨"actor_atom_id", .atom⟩, ⟨"media_atom_id", .atom⟩,
      ⟨"character", .text⟩, ⟨"position", .optional⟩, ⟨"attrs", .text⟩]⟩

end DataFile

/-! ### Records as rows -/

/-- A number as the tables hold it. -/
def storedWord (n : UInt32) : Int := Int.ofNat n.toNat

/-- A truth value as the tables hold it. -/
def storedFlag (b : Bool) : Int := if b then 1 else 0

/-- The row for a record of a movie. -/
def MovieRow.ofRecord : DataFile.movies.schema.Record → MovieRow
  | (atom, title, year, sequence, tv, video, ()) =>
    ⟨atom.toInt, title, year.map storedWord, sequence, storedFlag tv, storedFlag video⟩

/-- The row for a record of a TV show. -/
def TvshowRow.ofRecord : DataFile.tvshows.schema.Record → TvshowRow
  | (atom, title, year, sequence, yearStart, yearEnd, ()) =>
    ⟨atom.toInt, title, year.map storedWord, sequence, yearStart.map storedWord,
      yearEnd.map storedWord⟩

/-- The row for a record of an episode. -/
def EpisodeRow.ofRecord : DataFile.episodes.schema.Record → EpisodeRow
  | (atom, tvshow, title, year, season, number, ()) =>
    ⟨atom.toInt, tvshow.toInt, title, year.map storedWord, season.map storedWord,
      number.map storedWord⟩

/-- The row for a record of an actor. -/
def ActorRow.ofRecord : DataFile.actors.schema.Record → ActorRow
  | (atom, fullName, sequence, ()) => ⟨atom.toInt, fullName, sequence⟩

/-- The row for a record of a rating. -/
def RatingRow.ofRecord : DataFile.ratings.schema.Record → RatingRow
  | (atom, votes, rank, ()) => ⟨atom.toInt, storedWord votes, storedWord rank⟩

/-- The row for a record of a credit. -/
def CreditRow.ofRecord : DataFile.credits.schema.Record → CreditRow
  | (actor, media, character, position, attrs, ()) =>
    ⟨actor.toInt, media.toInt, character, position.map storedWord, attrs⟩

namespace Catalog

/-- The catalogue with a movie and its name. -/
def putMovie (c : Catalog) (r : MovieRow) : Catalog :=
  { c with movies := c.movies.put r, names := c.names.put ⟨r.atom, r.title⟩ }

/-- The catalogue with a TV show and its name. -/
def putTvshow (c : Catalog) (r : TvshowRow) : Catalog :=
  { c with tvshows := c.tvshows.put r, names := c.names.put ⟨r.atom, r.title⟩ }

/-- The catalogue with an episode and its name. -/
def putEpisode (c : Catalog) (r : EpisodeRow) : Catalog :=
  { c with episodes := c.episodes.put r, names := c.names.put ⟨r.atom, r.title⟩ }

/-- The catalogue with an actor and its name. -/
def putActor (c : Catalog) (r : ActorRow) : Catalog :=
  { c with actors := c.actors.put r, names := c.names.put ⟨r.atom, r.fullName⟩ }

/-- The catalogue with a rating. -/
def putRating (c : Catalog) (r : RatingRow) : Catalog :=
  { c with ratings := c.ratings.put r }

/-- The catalogue with a credit. -/
def putCredit (c : Catalog) (r : CreditRow) : Catalog :=
  { c with credits := c.credits.put r }

/-- The catalogue with a record of a data file. -/
def put (c : Catalog) : (f : DataFile) → f.schema.Record → Catalog
  | .movies, r => c.putMovie (.ofRecord r)
  | .tvshows, r => c.putTvshow (.ofRecord r)
  | .episodes, r => c.putEpisode (.ofRecord r)
  | .actors, r => c.putActor (.ofRecord r)
  | .ratings, r => c.putRating (.ofRecord r)
  | .credits, r => c.putCredit (.ofRecord r)

/-- The catalogue with records of a data file, the first record first. -/
def putAll (c : Catalog) (f : DataFile) (records : List f.schema.Record) : Catalog :=
  records.foldl (fun c r => c.put f r) c

end Catalog

end Filmography
