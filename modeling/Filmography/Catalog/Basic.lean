import Filmography.Catalog.Table
import Filmography.Kind

/-!
# The catalogue

The catalogue consists of seven tables. The name table gives every entity its name, by its atom;
one table for each kind holds what only entities of that kind have; ratings and credits refer to
entities by atom.

The tables hold integers as they are: that atoms are not zero and that numbers fit in 32 bits is
what loading sees to, and what decoding a row checks. Flags are zero or one.
-/

namespace Filmography

/-- The name of an entity. -/
structure NameRow where
  /-- The entity. -/
  atom : Int
  /-- Its name. -/
  name : Text
deriving DecidableEq, Repr

/-- A movie. -/
structure MovieRow where
  /-- The entity. -/
  atom : Int
  /-- Its title. -/
  title : Text
  /-- The year of its release. -/
  year : Option Int
  /-- What tells it from movies of the same title and year. -/
  sequence : Text
  /-- Whether it was made for TV. -/
  tv : Int
  /-- Whether it was made for video. -/
  video : Int
deriving DecidableEq, Repr

/-- A TV show. -/
structure TvshowRow where
  /-- The entity. -/
  atom : Int
  /-- Its title. -/
  title : Text
  /-- The year it is known by. -/
  year : Option Int
  /-- What tells it from shows of the same title and year. -/
  sequence : Text
  /-- The year it started. -/
  yearStart : Option Int
  /-- The year it ended. -/
  yearEnd : Option Int
deriving DecidableEq, Repr

/-- An episode of a TV show. -/
structure EpisodeRow where
  /-- The entity. -/
  atom : Int
  /-- The TV show it belongs to. -/
  tvshow : Int
  /-- Its title. -/
  title : Text
  /-- The year it aired. -/
  year : Option Int
  /-- Its season. -/
  season : Option Int
  /-- Its number in the season. -/
  number : Option Int
deriving DecidableEq, Repr

/-- An actor. -/
structure ActorRow where
  /-- The entity. -/
  atom : Int
  /-- The full name. -/
  fullName : Text
  /-- What tells the actor from others of the same name. -/
  sequence : Text
deriving DecidableEq, Repr

/-- The rating of an entity. -/
structure RatingRow where
  /-- The entity. -/
  atom : Int
  /-- The number of votes. -/
  votes : Int
  /-- The rank, from 0 to 100. -/
  rank : Int
deriving DecidableEq, Repr

/-- The credit of an actor for a character. -/
structure CreditRow where
  /-- The actor. -/
  actor : Int
  /-- The movie, TV show or episode. -/
  media : Int
  /-- The character. -/
  character : Text
  /-- The billing position. -/
  position : Option Int
  /-- Further remarks. -/
  attrs : Text
deriving DecidableEq, Repr

/-- What identifies a credit: actor, media and character. -/
def CreditRow.key (r : CreditRow) : Int × Int × Text :=
  (r.actor, r.media, r.character)

/-- Credits are listed by actor, then by media, then by character. -/
def CreditRow.keyLE (a b : Int × Int × Text) : Bool :=
  ((compare a.1 b.1).then ((compare a.2.1 b.2.1).then (compare a.2.2 b.2.2))).isLE

/-- The seven tables. -/
structure Catalog where
  /-- The names of all entities. -/
  names : Table NameRow.atom := Table.empty
  /-- The movies. -/
  movies : Table MovieRow.atom := Table.empty
  /-- The TV shows. -/
  tvshows : Table TvshowRow.atom := Table.empty
  /-- The episodes. -/
  episodes : Table EpisodeRow.atom := Table.empty
  /-- The actors. -/
  actors : Table ActorRow.atom := Table.empty
  /-- The ratings. -/
  ratings : Table RatingRow.atom := Table.empty
  /-- The credits. -/
  credits : Table CreditRow.key := Table.empty

namespace Catalog

/-- The catalogue without entities. -/
def empty : Catalog := {}

/-- Whether an atom is in the table of a kind. -/
def has (c : Catalog) (k : Kind) (atom : Int) : Bool :=
  match k with
  | .movie => (c.movies.find? atom).isSome
  | .tvshow => (c.tvshows.find? atom).isSome
  | .episode => (c.episodes.find? atom).isSome
  | .actor => (c.actors.find? atom).isSome

end Catalog

end Filmography
