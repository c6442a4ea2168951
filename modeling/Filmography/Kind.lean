import Filmography.Text.LowerCase

/-!
# Kinds of entities

Every entity of the catalogue is a movie, a TV show, an episode or an actor. The order of the
kinds matters: an atom that occurs in the tables of several kinds counts as the first of them.
-/

namespace Filmography

/-- The kind of an entity. -/
inductive Kind where
  /-- A movie. -/
  | movie
  /-- A TV show. -/
  | tvshow
  /-- An episode of a TV show. -/
  | episode
  /-- An actor. -/
  | actor
deriving DecidableEq, Repr

namespace Kind

/-- All kinds, in the order in which they take precedence. -/
def all : List Kind := [movie, tvshow, episode, actor]

/-- The kinds that can have a cast. -/
def media : List Kind := [movie, tvshow, episode]

/-- The canonical name of a kind. -/
def name : Kind → Text
  | movie => "movie".toList
  | tvshow => "tvshow".toList
  | episode => "episode".toList
  | actor => "actor".toList

/-- The words for a kind, in lower case. -/
def words : Kind → List String
  | movie => ["movie", "movies", "film"]
  | tvshow => ["tvshow", "tvshows", "tv", "tvseries"]
  | episode => ["episode", "episodes", "tvepisode"]
  | actor => ["actor", "actors", "actress"]

/-- The kind that a lower-case word names. -/
def ofWord? (word : Text) : Option Kind :=
  all.find? fun k => k.words.any fun w => w.toList == word

/-- The kind that a word names in any letter case, or the lower-case word if there is none. -/
def parse (t : Text) : Except Text Kind :=
  match ofWord? t.lower with
  | some k => .ok k
  | none => .error t.lower

/-- The place of a kind in the order of precedence. -/
def rank : Kind → Nat
  | movie => 0
  | tvshow => 1
  | episode => 2
  | actor => 3

instance : Ord Kind := ⟨fun a b => compare a.rank b.rank⟩

/-- Every kind is listed. -/
theorem mem_all (k : Kind) : k ∈ all := by
  cases k <;> decide

end Kind

end Filmography
