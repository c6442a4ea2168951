import Filmography.Atom
import Filmography.Kind
import Filmography.Search.Score

/-!
# Results of a search

A hit is an entity that a search found: what it is, its name, what is special about its kind, its
rating, and the credit that joins it to a sub-query. It is shown as its name, its year and its
attributes.
-/

namespace Filmography

/-- The rating of an entity; one without a rating has no votes and rank zero. -/
structure Ranking where
  /-- The number of votes. -/
  votes : UInt32
  /-- The rank, from 0 to 100. -/
  rank : UInt32
deriving DecidableEq, Repr

/-- The credit that joins a hit to a sub-query. -/
structure Credited where
  /-- The actor. -/
  actor : Atom
  /-- The movie, TV show or episode. -/
  media : Atom
  /-- The character. -/
  character : Text
  /-- The billing position. -/
  position : Option UInt32
  /-- Further remarks. -/
  attrs : Text
deriving DecidableEq, Repr

/-- An entity that a search found. -/
structure Hit (ν : Type := Float) where
  /-- Its kind. -/
  kind : Kind
  /-- Its atom. -/
  id : Atom
  /-- Its name. -/
  name : Text
  /-- Its year, zero if there is none. -/
  year : UInt32
  /-- What is special about it, as text. -/
  attrs : Text
  /-- The similarity of its name, or the mark for none. -/
  similarity : ν
  /-- Its rating. -/
  ranking : Ranking
  /-- The credit that joins it to a sub-query. -/
  credit : Option Credited

/-- What is special about an entity of a kind. -/
inductive Attributes where
  /-- Whether a movie was made for TV or for video. -/
  | movie (tv video : Bool)
  /-- When a TV show started and ended. -/
  | tvshow (start finish : Option UInt32)
  /-- The TV show of an episode, and where it stands in it. -/
  | episode (tvshow : Text) (season number : Option UInt32)
  /-- Nothing is special about an actor. -/
  | actor

namespace Attributes

/-- A year, with marks for an unknown one. -/
def yearText : Option UInt32 → Text
  | none => "????".toList
  | some y => Text.ofNat y.toNat

/-- Attributes as text. The season and the number of an episode are only told together. -/
def print : Attributes → Text
  | movie tv video =>
    Text.joined [' '] ((if tv then ["(TV)".toList] else []) ++
      if video then ["(V)".toList] else [])
  | tvshow start finish => yearText start ++ '-' :: yearText finish
  | episode title (some s) (some e) =>
    "(TV show: ".toList ++ title ++ ", #".toList ++ Text.ofNat s.toNat ++ '.' ::
      Text.ofNat e.toNat ++ [')']
  | episode title _ _ => "(TV show: ".toList ++ title ++ [')']
  | actor => []

end Attributes

namespace Hit

variable {ν : Type}

/-- A hit as text: its name, its year if it has one, and its attributes if there are any. -/
def print (h : Hit ν) : Text :=
  h.name ++
    (if 0 < h.year then " (".toList ++ Text.ofNat h.year.toNat ++ [')'] else []) ++
    if h.attrs = [] then [] else ' ' :: h.attrs

/-- Whether the name of a hit was compared by similarity. -/
def hasSimilarity [Score ν] (h : Hit ν) : Bool :=
  Score.isMeasured h.similarity

end Hit

end Filmography
