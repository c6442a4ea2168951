import Filmography.Text.LowerCase

/-!
# Directives

A directive is a token in braces, a name alone or a name and an argument after a colon. This module
is the table of directives: their names, their synonyms and a description of each for people. What
a directive does to a query is said by its handler, in `Filmography.Query.Handler`.
-/

namespace Filmography

/-- The directives of the query syntax. -/
inductive Directive where
  /-- Seek movies. -/
  | movie
  /-- Seek TV shows. -/
  | tvshow
  /-- Seek episodes. -/
  | episode
  /-- Seek actors. -/
  | actor
  /-- Restrict the year. -/
  | years
  /-- Restrict the rank. -/
  | rank
  /-- Restrict the number of votes. -/
  | votes
  /-- Restrict the billing position. -/
  | billed
  /-- Restrict the season, and seek episodes. -/
  | seasons
  /-- Restrict the number of an episode, and seek episodes. -/
  | episodes
  /-- Leave out movies made for TV. -/
  | notv
  /-- Leave out movies made for video. -/
  | novideo
  /-- Limit the number of results. -/
  | limit
  /-- Add a sort key. -/
  | sort
  /-- Seek the episodes of a TV show. -/
  | «show»
  /-- Seek the cast of a movie, TV show or episode. -/
  | credits
  /-- Seek the credits of an actor. -/
  | cast
  /-- Set the least similarity. -/
  | similar
  /-- Turn matching by similarity off. -/
  | nofuzzy
  /-- Ignore letter case. -/
  | nocase
  /-- Log the compiled statement. -/
  | debug
deriving DecidableEq, Repr

namespace Directive

/-- All directives, in the order in which they are listed to a person. -/
def all : List Directive :=
  [movie, tvshow, episode, actor, years, rank, votes, billed, seasons, episodes, notv, novideo,
    limit, sort, «show», credits, cast, similar, nofuzzy, nocase, debug]

/-- The canonical name of a directive. -/
def name : Directive → String
  | movie => "movie"
  | tvshow => "tvshow"
  | episode => "episode"
  | actor => "actor"
  | years => "years"
  | rank => "rank"
  | votes => "votes"
  | billed => "billed"
  | seasons => "seasons"
  | episodes => "episodes"
  | notv => "notv"
  | novideo => "novideo"
  | limit => "limit"
  | sort => "sort"
  | «show» => "show"
  | credits => "credits"
  | cast => "cast"
  | similar => "similar"
  | nofuzzy => "nofuzzy"
  | nocase => "nocase"
  | debug => "debug"

/-- The other names of a directive. -/
def synonyms : Directive → List String
  | movie => ["movies"]
  | tvshow => ["tv", "tvshows"]
  | actor => ["actors"]
  | years => ["year"]
  | billed => ["billing"]
  | seasons => ["s"]
  | episodes => ["e"]
  | similar => ["sim"]
  | _ => []

/-- What a directive is for. -/
def description : Directive → String
  | movie => "limit results to movies"
  | tvshow => "limit results to TV shows"
  | episode => "limit results to episodes"
  | actor => "limit results to actors"
  | years => "limit results to the given range of years"
  | rank => "limit results to ratings with a rank (0-100) in range"
  | votes => "limit results to ratings with a vote count in range"
  | billed => "limit credits to the given billing positions"
  | seasons => "limit episodes to the given seasons"
  | episodes => "limit episodes to the given episode numbers"
  | notv => "exclude movies made for TV"
  | novideo => "exclude movies made for video"
  | limit => "return at most N results (a negative N removes the cap)"
  | sort => "order results by a column, may be repeated"
  | «show» => "limit results to episodes of the TV show found by QUERY"
  | credits => "limit results to the cast of the media found by QUERY"
  | cast => "limit results to media crediting the actor found by QUERY"
  | similar => "the minimum similarity (0.0-1.0) of fuzzy name matches"
  | nofuzzy => "match names exactly instead of by similarity"
  | nocase => "match names case insensitively when not fuzzy"
  | debug => "log the compiled SQL of the search"

/-- A directive without its argument in braces, or with a placeholder for it. -/
def braced (name : Text) (argument : Option Text) : Text :=
  match argument with
  | none => '{' :: name ++ ['}']
  | some a => '{' :: name ++ ':' :: a ++ ['}']

/-- The names under which a directive is found. -/
def names (d : Directive) : List String :=
  d.name :: d.synonyms

/-- The directive with the given name or synonym, in any letter case. -/
def find? (name : Text) : Option Directive :=
  let word := name.lower
  all.find? fun d => d.names.any fun n => n.toList == word

end Directive

end Filmography
