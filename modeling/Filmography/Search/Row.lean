import Filmography.Catalog.Basic
import Filmography.Error
import Filmography.Query.Sort
import Filmography.Search.Hit

/-!
# Rows of a search

A search goes through the names of the catalogue. Every name is joined with the rows of its atom in
the other tables, with the TV show of its episode, and with its credits where a search asks for
them. What is missing in a table is `none`, and so is everything that is read off it.

`Catalog.joined` lists the joined rows. `Row.decode` turns a row into a hit and checks that every
number fits its field.
-/

namespace Filmography

/-- The end of a credit at which a name is joined with it. -/
inductive CreditEnd where
  /-- The name is that of the actor. -/
  | actor
  /-- The name is that of the movie, TV show or episode. -/
  | media
deriving DecidableEq, Repr

/-- The atom at an end of a credit. -/
def CreditEnd.atom (e : CreditEnd) (r : CreditRow) : Int :=
  match e with
  | actor => r.actor
  | media => r.media

/-- A name and what the other tables hold for it. -/
structure Joined where
  /-- The name. -/
  name : NameRow
  /-- The movie with its atom. -/
  movie : Option MovieRow
  /-- The TV show with its atom. -/
  tvshow : Option TvshowRow
  /-- The episode with its atom. -/
  episode : Option EpisodeRow
  /-- The TV show that the episode belongs to. -/
  parent : Option TvshowRow
  /-- The actor with its atom. -/
  actor : Option ActorRow
  /-- The rating with its atom. -/
  rating : Option RatingRow
  /-- The credit with which it is joined. -/
  credit : Option CreditRow
deriving DecidableEq, Repr

namespace Catalog

/-- A name joined with everything but credits. -/
def joinedName (c : Catalog) (n : NameRow) (credit : Option CreditRow) : Joined :=
  let episode := c.episodes.find? n.atom
  { name := n
    movie := c.movies.find? n.atom
    tvshow := c.tvshows.find? n.atom
    episode := episode
    parent := episode.bind fun e => c.tvshows.find? e.tvshow
    actor := c.actors.find? n.atom
    rating := c.ratings.find? n.atom
    credit := credit }

/-- The credits with which a name is joined: none if a search asks for no credits, and otherwise
each of its credits at the given end. -/
def joinedCredits (c : Catalog) (join : Option CreditEnd) (n : NameRow) :
    List (Option CreditRow) :=
  match join with
  | none => [none]
  | some e => (c.credits.rows.filter fun r => e.atom r = n.atom).map some

/-- All names, joined. -/
def joined (c : Catalog) (join : Option CreditEnd) : List Joined :=
  c.names.rows.flatMap fun n => (c.joinedCredits join n).map (c.joinedName n)

end Catalog

namespace Joined

/-- Whether an atom is in the table of a kind. -/
def isKind (j : Joined) : Kind → Bool
  | .movie => j.movie.isSome
  | .tvshow => j.tvshow.isSome
  | .episode => j.episode.isSome
  | .actor => j.actor.isSome

/-- The first kind whose table holds the atom. -/
def kind? (j : Joined) : Option Kind :=
  Kind.all.find? j.isKind

/-- The atom, if it is in the table of some kind. -/
def id? (j : Joined) : Option Int :=
  (j.movie.map (·.atom)).or ((j.tvshow.map (·.atom)).or
    ((j.episode.map (·.atom)).or (j.actor.map (·.atom))))

/-- The first year that is known: that of the movie, the TV show or the episode. -/
def year? (j : Joined) : Option Int :=
  (j.movie.bind (·.year)).or ((j.tvshow.bind (·.year)).or (j.episode.bind (·.year)))

/-- The number of votes. -/
def votes? (j : Joined) : Option Int := j.rating.map (·.votes)

/-- The rank. -/
def rank? (j : Joined) : Option Int := j.rating.map (·.rank)

/-- The season of the episode. -/
def season? (j : Joined) : Option Int := j.episode.bind (·.season)

/-- The number of the episode. -/
def number? (j : Joined) : Option Int := j.episode.bind (·.number)

/-- The billing position of the credit. -/
def position? (j : Joined) : Option Int := j.credit.bind (·.position)

end Joined

/-- Where no credit is joined, nothing has a billing position. -/
theorem Catalog.position?_of_mem_joined {c : Catalog} {j : Joined} (h : j ∈ c.joined none) :
    j.position? = none := by
  obtain ⟨n, -, h⟩ := List.mem_flatMap.mp h
  obtain ⟨credit, hcredit, rfl⟩ := List.mem_map.mp h
  rw [List.mem_singleton.mp hcredit]
  rfl

/-- A row that a search yields: joined tables, and the similarity of the name if it was compared by
similarity. -/
structure Row where
  /-- The joined tables. -/
  joined : Joined
  /-- The similarity of the name. -/
  similarity : Option Rat

namespace Row

/-- The columns of a row, by the place at which they are reported. -/
inductive Field where
  /-- The atom. -/
  | id
  /-- The year. -/
  | year
  /-- The votes. -/
  | votes
  /-- The rank. -/
  | rank
  /-- The first year of a TV show. -/
  | yearStart
  /-- The last year of a TV show. -/
  | yearEnd
  /-- The season. -/
  | season
  /-- The number of an episode. -/
  | number
  /-- The actor of a credit. -/
  | creditActor
  /-- The media of a credit. -/
  | creditMedia
  /-- The billing position. -/
  | position

/-- The place of a column, counted from zero. -/
def Field.index : Field → Nat
  | id => 1
  | year => 3
  | votes => 5
  | rank => 6
  | yearStart => 9
  | yearEnd => 10
  | season => 12
  | number => 13
  | creditActor => 14
  | creditMedia => 15
  | position => 17

/-- A number in a column, which must fit in 32 bits. -/
def word (f : Field) (n : Int) : Except Error UInt32 :=
  if 0 ≤ n ∧ n < 0x100000000 then .ok (UInt32.ofNat n.toNat)
  else .error (.database (.outOfRange n f.index))

/-- A number in a column that may be missing. -/
def word? (f : Field) : Option Int → Except Error (Option UInt32)
  | none => .ok none
  | some n => some <$> word f n

/-- An atom in a column, which must not be the reserved one. -/
def atom (f : Field) (n : Int) : Except Error Atom := do
  match Atom.ofWord? (← word f n) with
  | some a => return a
  | none => throw (.bug .reservedAtom)

/-- What is special about the entity of a row, given its kind. -/
def attributes (j : Joined) : Kind → Except Error Attributes
  | .movie => return .movie (j.movie.any (·.tv != 0)) (j.movie.any (·.video != 0))
  | .tvshow => do
    let start ← word? .yearStart (j.tvshow.bind (·.yearStart))
    let finish ← word? .yearEnd (j.tvshow.bind (·.yearEnd))
    return .tvshow start finish
  | .episode => do
    let season ← word? .season j.season?
    let number ← word? .number j.number?
    return .episode ((j.parent.map (·.title)).getD []) season number
  | .actor => return .actor

/-- The credit of a row. -/
def credited (r : CreditRow) : Except Error Credited := do
  let actorWord ← word .creditActor r.actor
  let some actor := Atom.ofWord? actorWord | throw (.bug .reservedAtom)
  let media ← atom .creditMedia r.media
  let position ← word? .position r.position
  return { actor, media, character := r.character, position, attrs := r.attrs }

/-- The hit that a row stands for. The columns are read in a fixed order, and the first that cannot
be read is reported. -/
def decode {ν : Type} [Score ν] (row : Row) : Except Error (Hit ν) := do
  let j := row.joined
  let some kind := j.kind? | throw (.bug .noKind)
  let id ← atom .id (j.id?.getD 0)
  let year ← word .year (j.year?.getD 0)
  let votes ← word .votes (j.votes?.getD 0)
  let rank ← word .rank (j.rank?.getD 0)
  let attributes ← attributes j kind
  let credit ← match j.credit with
    | none => pure none
    | some r => some <$> credited r
  return {
    kind, id, year, credit
    name := j.name.name
    attrs := attributes.print
    similarity := match row.similarity with
      | none => Score.unmeasured
      | some r => Score.ofRatio r
    ranking := ⟨votes, rank⟩ }

/-! ### Comparing rows -/

/-- Compare by a direction. What is missing comes last in both. -/
def directed {α : Type} (d : Direction) (cmp : α → α → Ordering) : Option α → Option α → Ordering
  | none, none => .eq
  | none, some _ => .gt
  | some _, none => .lt
  | some a, some b =>
    match d with
    | .asc => cmp a b
    | .desc => cmp b a

/-- Compare ratios. -/
def compareRatio (a b : Rat) : Ordering :=
  if a < b then .lt else if b < a then .gt else .eq

end Row

/-- Compare rows by a sort key. A missing year, rank or number of votes counts as zero. Text is
compared by code points. -/
def SortKey.compare (k : SortKey) (a b : Row) : Ordering :=
  let number (f : Joined → Option Int) : Ordering :=
    Row.directed k.direction Ord.compare (f a.joined) (f b.joined)
  let text (f : Joined → Option Text) : Ordering :=
    Row.directed k.direction Ord.compare (f a.joined) (f b.joined)
  match k.column with
  | .entity => text fun j => j.kind?.map Kind.name
  | .id => number Joined.id?
  | .name => text fun j => some j.name.name
  | .year => number fun j => some (j.year?.getD 0)
  | .similarity =>
    Row.directed k.direction Row.compareRatio (some (a.similarity.getD (-1)))
      (some (b.similarity.getD (-1)))
  | .rank => number fun j => some (j.rank?.getD 0)
  | .votes => number fun j => some (j.votes?.getD 0)
  | .season => number Joined.season?
  | .episode => number Joined.number?
  | .billing => number Joined.position?

/-- Compare rows by several sort keys, the first that tells them apart deciding. -/
def SortKey.compareAll (keys : List SortKey) (a b : Row) : Ordering :=
  keys.foldr (fun k later => (k.compare a b).then later) .eq

end Filmography
