import Filmography.Search.Statement

/-!
# Compiling queries

A query whose sub-queries have been resolved is compiled to a statement. The condition on a name,
on each role and on each range is a piece with the values that it needs. The pieces are numbered one
after the other, so that each refers to its own values: the condition on the name comes first
among the parameters, although it is written last.
-/

namespace Filmography

/-- What has become of a sub-query. -/
inductive Resolution where
  /-- There is no sub-query. -/
  | notRequested
  /-- The sub-query stands for an entity. -/
  | resolved (atom : Atom)
  /-- The sub-query stands for nothing. -/
  | unresolved
deriving DecidableEq, Repr

/-- What has become of the sub-queries of a query. -/
structure Resolutions where
  /-- The TV show. -/
  tvshow : Resolution := .notRequested
  /-- The movie, TV show or episode whose cast is sought. -/
  credits : Resolution := .notRequested
  /-- The actor whose credits are sought. -/
  cast : Resolution := .notRequested
deriving DecidableEq, Repr

/-- The end at which credits are joined: a sub-query for an actor seeks media, and a sub-query for
media alone seeks actors. With both, both ends of the same credit are constrained. -/
def Resolutions.join (r : Resolutions) : Option CreditEnd :=
  if r.cast ≠ .notRequested then some .media
  else if r.credits ≠ .notRequested then some .actor
  else none

/-- A condition with the values it needs. The condition is given the number of the placeholder for
its first value; the others follow. -/
structure Piece (ν : Type) where
  /-- The values. -/
  values : List (Value ν)
  /-- The condition. -/
  condition : Nat → Condition

namespace Piece

variable {ν : Type}

/-- The conditions of pieces, whose placeholders start with the number `first`. -/
def conditions (first : Nat) : List (Piece ν) → List Condition
  | [] => []
  | p :: ps => p.condition first :: conditions (first + p.values.length) ps

/-- The condition on the name. -/
def name (strategy : Strategy) (q : Query ν) : Piece ν :=
  match q.name? with
  | none => ⟨[], fun _ => .always⟩
  | some t =>
    match strategy with
    | .exact => ⟨[.text t], fun p => .nameIs p⟩
    | .pattern => ⟨[.text t], fun p => .nameLike p⟩
    | .similarity => ⟨[.text t, .number q.minSimilarity], fun p => .similar p (p + 1)⟩

/-- The condition that a column is what a sub-query stands for. -/
def role (column : Column) : Resolution → Piece ν
  | .notRequested => ⟨[], fun _ => .always⟩
  | .resolved atom => ⟨[.integer atom.toInt], fun p => .equal column p⟩
  | .unresolved => ⟨[], fun _ => .never⟩

/-- A bound as a value. -/
def bound (n : UInt32) : Value ν :=
  .integer (Int.ofNat n.toNat)

/-- The condition that a column is in a range. -/
def range (column : Column) : Range → Piece ν
  | ⟨none, none⟩ => ⟨[], fun _ => .always⟩
  | ⟨some a, none⟩ => ⟨[bound a], fun p => .atLeast column p⟩
  | ⟨none, some b⟩ => ⟨[bound b], fun p => .atMost column p⟩
  | ⟨some a, some b⟩ => ⟨[bound a, bound b], fun p => .between column p (p + 1)⟩

/-- The conditions on the roles and ranges of a query, in order. -/
def ofQuery (q : Query ν) (r : Resolutions) : List (Piece ν) :=
  [role .tvshow r.tvshow, role .creditMedia r.credits, role .creditActor r.cast,
    range .year q.years, range .rank q.rank, range .votes q.votes, range .season q.seasons,
    range .number q.episodes, range .position q.billed]

end Piece

namespace Query

variable {ν : Type}

/-- A limit as a value: a word of 64 bits, the upper half of which are negative numbers. -/
def limitValue (n : UInt64) : Value ν :=
  .integer n.toInt64.toInt

/-- Compile a query, given what has become of its sub-queries and whether names can be matched by
similarity. -/
def compile (q : Query ν) (r : Resolutions) (fuzzyCapable : Bool) : Statement ν :=
  let strategy := Strategy.ofQuery q fuzzyCapable
  let name := Piece.name strategy q
  let pieces := Piece.ofQuery q r
  let values := name.values ++ pieces.flatMap Piece.values
  let measured := strategy = .similarity ∧ q.terms ≠ []
  { strategy
    measured := if measured then some 1 else none
    join := r.join
    conditions :=
      .ofKinds (if q.kinds = [] then Kind.all else q.kinds) ::
        Piece.conditions (1 + name.values.length) pieces ++
        [if q.noTv then .notTv else .always, if q.noVideo then .notVideo else .always,
          name.condition 1]
    order := (if measured then [⟨.similarity, .desc⟩] else []) ++ q.sorts
    limit := q.limit.map fun _ => values.length + 1
    params := values ++ q.limit.toList.map limitValue }

end Query

end Filmography
