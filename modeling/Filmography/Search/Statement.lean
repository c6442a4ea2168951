import Filmography.Search.Pattern
import Filmography.Search.Row
import Filmography.Search.Strategy
import Filmography.Search.Trigram

/-!
# Statements

A statement is what a query is compiled to: which credits are joined, the conditions on a row, the
order of the rows and how many of them are wanted. Everything that comes from a person is a
parameter: conditions only name placeholders, by number from one.

`Statement.matching` is the meaning of a statement: the rows of a catalogue of which all conditions
hold. An engine puts them in order and cuts them off (`Filmography.Search.Engine`). The text of a
statement is in `Filmography.Search.StatementText`.
-/

namespace Filmography

/-- The value of a parameter. -/
inductive Value (ν : Type := Float) where
  /-- An integer. -/
  | integer (n : Int)
  /-- A threshold. -/
  | number (x : ν)
  /-- A text. -/
  | text (t : Text)

/-- The columns that conditions speak of. -/
inductive Column where
  /-- The TV show of the episode. -/
  | tvshow
  /-- The media of the credit. -/
  | creditMedia
  /-- The actor of the credit. -/
  | creditActor
  /-- The first year that is known. -/
  | year
  /-- The rank. -/
  | rank
  /-- The number of votes. -/
  | votes
  /-- The season. -/
  | season
  /-- The number of the episode. -/
  | number
  /-- The billing position. -/
  | position
deriving DecidableEq, Repr

/-- The number in a column of a row, if there is one. -/
def Joined.column (j : Joined) : Column → Option Int
  | .tvshow => j.episode.map (·.tvshow)
  | .creditMedia => j.credit.map (·.media)
  | .creditActor => j.credit.map (·.actor)
  | .year => j.year?
  | .rank => j.rank?
  | .votes => j.votes?
  | .season => j.season?
  | .number => j.number?
  | .position => j.position?

/-- A condition on a row. Numbers are those of placeholders. -/
inductive Condition where
  /-- Nothing is asked. -/
  | always
  /-- No row will do. -/
  | never
  /-- The atom is in the table of one of the kinds. -/
  | ofKinds (kinds : List Kind)
  /-- A column has a value. -/
  | equal (column : Column) (value : Nat)
  /-- A column has at least a value. -/
  | atLeast (column : Column) (low : Nat)
  /-- A column has at most a value. -/
  | atMost (column : Column) (high : Nat)
  /-- A column has a value between two. -/
  | between (column : Column) (low high : Nat)
  /-- There is no movie made for TV. -/
  | notTv
  /-- There is no movie made for video. -/
  | notVideo
  /-- The name is a text. -/
  | nameIs (text : Nat)
  /-- A pattern stands for the name. -/
  | nameLike (pattern : Nat)
  /-- The name is similar enough to a text. -/
  | similar (text threshold : Nat)
deriving DecidableEq, Repr

/-- A compiled query. -/
structure Statement (ν : Type := Float) where
  /-- How names are matched. -/
  strategy : Strategy
  /-- The text with which names are compared by similarity. -/
  measured : Option Nat
  /-- The end of credits at which they are joined. -/
  join : Option CreditEnd
  /-- The conditions, all of which must hold. -/
  conditions : List Condition
  /-- The sort keys. -/
  order : List SortKey
  /-- The greatest number of rows. -/
  limit : Option Nat
  /-- The values of the placeholders, that of the first one first. -/
  params : List (Value ν)

/-! ### Meaning -/

namespace Value

variable {ν : Type}

/-- The value of a placeholder. -/
def lookup? (params : List (Value ν)) (p : Nat) : Option (Value ν) :=
  match p with
  | 0 => none
  | i + 1 => params[i]?

/-- The integer for a placeholder. -/
def integer? (params : List (Value ν)) (p : Nat) : Option Int :=
  match lookup? params p with
  | some (.integer n) => some n
  | _ => none

/-- The text for a placeholder. -/
def text? (params : List (Value ν)) (p : Nat) : Option Text :=
  match lookup? params p with
  | some (.text t) => some t
  | _ => none

/-- The threshold for a placeholder. -/
def number? (params : List (Value ν)) (p : Nat) : Option ν :=
  match lookup? params p with
  | some (.number x) => some x
  | _ => none

end Value

/-- Compare two values, of which neither may be missing. -/
def bothSatisfy {α β : Type} (test : α → β → Bool) : Option α → Option β → Bool
  | some a, some b => test a b
  | _, _ => false

/-- Whether a condition holds of a row. A missing value satisfies no comparison. -/
def Condition.holds {ν : Type} [Score ν] (params : List (Value ν)) (j : Joined) :
    Condition → Bool
  | always => true
  | never => false
  | ofKinds kinds => kinds.any j.isKind
  | equal column value =>
    bothSatisfy (fun a b => a == b) (j.column column) (Value.integer? params value)
  | atLeast column low =>
    bothSatisfy (fun a b => b ≤ a) (j.column column) (Value.integer? params low)
  | atMost column high =>
    bothSatisfy (fun a b => a ≤ b) (j.column column) (Value.integer? params high)
  | between column low high =>
    bothSatisfy (fun a b => b ≤ a) (j.column column) (Value.integer? params low) &&
      bothSatisfy (fun a b => a ≤ b) (j.column column) (Value.integer? params high)
  | notTv => !j.movie.any (·.tv != 0)
  | notVideo => !j.movie.any (·.video != 0)
  | nameIs text => Value.text? params text == some j.name.name
  | nameLike pattern =>
    (Value.text? params pattern).any fun p =>
      Pattern.accepts (Pattern.seen p) (Pattern.seen j.name.name)
  | similar text threshold =>
    bothSatisfy (fun t x => Score.reaches (Score.ofRatio (similarity j.name.name t) : ν) x)
      (Value.text? params text) (Value.number? params threshold)

namespace Condition

/-- Whether no row meets a condition, whatever a catalogue holds: it says that a sub-query stands
for nothing, or it asks for a billing position where no credit is joined. -/
def isVoid (join : Option CreditEnd) : Condition → Bool
  | never => true
  | atLeast .position _ | atMost .position _ | between .position .. => join.isNone
  | _ => false

/-- A void condition holds of nothing that is joined. -/
theorem holds_of_isVoid {ν : Type} [Score ν] {join : Option CreditEnd} {k : Condition}
    (hk : k.isVoid join = true) {c : Catalog} {j : Joined} (hj : j ∈ c.joined join)
    (params : List (Value ν)) : k.holds params j = false := by
  have hposition : join = none → j.column .position = none := by
    rintro rfl
    exact Catalog.position?_of_mem_joined hj
  cases k with
  | never => rfl
  | atLeast column low =>
    cases column <;> simp_all [isVoid, holds, bothSatisfy]
  | atMost column high =>
    cases column <;> simp_all [isVoid, holds, bothSatisfy]
  | between column low high =>
    cases column <;> simp_all [isVoid, holds, bothSatisfy]
  | _ => cases hk

/-- Whether a condition compares names with a pattern. -/
def isPattern : Condition → Bool
  | nameLike _ => true
  | _ => false

/-- Whether a condition compares names with a pattern that is too long. -/
def isTooLong {ν : Type} (params : List (Value ν)) : Condition → Bool
  | nameLike pattern => (Value.text? params pattern).any fun p => Pattern.limit < Utf8.size p
  | _ => false

end Condition

namespace Statement

variable {ν : Type}

/-- A joined row as a row of the statement. -/
def row (s : Statement ν) (j : Joined) : Row :=
  ⟨j, s.measured.bind fun p =>
    (Value.text? s.params p).map fun t => similarity j.name.name t⟩

/-- At most as many rows as a limit says. A negative limit is none. -/
def cut {α : Type} (limit : Option Int) (rows : List α) : List α :=
  match limit with
  | none => rows
  | some n => if n < 0 then rows else rows.take n.toNat

/-- A limit leaves rows out and adds none. -/
theorem mem_of_mem_cut {α : Type} {limit : Option Int} {rows : List α} {a : α}
    (h : a ∈ cut limit rows) : a ∈ rows := by
  cases limit with
  | none => exact h
  | some n =>
    rw [cut] at h
    split at h
    · exact h
    · exact List.mem_of_mem_take h

/-- The rows of a catalogue of which all conditions hold. -/
def matching [Score ν] (s : Statement ν) (c : Catalog) : List Row :=
  ((c.joined s.join).filter fun j => s.conditions.all (·.holds s.params j)).map s.row

/-- The greatest number of rows that is wanted. A negative one is none. -/
def limit? (s : Statement ν) : Option Int :=
  s.limit.bind (Value.integer? s.params)

end Statement

end Filmography
