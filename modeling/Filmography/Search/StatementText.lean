import Filmography.Number.Decimal
import Filmography.Search.Statement
import Filmography.Text.Quoted

/-!
# Statements as text

The text of a statement in the language of relational databases. A placeholder is written as a
question mark and its number, so `Statement.text` does not depend on the values of the parameters.
`Statement.describe` adds the parameters for a person to read.
-/

namespace Filmography

/-- A placeholder. -/
def placeholder (p : Nat) : Text :=
  '?' :: Text.ofNat p

/-- The name by which the table of a kind is joined. -/
def Kind.alias : Kind → Text
  | .movie => ['m']
  | .tvshow => ['t']
  | .episode => ['e']
  | .actor => ['a']

/-- The condition that an atom is in the table of a kind. -/
def Kind.test (k : Kind) : Text :=
  k.alias ++ ".atom_id IS NOT NULL".toList

/-- A column of the credit table. There is none to refer to unless credits are joined. -/
def creditColumn (join : Option CreditEnd) (name : String) : Text :=
  match join with
  | none => "NULL".toList
  | some _ => "c.".toList ++ name.toList

/-- A column in a condition. -/
def Column.text (join : Option CreditEnd) : Column → Text
  | tvshow => "e.tvshow_atom_id".toList
  | creditMedia => "c.media_atom_id".toList
  | creditActor => "c.actor_atom_id".toList
  | year => "COALESCE(m.year, t.year, e.year)".toList
  | rank => "r.rank".toList
  | votes => "r.votes".toList
  | season => "e.season".toList
  | number => "e.episode_num".toList
  | position => creditColumn join "position"

/-- A comparison of a column. -/
def comparison (left : Text) (operator : String) (p : Nat) : Text :=
  left ++ operator.toList ++ placeholder p

/-- The similarity of the name with a text. -/
def similarityText (p : Nat) : Text :=
  "similarity(n.name, ".toList ++ placeholder p ++ [')']

/-- A condition as text. -/
def Condition.text (join : Option CreditEnd) : Condition → Text
  | always => "1 = 1".toList
  | never => "1 = 0".toList
  | ofKinds kinds => '(' :: Text.joined " OR ".toList (kinds.map Kind.test) ++ [')']
  | equal column p => comparison (column.text join) " = " p
  | atLeast column p => comparison (column.text join) " >= " p
  | atMost column p => comparison (column.text join) " <= " p
  | between column p q =>
    comparison (comparison (column.text join) " BETWEEN " p) " AND " q
  | notTv => "COALESCE(m.tv, 0) = 0".toList
  | notVideo => "COALESCE(m.video, 0) = 0".toList
  | nameIs p => comparison "n.name".toList " = " p
  | nameLike p => comparison "n.name".toList " LIKE " p
  | similar p q => comparison (similarityText p) " >= " q

/-- The column that a sort key names in a statement. -/
def SortColumn.alias : SortColumn → String
  | .entity => "entity"
  | .id => "id"
  | .name => "name"
  | .year => "year"
  | .similarity => "similarity"
  | .rank => "rank"
  | .votes => "votes"
  | .season => "season"
  | .episode => "episode_num"
  | .billing => "position"

/-- A direction in a statement. -/
def Direction.keyword : Direction → String
  | .asc => "ASC"
  | .desc => "DESC"

/-- A sort key as text. -/
def SortKey.text (k : SortKey) : Text :=
  k.column.alias.toList ++ ' ' :: k.direction.keyword.toList ++ " NULLS LAST".toList

namespace Statement

variable {ν : Type}

/-- The columns that a statement selects, with their names. -/
def selected (s : Statement ν) : List (Text × String) :=
  [("CASE ".toList ++ Text.joined [' '] (Kind.all.map fun k =>
      "WHEN ".toList ++ k.test ++ " THEN '".toList ++ k.name ++ ['\'']) ++ " END".toList,
      "entity"),
    ("COALESCE(m.atom_id, t.atom_id, e.atom_id, a.atom_id)".toList, "id"),
    ("n.name".toList, "name"),
    ("COALESCE(m.year, t.year, e.year, 0)".toList, "year"),
    (match s.measured with
      | some p => similarityText p
      | none => "-1.0".toList, "similarity"),
    ("COALESCE(r.votes, 0)".toList, "votes"),
    ("COALESCE(r.rank, 0)".toList, "rank"),
    ("m.tv".toList, "tv"),
    ("m.video".toList, "video"),
    ("t.year_start".toList, "year_start"),
    ("t.year_end".toList, "year_end"),
    ("pt.title".toList, "tvshow_name"),
    ("e.season".toList, "season"),
    ("e.episode_num".toList, "episode_num"),
    (creditColumn s.join "actor_atom_id", "credit_actor"),
    (creditColumn s.join "media_atom_id", "credit_media"),
    (creditColumn s.join "character", "character"),
    (creditColumn s.join "position", "position"),
    (creditColumn s.join "attrs", "credit_attrs")]

/-- The tables that a statement joins, a line for each. -/
def joins (s : Statement ν) : Text :=
  ("FROM name n\n" ++
    "LEFT JOIN movie m ON m.atom_id = n.atom_id\n" ++
    "LEFT JOIN tvshow t ON t.atom_id = n.atom_id\n" ++
    "LEFT JOIN episode e ON e.atom_id = n.atom_id\n" ++
    "LEFT JOIN tvshow pt ON pt.atom_id = e.tvshow_atom_id\n" ++
    "LEFT JOIN actor a ON a.atom_id = n.atom_id\n" ++
    "LEFT JOIN rating r ON r.atom_id = n.atom_id\n").toList ++
  match s.join with
  | none => []
  | some .media => "JOIN credit c ON c.media_atom_id = n.atom_id\n".toList
  | some .actor => "JOIN credit c ON c.actor_atom_id = n.atom_id\n".toList

/-- The text of a statement. -/
def text (s : Statement ν) : Text :=
  "SELECT\n".toList ++
    Text.joined ",\n".toList (s.selected.map fun (column, name) =>
      "  ".toList ++ column ++ " AS ".toList ++ name.toList) ++
    '\n' :: s.joins ++ "WHERE ".toList ++
    Text.joined "\n  AND ".toList (s.conditions.map (Condition.text s.join)) ++ ['\n'] ++
    (if s.order = [] then []
      else "ORDER BY ".toList ++ Text.joined ", ".toList (s.order.map SortKey.text) ++ ['\n']) ++
    match s.limit with
    | none => []
    | some p => "LIMIT ".toList ++ placeholder p ++ ['\n']

end Statement

/-! ### Parameters -/

/-- A value as text: numbers without exponent, text in quotes. -/
def Value.describe : Value → Text
  | integer n => Text.ofInt n
  | number x => plainFloat x
  | text t => Text.quoted t

/-- Values with the numbers of their placeholders, from a given number on. -/
def Value.describeAll (p : Nat) : List Value → Text
  | [] => []
  | v :: vs => ' ' :: placeholder p ++ '=' :: v.describe ++ describeAll (p + 1) vs

/-- A statement and its parameters. -/
def Statement.describe (s : Statement) : Text :=
  s.text ++ "\n-- params:".toList ++ Value.describeAll 1 s.params

end Filmography
