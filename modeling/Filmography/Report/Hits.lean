import Filmography.Atom
import Filmography.Json.Basic
import Filmography.Report.Aligned
import Filmography.Search.Hit

/-!
# Reports of hits

Hits are reported as an aligned table for people, or as a JSON object on each line for programs.
-/

namespace Filmography

namespace Kind

/-- A kind as a JSON value. -/
def toJson (k : Kind) : Json := .string k.name

end Kind

namespace Ranking

/-- A rating as a JSON value. -/
def toJson (r : Ranking) : Json :=
  .object [("votes".toList, .integer r.votes.toNat), ("rank".toList, .integer r.rank.toNat)]

end Ranking

namespace Credited

/-- A credit as a JSON value. -/
def toJson (c : Credited) : Json :=
  .object [
    ("actor".toList, .integer c.actor.toInt),
    ("media".toList, .integer c.media.toInt),
    ("character".toList, .string c.character),
    ("position".toList, match c.position with
      | none => .null
      | some p => .integer p.toNat),
    ("attrs".toList, .string c.attrs)]

/-- A credit as a remark: the character, the billing position and further remarks. -/
def remark (c : Credited) : Text :=
  '[' :: c.character ++ [']'] ++
    (match c.position with
      | none => []
      | some p => " <".toList ++ Text.ofNat p.toNat ++ ['>']) ++
    if c.attrs = [] then [] else ' ' :: c.attrs

end Credited

namespace Hit

/-- A hit as a JSON value. -/
def toJson (h : Hit) : Json :=
  .object [
    ("entity".toList, h.kind.toJson),
    ("id".toList, .integer h.id.toInt),
    ("name".toList, .string h.name),
    ("year".toList, .integer h.year.toNat),
    ("attrs".toList, .string h.attrs),
    ("similarity".toList, .float h.similarity),
    ("rank".toList, h.ranking.toJson),
    ("credit".toList, match h.credit with
      | none => .null
      | some c => c.toJson)]

/-- What a table says about a hit in its last column: its attributes and its credit. -/
def info (h : Hit) : Text :=
  match h.credit with
  | none => h.attrs
  | some c => h.attrs ++ (if h.attrs = [] then [] else [' ']) ++ c.remark

/-- The cells of a hit in a table, after its number. -/
def cells (h : Hit) : List Text :=
  [if h.hasSimilarity then fixedPlaces 3 h.similarity else ['-'],
    Text.ofInt h.id.toInt, h.kind.name, h.name,
    if 0 < h.year then Text.ofNat h.year.toNat else "N/A".toList,
    Text.ofNat h.ranking.votes.toNat, Text.ofNat h.ranking.rank.toNat, h.info]

end Hit

namespace Report

/-- A line of a table before it is aligned. -/
def line (cells : List Text) : Text :=
  Text.joined ['\t'] cells ++ ['\n']

/-- The headings of a table of hits. -/
def headings : List Text :=
  ["#", "sim", "id", "kind", "name", "year", "votes", "rank", "info"].map String.toList

/-- The lines for hits, numbered from a given number on. -/
def hitLines (n : Nat) : List Hit → Text
  | [] => []
  | h :: hs => line (Text.ofNat n :: h.cells) ++ hitLines (n + 1) hs

/-- A table of hits. -/
def table (hits : List Hit) : Text :=
  Aligned.align (line headings ++ hitLines 1 hits)

/-- Hits as JSON, each on a line. -/
def jsonLines (hits : List Hit) : Text :=
  hits.flatMap fun h => h.toJson.print ++ ['\n']

end Report

end Filmography
