import Filmography.Number.Decimal
import Filmography.Query.Basic
import Filmography.Query.Directive

/-!
# Printing queries

A query is printed as the directives that set what differs from the empty query, followed by its
terms, with a space between any two pieces. The kinds come first because a range of seasons or
episodes would add one, and the terms come last.

Printing leaves out the lead at which a candidate is picked, which no directive sets.
-/

namespace Filmography

namespace Query

/-- A directive as a piece of the text of a query. -/
def directiveText (d : Directive) (argument : Option Text) : Text :=
  Directive.braced d.name.toList argument

/-- A directive for a range that restricts something. -/
def rangeText (d : Directive) (r : Range) : List Text :=
  if r.isUnconstrained then [] else [directiveText d (some r.print)]

/-- A directive that is a flag, if it is set. -/
def flagText (d : Directive) (yes : Bool) : List Text :=
  if yes then [directiveText d none] else []

/-- The directive for a limit other than the default one. -/
def limitText : Option UInt64 → List Text
  | none => [directiveText .limit (some ['-', '1'])]
  | some n =>
    if n = Criteria.defaultLimit then []
    else [directiveText .limit (some (Text.ofNat n.toNat))]

/-- The directive for a least similarity other than the default one. -/
def similarityText (x : Float) : List Text :=
  if x == 0.3 then [] else [directiveText .similar (some (plainFloat x))]

/-- The pieces of a query before its sub-queries. -/
def leadingPieces (c : Criteria) : List Text :=
  c.kinds.map (fun k => Directive.braced k.name none) ++
    rangeText .years c.years ++ rangeText .rank c.rank ++ rangeText .votes c.votes ++
    rangeText .seasons c.seasons ++ rangeText .episodes c.episodes ++
    rangeText .billed c.billed ++ flagText .notv c.noTv ++ flagText .novideo c.noVideo

/-- The pieces of a query after its sub-queries. -/
def trailingPieces (c : Criteria) : List Text :=
  c.sorts.map (fun k => directiveText .sort (some k.print)) ++ limitText c.limit ++
    similarityText c.minSimilarity ++ flagText .nofuzzy (!c.fuzzy && !c.hasWildcard) ++
    flagText .nocase c.ignoreCase ++ flagText .debug c.debug ++ c.terms

/-- A query as text. -/
def print : Query → Text
  | ⟨c, tvshow, credits, cast⟩ =>
    let sub (d : Directive) : Option Text → List Text
      | none => []
      | some t => [directiveText d (some t)]
    Text.joined [' '] (leadingPieces c ++
      sub .show (match tvshow with | none => none | some q => some q.print) ++
      sub .credits (match credits with | none => none | some q => some q.print) ++
      sub .cast (match cast with | none => none | some q => some q.print) ++
      trailingPieces c)
termination_by structural q => q

end Query

end Filmography
