import Filmography.Query.Basic

/-!
# Equality of queries

Two queries are the same if they agree in every field, sub-queries included. Thresholds are compared
as numbers: a floating-point zero is the same with either sign, and not-a-number is never the same
as anything.
-/

namespace Filmography

variable {ν : Type} [BEq ν]

/-- Whether two queries have the same conditions. -/
def Criteria.same (a b : Criteria ν) : Bool :=
  a.terms == b.terms && a.kinds == b.kinds && a.years == b.years && a.rank == b.rank &&
    a.votes == b.votes && a.seasons == b.seasons && a.episodes == b.episodes &&
    a.billed == b.billed && a.noTv == b.noTv && a.noVideo == b.noVideo && a.sorts == b.sorts &&
    a.limit == b.limit && a.fuzzy == b.fuzzy && a.ignoreCase == b.ignoreCase &&
    a.goodThreshold == b.goodThreshold && a.minSimilarity == b.minSimilarity &&
    a.debug == b.debug

/-- Whether two queries are the same. -/
def Query.same : Query ν → Query ν → Bool
  | ⟨c, tvshow, credits, cast⟩, ⟨c', tvshow', credits', cast'⟩ =>
    c.same c' &&
      (match tvshow, tvshow' with
        | none, none => true
        | some q, some q' => q.same q'
        | _, _ => false) &&
      (match credits, credits' with
        | none, none => true
        | some q, some q' => q.same q'
        | _, _ => false) &&
      (match cast, cast' with
        | none, none => true
        | some q, some q' => q.same q'
        | _, _ => false)
termination_by structural q => q

end Filmography
