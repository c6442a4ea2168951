import Filmography.Text.Basic

/-!
# Roles

What a choice among candidates is for: one of the three sub-queries of a query, or its own result.
-/

namespace Filmography

/-- The part that a picked entity plays. -/
inductive Role where
  /-- The TV show whose episodes are searched. -/
  | tvshow
  /-- The movie, TV show or episode whose cast is searched. -/
  | credits
  /-- The actor whose credits are searched. -/
  | cast
  /-- The result of the search itself. -/
  | result
deriving DecidableEq, Repr

/-- The label by which a person is asked to choose. -/
def Role.label : Role → Text
  | .tvshow => "TV show".toList
  | .credits => "credited media".toList
  | .cast => "cast member".toList
  | .result => "result".toList

end Filmography
