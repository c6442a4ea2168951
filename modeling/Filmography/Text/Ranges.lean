import Filmography.Text.Basic

/-!
# Ranges of characters

A character property is given as an ascending list of disjoint ranges of code points. Membership
stops at the first range that ends at or after the character, so the common characters at the low
end of a table are found at once.
-/

namespace Filmography.Text

/-- Whether an ascending list of ranges covers a code point. -/
def covers : List (Nat × Nat) → Nat → Bool
  | [], _ => false
  | (lo, hi) :: rest, n => if n ≤ hi then lo ≤ n else covers rest n

end Filmography.Text
