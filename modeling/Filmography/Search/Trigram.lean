import Filmography.Text.Alphanumeric
import Filmography.Text.LowerCase

/-!
# Trigram similarity

A text is split into words of alphanumeric characters. Each word is lower-cased and padded with two
spaces in front and one behind, and every three characters in a row are a trigram of the text. The
similarity of two texts is the share of trigrams that they have in common: an exact ratio, which
does not depend on the order of words, on how often one occurs, or on punctuation.
-/

namespace Filmography

/-- Three characters in a row. -/
abbrev Trigram := Char × Char × Char

/-- The members of a list, each of them once. -/
def distinct {α : Type} [DecidableEq α] : List α → List α
  | [] => []
  | a :: l => if a ∈ l then distinct l else a :: distinct l

theorem mem_distinct {α : Type} [DecidableEq α] {a : α} {l : List α} :
    a ∈ distinct l ↔ a ∈ l := by
  induction l with
  | nil => simp [distinct]
  | cons b l ih =>
    rw [distinct]
    split
    · next h =>
      rw [ih, List.mem_cons]
      exact ⟨.inr, fun | .inl e => e ▸ h | .inr e => e⟩
    · simp [ih]

theorem nodup_distinct {α : Type} [DecidableEq α] (l : List α) : (distinct l).Nodup := by
  induction l with
  | nil => simp [distinct]
  | cons b l ih =>
    rw [distinct]
    split
    · exact ih
    · next h => exact List.nodup_cons.2 ⟨fun hb => h (mem_distinct.1 hb), ih⟩

namespace Trigram

/-- Every three characters in a row. -/
def windows : Text → List Trigram
  | a :: b :: c :: t => (a, b, c) :: windows (b :: c :: t)
  | _ => []

/-- The trigrams of a word. -/
def ofWord (word : Text) : List Trigram :=
  windows (' ' :: ' ' :: word.flatMap Text.lowerChar ++ [' '])

/-- The trigrams of a text, each of them once. -/
def ofText (t : Text) : List Trigram :=
  distinct ((Text.runs Text.isAlphanumeric t).flatMap ofWord)

end Trigram

/-- The similarity of two texts: how many trigrams they share, of those that either has. It is zero
if either has none. -/
def similarity (a b : Text) : Rat :=
  let ta := Trigram.ofText a
  let tb := Trigram.ofText b
  if ta = [] ∨ tb = [] then 0
  else
    let shared := (ta.filter (· ∈ tb)).length
    mkRat shared (ta.length + tb.length - shared)

end Filmography
