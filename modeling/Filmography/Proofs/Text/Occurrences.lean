import Mathlib.Data.List.Infix
import Filmography.Text.Basic

/-!
# Occurrences

How often a piece of text occurs in a text that is put together from parts. A piece does not go
across a character that is not in it, so between parts that are set off by such a character the
counts add up.

* `Text.occurrences`: how often a piece occurs;
* `Text.occurrences_append_cons`: two parts with a character between them that the piece does not
  have;
* `Text.occurrences_joined`: parts that are joined.
-/

namespace Filmography

namespace Text

/-- How often a piece occurs in a text: at how many places the rest of the text starts with it. -/
def occurrences (w t : Text) : Nat :=
  t.tails.countP fun rest => decide (w <+: rest)

variable {w : Text}

theorem occurrences_nil (hw : w ≠ []) : occurrences w [] = 0 := by
  simpa [occurrences] using hw

theorem occurrences_cons (w : Text) (c : Char) (t : Text) :
    occurrences w (c :: t) = occurrences w t + if w <+: c :: t then 1 else 0 := by
  rw [occurrences, List.tails_cons, List.countP_cons, ← occurrences]
  simp only [decide_eq_true_eq]

/-- A piece occurs in a text if and only if it is a part of it. -/
theorem occurrences_pos_iff {t : Text} : 0 < occurrences w t ↔ w <:+: t := by
  simp only [occurrences, List.countP_pos_iff, List.mem_tails, decide_eq_true_eq,
    List.infix_iff_prefix_suffix, and_comm]

/-- What a text does not have does not occur in it. -/
theorem occurrences_eq_zero_of_notMem {c : Char} (hc : c ∈ w) {t : Text} (h : c ∉ t) :
    occurrences w t = 0 := by
  refine Nat.eq_zero_of_not_pos fun hpos => h ?_
  exact (occurrences_pos_iff.mp hpos).subset hc

/-- A piece at the start of a text ends before a character that it does not have. -/
theorem prefix_append_cons_iff {c : Char} (hc : c ∉ w) (a b : Text) :
    w <+: a ++ c :: b ↔ w <+: a := by
  constructor
  · intro h
    refine List.prefix_of_prefix_length_le h (List.prefix_append a (c :: b)) ?_
    by_contra hlength
    -- a longer piece would have the character
    obtain ⟨rest, hrest⟩ := List.prefix_of_prefix_length_le (List.prefix_append a (c :: b)) h
      (Nat.le_of_not_le hlength)
    rw [← hrest] at h hlength hc
    rw [List.prefix_append_right_inj] at h
    rcases rest with _ | ⟨d, rest⟩
    · simp at hlength
    · rw [List.cons_prefix_cons] at h
      exact hc (by simp [h.1])
  · exact fun h => h.trans (List.prefix_append a (c :: b))

/-- A piece does not go across a character that it does not have. -/
theorem occurrences_append_cons (hw : w ≠ []) {c : Char} (hc : c ∉ w) (a b : Text) :
    occurrences w (a ++ c :: b) = occurrences w a + occurrences w b := by
  induction a with
  | nil =>
    have hstart : ¬w <+: c :: b := by
      intro h
      exact hw (List.prefix_nil.mp ((prefix_append_cons_iff hc [] b).mp h))
    rw [List.nil_append, occurrences_cons, if_neg hstart, occurrences_nil hw, Nat.zero_add,
      Nat.add_zero]
  | cons d a ih =>
    have hstart := prefix_append_cons_iff hc (d :: a) b
    rw [List.cons_append] at hstart ⊢
    simp only [occurrences_cons, ih, hstart]
    omega

/-- Two parts of which the second starts in a character that the piece does not have. -/
theorem occurrences_append_of_head (hw : w ≠ []) {a b : Text} (hb : ∃ c ∈ b.head?, c ∉ w) :
    occurrences w (a ++ b) = occurrences w a + occurrences w b := by
  obtain ⟨c, hhead, hc⟩ := hb
  obtain ⟨b, rfl⟩ := List.head?_eq_some_iff.mp hhead
  have hcons := occurrences_append_cons hw hc [] b
  rw [List.nil_append, occurrences_nil hw, Nat.zero_add] at hcons
  rw [occurrences_append_cons hw hc, hcons]

/-- Two parts of which the first ends in a character that the piece does not have. -/
theorem occurrences_append_of_last (hw : w ≠ []) {a b : Text} (ha : ∃ c ∈ a.getLast?, c ∉ w) :
    occurrences w (a ++ b) = occurrences w a + occurrences w b := by
  obtain ⟨c, hlast, hc⟩ := ha
  obtain ⟨a, rfl⟩ := List.getLast?_eq_some_iff.mp hlast
  rw [List.append_assoc, List.singleton_append, occurrences_append_cons hw hc,
    occurrences_append_cons hw hc, occurrences_nil hw, Nat.add_zero]

/-! ### Parts that are joined -/

theorem joined_cons_cons (sep a b : Text) (ps : List Text) :
    joined sep (a :: b :: ps) = a ++ (sep ++ joined sep (b :: ps)) := by
  rw [joined, List.intercalate_cons_cons, List.append_assoc, ← joined]

/-- A piece that does not have the characters at the ends of what stands between the parts does not
occur in what is joined, if it occurs neither in the parts nor between them. -/
theorem occurrences_joined (hw : w ≠ []) {sep : Text} (hhead : ∃ c ∈ sep.head?, c ∉ w)
    (hlast : ∃ c ∈ sep.getLast?, c ∉ w) (hsep : occurrences w sep = 0) {ps : List Text}
    (hps : ∀ p ∈ ps, occurrences w p = 0) : occurrences w (joined sep ps) = 0 := by
  induction ps with
  | nil => exact occurrences_nil hw
  | cons a ps ih =>
    rcases ps with _ | ⟨b, ps⟩
    · rw [joined, List.intercalate_singleton]
      exact hps a (List.mem_cons_self ..)
    · obtain ⟨c, hc, hnot⟩ := hhead
      have hrest : ∃ c ∈ (sep ++ joined sep (b :: ps)).head?, c ∉ w := by
        refine ⟨c, ?_, hnot⟩
        rw [List.head?_append, Option.mem_def.mp hc]
        rfl
      rw [joined_cons_cons, occurrences_append_of_head hw hrest,
        occurrences_append_of_last hw hlast, hsep, hps a (List.mem_cons_self ..),
        ih fun p hp => hps p (List.mem_cons_of_mem _ hp)]

end Text

end Filmography
