import Mathlib.Algebra.Order.Field.Rat
import Mathlib.Algebra.Order.Field.Basic
import Mathlib.Data.Finset.Card
import Mathlib.Data.List.Infix
import Mathlib.Data.Rat.Defs
import Filmography.Proofs.Text.Runs
import Filmography.Search.Trigram

/-!
# Similarity as a Jaccard index

The trigrams of a text are a set, and the similarity of two texts is the share of the trigrams that
both have in those that either has. Which trigrams there are depends on the words in lower case
only, so neither their order nor how often one occurs counts, and neither does what stands between
them.

* `Trigram.mem_windows`: windows are the pieces of three characters;
* `Trigram.mem_set`: the trigrams of a text, from its words in lower case;
* `similarity_eq_div`: the similarity is the ratio of two numbers of trigrams;
* `isJaccard_similarity`: what follows for the similarity of any two texts.
-/

namespace Filmography

namespace Text

/-- The words of a text in lower case: its runs of alphanumeric characters, each of them character
by character in lower case. -/
def lowerWords (t : Text) : Set Text :=
  {v | ∃ w, IsRun isAlphanumeric w t ∧ v = w.flatMap lowerChar}

/-- The words can be listed, so whether texts have the same ones can be decided. -/
theorem lowerWords_eq_iff {s t : Text} : s.lowerWords = t.lowerWords ↔
    ((runs isAlphanumeric s).map (List.flatMap lowerChar)).toFinset =
      ((runs isAlphanumeric t).map (List.flatMap lowerChar)).toFinset := by
  have hlist : ∀ u : Text, u.lowerWords =
      ((runs isAlphanumeric u).map (List.flatMap lowerChar)).toFinset := by
    intro u
    ext v
    simp only [lowerWords, Set.mem_ofPred_eq, List.coe_toFinset, List.mem_map, mem_runs_iff,
      eq_comm (a := v)]
  rw [hlist, hlist, Finset.coe_inj]

theorem lowerWords_eq_empty_iff {t : Text} :
    t.lowerWords = ∅ ↔ ∀ c ∈ t, isAlphanumeric c = false := by
  rw [← runs_eq_nil_iff, Set.eq_empty_iff_forall_notMem, List.eq_nil_iff_forall_not_mem]
  constructor
  · intro h w hw
    exact h _ ⟨w, mem_runs_iff.mp hw, rfl⟩
  · rintro h - ⟨w, hw, rfl⟩
    exact h w (mem_runs_iff.mpr hw)

end Text

namespace Trigram

/-! ### Windows -/

/-- The windows of a text are its pieces of three characters. -/
theorem mem_windows {g : Trigram} {t : Text} : g ∈ windows t ↔ [g.1, g.2.1, g.2.2] <:+: t := by
  obtain ⟨x, y, z⟩ := g
  induction t with
  | nil => simp [windows]
  | cons a t ih =>
    rw [List.infix_cons_iff, ← ih]
    rcases t with _ | ⟨b, _ | ⟨c, t⟩⟩
    · simp [windows]
    · simp [windows]
    · rw [windows, List.mem_cons]
      refine or_congr ?_ Iff.rfl
      simp [Prod.ext_iff]

theorem ofWord_ne_nil (w : Text) : ofWord w ≠ [] := by
  rw [ofWord]
  -- Two blanks and one more make a window even of a word without characters.
  rcases w.flatMap Text.lowerChar with _ | ⟨c, v⟩
  · exact List.cons_ne_nil _ _
  · exact List.cons_ne_nil _ _

/-! ### The trigrams of a text -/

/-- The trigrams of a text as a set. -/
def set (t : Text) : Finset Trigram :=
  (ofText t).toFinset

/-- The trigrams of a text are the pieces of three characters of its words in lower case, padded. -/
theorem mem_set {g : Trigram} {t : Text} :
    g ∈ set t ↔ ∃ v ∈ t.lowerWords, [g.1, g.2.1, g.2.2] <:+: ' ' :: ' ' :: v ++ [' '] := by
  rw [set, List.mem_toFinset, ofText, mem_distinct, List.mem_flatMap]
  constructor
  · rintro ⟨w, hw, hg⟩
    exact ⟨_, ⟨w, Text.mem_runs_iff.mp hw, rfl⟩, mem_windows.mp hg⟩
  · rintro ⟨-, ⟨w, hw, rfl⟩, hg⟩
    exact ⟨w, Text.mem_runs_iff.mpr hw, mem_windows.mpr hg⟩

/-- Texts with the same words in lower case have the same trigrams. -/
theorem set_congr {s t : Text} (h : s.lowerWords = t.lowerWords) : set s = set t := by
  ext g
  rw [mem_set, mem_set, h]

/-- A text has no trigrams exactly if it has no alphanumeric character. -/
theorem set_eq_empty_iff {t : Text} :
    set t = ∅ ↔ ∀ c ∈ t, Text.isAlphanumeric c = false := by
  rw [← Text.lowerWords_eq_empty_iff, Finset.eq_empty_iff_forall_notMem,
    Set.eq_empty_iff_forall_notMem]
  constructor
  · rintro h - ⟨w, hw, rfl⟩
    obtain ⟨g, gs, hgs⟩ := List.exists_cons_of_ne_nil (ofWord_ne_nil w)
    have hg : g ∈ ofWord w := hgs ▸ List.mem_cons_self ..
    exact h g (mem_set.mpr ⟨_, ⟨w, hw, rfl⟩, mem_windows.mp hg⟩)
  · intro h g hg
    obtain ⟨v, hv, -⟩ := mem_set.mp hg
    exact h v hv

theorem ofText_eq_nil_iff {t : Text} : ofText t = [] ↔ set t = ∅ :=
  (List.toFinset_eq_empty_iff _).symm

theorem length_ofText (t : Text) : (ofText t).length = (set t).card :=
  (List.toFinset_card_of_nodup (nodup_distinct _)).symm

/-! ### What two texts share -/

/-- How many trigrams of a text are trigrams of the other one. -/
def shared (a b : Text) : Nat :=
  ((ofText a).filter fun g => (ofText b).contains g).length

theorem shared_eq (a b : Text) : shared a b = (set a ∩ set b).card := by
  have hnodup : ((ofText a).filter fun g => (ofText b).contains g).Nodup :=
    (nodup_distinct _).filter _
  rw [shared, ← List.toFinset_card_of_nodup hnodup]
  congr 1
  ext g
  simp [set]

/-- The number of trigrams that either text has is that of both, less what is counted twice. -/
theorem card_union_eq (a b : Text) :
    (set a ∪ set b).card = (ofText a).length + (ofText b).length - shared a b := by
  rw [Finset.card_union, length_ofText, length_ofText, shared_eq]

theorem shared_le (a b : Text) : shared a b ≤ (ofText a).length + (ofText b).length := by
  rw [shared_eq, length_ofText]
  exact (Finset.card_le_card Finset.inter_subset_left).trans (Nat.le_add_right _ _)

end Trigram

/-! ### The ratio -/

open Trigram in
/-- The similarity is the share of what both texts have in what either has. -/
theorem similarity_eq_div (a b : Text) :
    similarity a b = (set a ∩ set b).card / (set a ∪ set b).card := by
  have hdef : similarity a b =
      if ofText a = [] ∨ ofText b = [] then 0
      else mkRat (shared a b) ((ofText a).length + (ofText b).length - shared a b) := by
    simp only [similarity, shared, List.contains_eq_mem]
  rw [hdef]
  split
  · next hnone =>
    have hempty : set a ∩ set b = ∅ := by
      rcases hnone with h | h
      · rw [ofText_eq_nil_iff.mp h, Finset.empty_inter]
      · rw [ofText_eq_nil_iff.mp h, Finset.inter_empty]
    rw [hempty, Finset.card_empty, Nat.cast_zero, zero_div]
  · rw [Rat.mkRat_eq_div, ← card_union_eq, shared_eq]
    rfl

theorem similarity_nonneg (a b : Text) : 0 ≤ similarity a b := by
  rw [similarity_eq_div]
  exact div_nonneg (Nat.cast_nonneg _) (Nat.cast_nonneg _)

theorem similarity_le_one (a b : Text) : similarity a b ≤ 1 := by
  rw [similarity_eq_div]
  refine div_le_one_of_le₀ (Nat.cast_le.mpr (Finset.card_le_card ?_)) (Nat.cast_nonneg _)
  exact Finset.inter_subset_left.trans Finset.subset_union_left

theorem similarity_comm (a b : Text) : similarity a b = similarity b a := by
  rw [similarity_eq_div, similarity_eq_div, Finset.inter_comm, Finset.union_comm]

theorem similarity_eq_zero_iff {a b : Text} :
    similarity a b = 0 ↔ Disjoint (Trigram.set a) (Trigram.set b) := by
  rw [similarity_eq_div, div_eq_zero_iff, Nat.cast_eq_zero, Nat.cast_eq_zero, Finset.card_eq_zero,
    Finset.card_eq_zero, Finset.disjoint_iff_inter_eq_empty]
  refine or_iff_left_of_imp fun h => ?_
  -- Where neither has a trigram, they share none.
  exact Finset.subset_empty.mp (h ▸ Finset.inter_subset_left.trans Finset.subset_union_left)

theorem similarity_eq_one_iff {a b : Text} :
    similarity a b = 1 ↔ Trigram.set a = Trigram.set b ∧ (Trigram.set a).Nonempty := by
  constructor
  · intro h
    rw [similarity_eq_div] at h
    have hne : ((Trigram.set a ∪ Trigram.set b).card : Rat) ≠ 0 := by
      intro hzero
      rw [hzero, div_zero] at h
      exact absurd h zero_ne_one
    have hcard := Nat.cast_injective ((div_eq_one_iff_eq hne).mp h)
    have hsub : Trigram.set a ∩ Trigram.set b ⊆ Trigram.set a ∪ Trigram.set b :=
      Finset.inter_subset_left.trans Finset.subset_union_left
    have hsame := inf_eq_sup.mp (Finset.eq_of_subset_of_card_le hsub hcard.ge)
    refine ⟨hsame, Finset.nonempty_iff_ne_empty.mpr fun hempty => hne ?_⟩
    rw [← hsame, Finset.union_self, hempty, Finset.card_empty, Nat.cast_zero]
  · rintro ⟨hsame, hnonempty⟩
    rw [similarity_eq_div, ← hsame, Finset.inter_self, Finset.union_self]
    exact div_self (Nat.cast_ne_zero.mpr (Finset.card_ne_zero.mpr hnonempty))

/-- A text with an alphanumeric character is as similar to itself as can be. -/
theorem similarity_self {t : Text} (h : ∃ c ∈ t, Text.isAlphanumeric c = true) :
    similarity t t = 1 := by
  refine similarity_eq_one_iff.mpr ⟨rfl, Finset.nonempty_iff_ne_empty.mpr fun hempty => ?_⟩
  obtain ⟨c, hmem, hc⟩ := h
  rw [Trigram.set_eq_empty_iff.mp hempty c hmem] at hc
  cases hc

/-- A text without alphanumeric characters is not similar to any. -/
theorem similarity_of_forall {a b : Text} (h : ∀ c ∈ a, Text.isAlphanumeric c = false) :
    similarity a b = 0 := by
  rw [similarity_eq_zero_iff, Trigram.set_eq_empty_iff.mpr h]
  exact Finset.disjoint_empty_left _

/-- The similarity of two texts is the Jaccard index of their sets of trigrams. -/
structure IsJaccard (a b : Text) : Prop where
  /-- The trigrams that are counted as shared are those that both texts have. -/
  shared_eq : Trigram.shared a b = (Trigram.set a ∩ Trigram.set b).card
  /-- They can be taken away from those that are counted for one text and for the other. -/
  shared_le : Trigram.shared a b ≤ (Trigram.ofText a).length + (Trigram.ofText b).length
  /-- What is divided by is then the number of those that either text has. -/
  union_eq : (Trigram.ofText a).length + (Trigram.ofText b).length - Trigram.shared a b =
    (Trigram.set a ∪ Trigram.set b).card
  /-- The similarity is the exact ratio, without a division by zero, or it is zero if one of the
  texts has no trigrams. -/
  ratio : (Trigram.set a = ∅ ∨ Trigram.set b = ∅) ∧ similarity a b = 0 ∨
    (Trigram.set a ≠ ∅ ∧ Trigram.set b ≠ ∅) ∧ 0 < (Trigram.set a ∪ Trigram.set b).card ∧
      similarity a b = (Trigram.set a ∩ Trigram.set b).card / (Trigram.set a ∪ Trigram.set b).card
  /-- It is at least zero. -/
  nonneg : 0 ≤ similarity a b
  /-- It is at most one. -/
  le_one : similarity a b ≤ 1
  /-- It is the same both ways. -/
  comm : similarity a b = similarity b a
  /-- It is one exactly if both texts have the same trigrams, and some. -/
  eq_one_iff : similarity a b = 1 ↔ Trigram.set a = Trigram.set b ∧ (Trigram.set a).Nonempty
  /-- It is zero exactly if they share none. -/
  eq_zero_iff : similarity a b = 0 ↔ Disjoint (Trigram.set a) (Trigram.set b)

/-- The division is one of numbers of trigrams, and not by zero. -/
theorem similarity_ratio (a b : Text) :
    (Trigram.set a = ∅ ∨ Trigram.set b = ∅) ∧ similarity a b = 0 ∨
    (Trigram.set a ≠ ∅ ∧ Trigram.set b ≠ ∅) ∧ 0 < (Trigram.set a ∪ Trigram.set b).card ∧
      similarity a b =
        (Trigram.set a ∩ Trigram.set b).card / (Trigram.set a ∪ Trigram.set b).card := by
  by_cases hnone : Trigram.set a = ∅ ∨ Trigram.set b = ∅
  · refine .inl ⟨hnone, similarity_eq_zero_iff.mpr ?_⟩
    rcases hnone with h | h
    · rw [h]
      exact Finset.disjoint_empty_left _
    · rw [h]
      exact Finset.disjoint_empty_right _
  · have hboth := not_or.mp hnone
    refine .inr ⟨hboth, Finset.card_pos.mpr ?_, similarity_eq_div a b⟩
    exact (Finset.nonempty_iff_ne_empty.mpr hboth.1).inl

/-- The trigrams of a text are the pieces of three characters of its words in lower case, with two
blanks before each and one behind, and there are none exactly if the text has no alphanumeric
character. The similarity of two texts is the Jaccard index of these sets, and it is the same for
any two texts with the same words in lower case, whatever their order and number is, and whatever
stands between them. -/
theorem isJaccard_similarity :
    (∀ (t : Text) (g : Trigram), g ∈ Trigram.set t ↔
      ∃ v ∈ t.lowerWords, [g.1, g.2.1, g.2.2] <:+: ' ' :: ' ' :: v ++ [' ']) ∧
    (∀ t : Text, Trigram.set t = ∅ ↔ ∀ c ∈ t, Text.isAlphanumeric c = false) ∧
    (∀ a b : Text, IsJaccard a b) ∧
    ∀ a a' b b' : Text, a'.lowerWords = a.lowerWords → b'.lowerWords = b.lowerWords →
      similarity a' b' = similarity a b := by
  refine ⟨fun _ _ => Trigram.mem_set, fun _ => Trigram.set_eq_empty_iff, ?_, ?_⟩
  · intro a b
    exact {
      shared_eq := Trigram.shared_eq a b
      shared_le := Trigram.shared_le a b
      union_eq := (Trigram.card_union_eq a b).symm
      ratio := similarity_ratio a b
      nonneg := similarity_nonneg a b
      le_one := similarity_le_one a b
      comm := similarity_comm a b
      eq_one_iff := similarity_eq_one_iff
      eq_zero_iff := similarity_eq_zero_iff }
  · intro a a' b b' ha hb
    rw [similarity_eq_div, similarity_eq_div, Trigram.set_congr ha, Trigram.set_congr hb]

/-- A name that is put in another order and in other letters, with a word twice. -/
theorem similarity_reordered :
    (Text.lowerWords "keanu REEVES (Keanu)".toList = Text.lowerWords "Reeves, Keanu".toList ∧
      Text.lowerWords "[keanu]".toList = Text.lowerWords "Keanu".toList) ∧
    similarity "keanu REEVES (Keanu)".toList "[keanu]".toList =
      similarity "Reeves, Keanu".toList "Keanu".toList := by
  have hname : Text.lowerWords "keanu REEVES (Keanu)".toList =
      Text.lowerWords "Reeves, Keanu".toList := by
    rw [Text.lowerWords_eq_iff]
    decide +kernel
  have hword : Text.lowerWords "[keanu]".toList = Text.lowerWords "Keanu".toList := by
    rw [Text.lowerWords_eq_iff]
    decide +kernel
  exact ⟨⟨hname, hword⟩, isJaccard_similarity.2.2.2 _ _ _ _ hname hword⟩

end Filmography
