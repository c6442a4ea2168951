import Filmography.Error
import Filmography.Proofs.Number.Numerals
import Filmography.Proofs.Query.Reading

/-!
# The texts of ranges

A range is spelled by one number, which is both bounds, or by a hyphen with a number on either side,
on both or on neither. There may be white space at both ends and around the hyphen, and nowhere
else. A number may have a plus sign, and it has to fit 32 bits.

The reader cuts a text at its first hyphen and trims three times. A number has no hyphen, so the
first hyphen of a text that spells a range is the one between the bounds. Conversely what is
trimmed next to the hyphen is white space around it, because the text was trimmed as a whole
before.

* `Range.Spells`: the texts of a range;
* `Range.parse_eq_ok_iff_spells`: these are read, and nothing else is.
-/

namespace Filmography

open Integer (parse32 parse32_eq_ok_iff)

namespace Range

/-- The texts of a number of 32 bits: decimal digits, perhaps after a plus sign. -/
def IsNumber (t : Text) (n : UInt32) : Prop :=
  Integer.Format.unsigned32.Spells t n.toNat

/-- The texts of a bound. -/
inductive IsBound : Text → Option UInt32 → Prop where
  /-- There is no bound. -/
  | missing : IsBound [] none
  /-- The bound is a number. -/
  | number {t : Text} {n : UInt32} (h : IsNumber t n) : IsBound t (some n)

/-- The texts of a range, white space at their ends aside. -/
inductive Spells : Text → Range → Prop where
  /-- A number is both bounds. -/
  | single {t : Text} {n : UInt32} (h : IsNumber t n) : Spells t (exactly n)
  /-- A hyphen separates two bounds, with white space around it. -/
  | span {low before after high : Text} {min max : Option UInt32} (hlow : IsBound low min)
      (hbefore : ∀ c ∈ before, Text.isSpace c = true) (hafter : ∀ c ∈ after, Text.isSpace c = true)
      (hhigh : IsBound high max) : Spells ((low ++ before) ++ '-' :: (after ++ high)) ⟨min, max⟩

/-! ### Bounds -/

theorem IsNumber.isPlain {t : Text} {n : UInt32} (h : IsNumber t n) :
    ∀ c ∈ t, IsPlain c ∧ c ≠ '-' := by
  have hdigits : ∀ {u : Text} {m : Nat}, Integer.IsDecimal u m →
      ∀ c ∈ u, IsPlain c ∧ c ≠ '-' := by
    intro u m hu c hc
    refine ⟨isPlain_of_isDigit (hu.digits c hc), ?_⟩
    rintro rfl
    exact absurd (hu.digits _ hc) (by decide)
  rw [IsNumber] at h
  generalize (n.toNat : Int) = m at h
  cases h with
  | plain h => exact hdigits h
  | plus h => exact List.forall_mem_cons.mpr ⟨by decide, hdigits h⟩
  | minus hleast => cases hleast

theorem IsNumber.ne_nil {t : Text} {n : UInt32} (h : IsNumber t n) : t ≠ [] := by
  rw [IsNumber] at h
  generalize (n.toNat : Int) = m at h
  cases h with
  | plain h => exact h.ne_nil
  | plus h => exact List.cons_ne_nil _ _
  | minus hleast => exact List.cons_ne_nil _ _

theorem IsBound.isPlain {t : Text} {b : Option UInt32} (h : IsBound t b) :
    ∀ c ∈ t, IsPlain c ∧ c ≠ '-' := by
  cases h with
  | missing => exact List.forall_mem_nil _
  | number h => exact h.isPlain

theorem parseBound_eq_ok_iff {t : Text} {b : Option UInt32} :
    parseBound t = .ok b ↔ IsBound t b := by
  constructor
  · intro h
    rw [parseBound.eq_def] at h
    split at h
    · cases h
      exact .missing
    · obtain ⟨n, hn, rfl⟩ := exists_of_map_eq_ok h
      exact .number (parse32_eq_ok_iff.mp hn)
  · intro h
    cases h with
    | missing => rfl
    | number h =>
      rw [parseBound, parse32_eq_ok_iff.mpr h]
      · rfl
      · exact h.ne_nil

/-! ### White space around the hyphen -/

/-- White space after a bound is trimmed. -/
theorem IsBound.trim_append {t : Text} {b : Option UInt32} (h : IsBound t b) {u : Text}
    (hu : ∀ c ∈ u, Text.isSpace c = true) : Text.trim (t ++ u) = t := by
  rw [Text.trim_append_of_isSpace hu]
  exact trim_of_isPlain fun c hc => (h.isPlain c hc).1

/-- White space before a bound is trimmed. -/
theorem IsBound.trim_append_left {t : Text} {b : Option UInt32} (h : IsBound t b) {u : Text}
    (hu : ∀ c ∈ u, Text.isSpace c = true) : Text.trim (u ++ t) = t := by
  rw [Text.trim_append_left_of_isSpace hu]
  exact trim_of_isPlain fun c hc => (h.isPlain c hc).1

/-- Where a trimmed text is cut, the pieces are trimmed at the cut only. -/
theorem exists_of_cutAt_trim {t low high : Text}
    (h : Text.cutAt '-' t.trim = (low, some high)) :
    (∃ before, (∀ c ∈ before, Text.isSpace c = true) ∧ low = low.trim ++ before) ∧
      ∃ after, (∀ c ∈ after, Text.isSpace c = true) ∧ high = after ++ high.trim := by
  have hsplit := Text.eq_of_cutAt h
  constructor
  · obtain ⟨start, before, hstart, hbefore, hlow⟩ := Text.exists_append_trim_append low
    cases start with
    | nil => exact ⟨before, hbefore, hlow⟩
    | cons c start =>
      -- the text as a whole would start in white space
      have hhead : t.trim.head? = some c := by
        rw [hsplit, hlow]
        rfl
      have hspace := hstart c (List.mem_cons_self ..)
      rw [Text.isSpace_of_head?_trim hhead] at hspace
      cases hspace
  · obtain ⟨after, trail, hafter, htrail, hhigh⟩ := Text.exists_append_trim_append high
    rcases List.eq_nil_or_concat trail with rfl | ⟨trail, c, rfl⟩
    · exact ⟨after, hafter, by rwa [List.append_nil] at hhigh⟩
    · have hlast : t.trim.getLast? = some c := by
        rw [hsplit, hhigh, List.concat_eq_append, ← List.append_assoc, ← List.cons_append,
          ← List.append_assoc, List.getLast?_concat]
      have hspace := htrail c (by simp)
      rw [Text.isSpace_of_getLast?_trim hlast] at hspace
      cases hspace

/-! ### Ranges -/

theorem spells_of_parse {t : Text} {r : Range} (h : parse t = .ok r) : Spells t.trim r := by
  rw [parse] at h
  split at h
  · next number hcut =>
    obtain ⟨n, hn, h⟩ := exists_of_bind_eq_ok h
    cases h
    rw [(Text.eq_of_cutAt_none hcut).1] at hn
    exact .single (parse32_eq_ok_iff.mp hn)
  · next low high hcut =>
    obtain ⟨min, hmin, h⟩ := exists_of_bind_eq_ok h
    obtain ⟨max, hmax, h⟩ := exists_of_bind_eq_ok h
    cases h
    obtain ⟨⟨before, hbefore, hlow⟩, after, hafter, hhigh⟩ := exists_of_cutAt_trim hcut
    rw [Text.eq_of_cutAt hcut, hlow, hhigh]
    exact .span (parseBound_eq_ok_iff.mp hmin) hbefore hafter (parseBound_eq_ok_iff.mp hmax)

theorem parse_of_spells {t : Text} {r : Range} (h : Spells t.trim r) : parse t = .ok r := by
  rw [parse]
  generalize t.trim = u at h
  cases h with
  | single h =>
    have hhyphen : '-' ∉ u := fun hmem => (h.isPlain _ hmem).2 rfl
    rw [Text.cutAt_of_notMem hhyphen]
    dsimp only
    rw [parse32_eq_ok_iff.mpr h]
    rfl
  | @span low before after high min max hlow hbefore hafter hhigh =>
    have hhyphen : '-' ∉ low ++ before := by
      intro hmem
      rcases List.mem_append.mp hmem with hmem | hmem
      · exact (hlow.isPlain _ hmem).2 rfl
      · exact absurd (hbefore _ hmem) (by decide)
    rw [Text.cutAt_append_cons hhyphen]
    dsimp only
    rw [hlow.trim_append hbefore, hhigh.trim_append_left hafter, parseBound_eq_ok_iff.mpr hlow,
      parseBound_eq_ok_iff.mpr hhigh]
    rfl

/-- **Range texts.** Every range is read back from its text. What is read as a range is what spells
it once white space at the ends is trimmed, and every other text is an error about a number. -/
theorem parse_eq_ok_iff_spells :
    (∀ r : Range, parse r.print = .ok r) ∧
      ∀ t : Text, (∀ r, parse t = .ok r ↔ Spells t.trim r) ∧
        ((∃ fault, (parse t).mapError Error.number = .error (.number fault)) ↔
          ¬∃ r, Spells t.trim r) := by
  have hiff : ∀ t r, parse t = .ok r ↔ Spells t.trim r :=
    fun _ _ => ⟨spells_of_parse, parse_of_spells⟩
  refine ⟨parse_print, fun t => ⟨hiff t, ?_⟩⟩
  simp only [← hiff]
  cases parse t with
  | error fault => exact iff_of_true ⟨fault, rfl⟩ fun ⟨_, h⟩ => by cases h
  | ok r => exact iff_of_false (fun ⟨_, h⟩ => by cases h) fun h => h ⟨r, rfl⟩

/-- A second hyphen, a sign inside a number, and a number of more than 32 bits. -/
example : parse "1-2-3".toList = .error .invalidDigit ∧ parse "1+2".toList = .error .invalidDigit ∧
    parse "4294967296-".toList = .error .tooLarge := by
  decide

end Range

end Filmography
