import Filmography.Proofs.Text.Trimming
import Filmography.Query.Directive

/-!
# Names of directives

A directive is found by any of its names in any letter case. The names are made of small letters, so
what a directive is found by has no brace, no colon and no white space, whatever its characters are:
each of them is there in lower case, too.

* `Text.lower_eq_of_map_toLower`: letter case in ASCII makes no difference in lower case;
* `Directive.forall_mem_of_find?`: what a directive is found by;
* `Directive.find?_of_sameName`: the ways to write the name of a directive.
-/

namespace Filmography

namespace Text

/-! ### Lower case -/

/-- A character that has no lower case of its own is in the lower case of a text it is in. -/
theorem mem_lowerAfter {c : Char} (hsigma : c ≠ 'Σ') (hlower : lowerChar c = [c])
    (before : Text) {t : Text} (h : c ∈ t) : c ∈ lowerAfter before t := by
  induction t generalizing before with
  | nil => cases h
  | cons d t ih =>
    rw [lowerAfter, List.mem_append]
    rcases List.mem_cons.mp h with rfl | h
    · left
      rw [if_neg hsigma, hlower]
      exact List.mem_singleton_self _
    · exact .inr (ih _ h)

/-- A capital sigma is a small one of either form in lower case. -/
theorem sigma_mem_lowerAfter (before : Text) {t : Text} (h : 'Σ' ∈ t) :
    'σ' ∈ lowerAfter before t ∨ 'ς' ∈ lowerAfter before t := by
  induction t generalizing before with
  | nil => cases h
  | cons d t ih =>
    rw [lowerAfter, List.mem_append, List.mem_append]
    rcases List.mem_cons.mp h with rfl | h
    · rw [if_pos rfl]
      split
      · exact .inr (.inl (List.mem_singleton_self _))
      · exact .inl (.inl (List.mem_singleton_self _))
    · exact (ih _ h).imp .inr .inr

/-- Without a capital sigma every character has the same lower case wherever it stands. -/
theorem lowerAfter_of_notMem (before : Text) {t : Text} (h : 'Σ' ∉ t) :
    lowerAfter before t = t.flatMap lowerChar := by
  induction t generalizing before with
  | nil => rfl
  | cons c t ih =>
    obtain ⟨hc, ht⟩ := List.ne_and_not_mem_of_not_mem_cons h
    rw [lowerAfter, if_neg (Ne.symm hc), ih _ ht, List.flatMap_cons]

/-- Only the capital letters of ASCII have another small letter in ASCII. -/
theorem capital_or_toLower_eq (c : Char) : (∃ n < 26, c = Char.ofNat (65 + n)) ∨ c.toLower = c := by
  by_cases h : c.val ≥ 'A'.val ∧ c.val ≤ 'Z'.val
  · have hlow : 65 ≤ c.toNat := h.1
    have hhigh : c.toNat ≤ 90 := h.2
    refine .inl ⟨c.toNat - 65, by omega, ?_⟩
    rw [Nat.add_sub_of_le hlow, Char.ofNat_toNat]
  · exact .inr (dif_neg h)

/-- A capital letter of ASCII has the same lower case as its small letter. -/
theorem lowerChar_toLower (c : Char) : lowerChar c.toLower = lowerChar c := by
  have hcapital : ∀ n < 26, lowerChar (Char.ofNat (65 + n)).toLower =
      lowerChar (Char.ofNat (65 + n)) := by
    decide
  rcases capital_or_toLower_eq c with ⟨n, hn, rfl⟩ | hsame
  · exact hcapital n hn
  · rw [hsame]

theorem sigma_mem_map_toLower {t : Text} : 'Σ' ∈ t.map Char.toLower ↔ 'Σ' ∈ t := by
  have hcapital : ∀ n < 26, (Char.ofNat (65 + n)).toLower ≠ 'Σ' := by
    decide
  constructor
  · intro h
    obtain ⟨c, hc, hlower⟩ := List.mem_map.mp h
    rcases capital_or_toLower_eq c with ⟨n, hn, rfl⟩ | hsame
    · exact absurd hlower (hcapital n hn)
    · rwa [← hlower, hsame]
  · exact fun h => List.mem_map_of_mem (f := Char.toLower) h

/-- Texts that differ in the letter case of ASCII letters only have the same lower case. -/
theorem lower_eq_of_map_toLower {t u : Text} (ht : 'Σ' ∉ t)
    (h : u.map Char.toLower = t.map Char.toLower) : u.lower = t.lower := by
  have hu : 'Σ' ∉ u := by
    rwa [← sigma_mem_map_toLower, h, sigma_mem_map_toLower]
  have hmap : ∀ v : Text, (v.map Char.toLower).flatMap lowerChar = v.flatMap lowerChar := by
    intro v
    rw [List.flatMap_map, funext lowerChar_toLower]
  rw [lower, lower, lowerAfter_of_notMem [] hu, lowerAfter_of_notMem [] ht, ← hmap u, h, hmap t]

/-- White space has no letter case. -/
theorem lowerChar_of_isSpace {c : Char} (h : isSpace c = true) : lowerChar c = [c] := by
  have hspaces : c.toNat ∈ [0x9, 0xA, 0xB, 0xC, 0xD, 0x20, 0x85, 0xA0, 0x1680, 0x2000, 0x2001,
      0x2002, 0x2003, 0x2004, 0x2005, 0x2006, 0x2007, 0x2008, 0x2009, 0x200A, 0x2028, 0x2029,
      0x202F, 0x205F, 0x3000] := by
    simp [isSpace] at h ⊢
    omega
  have hall : ∀ n ∈ [0x9, 0xA, 0xB, 0xC, 0xD, 0x20, 0x85, 0xA0, 0x1680, 0x2000, 0x2001,
      0x2002, 0x2003, 0x2004, 0x2005, 0x2006, 0x2007, 0x2008, 0x2009, 0x200A, 0x2028, 0x2029,
      0x202F, 0x205F, 0x3000], n ≠ 0x130 ∧ shiftOf caseRuns n = 0 := by
    decide
  obtain ⟨hne, hshift⟩ := hall _ hspaces
  rw [lowerChar, if_neg hne, hshift, Int.add_zero, Int.toNat_natCast, Char.ofNat_toNat]

theorem isSpace_of_isLower {c : Char} (h : c.isLower = true) : isSpace c = false := by
  have hboth : (decide (97 ≤ c.toNat) && decide (c.toNat ≤ 122)) = true := h
  simp at hboth
  simp [isSpace]
  omega

/-- What is found by a word has a word that is the lower case of this one. -/
theorem exists_word_of_find? {α : Type} {all : List α} {words : α → List String} {t : Text} {x : α}
    (h : (all.find? fun x => (words x).any fun w => w.toList == t.lower) = some x) :
    ∃ w ∈ words x, w.toList = t.lower := by
  have hfound := List.find?_some h
  obtain ⟨w, hw, hlower⟩ : ∃ w ∈ words x, (w.toList == t.lower) = true :=
    List.any_eq_true.mp hfound
  exact ⟨w, hw, eq_of_beq hlower⟩

end Text

namespace Directive

/-! ### What a directive is found by -/

/-- A directive is found by each of its names. -/
theorem find?_of_mem_names {d : Directive} {m : String} (h : m ∈ d.names) :
    find? m.toList = some d := by
  have hall : ∀ d : Directive, ∀ m ∈ d.names, find? m.toList = some d := by
    intro d
    cases d <;> decide
  exact hall d m h

/-- Names are made of small letters. -/
theorem isLower_of_mem_name {d : Directive} {m : String} (h : m ∈ d.names) :
    ∀ c ∈ m.toList, c.isLower = true := by
  have hall : (d.names.all fun m => m.toList.all Char.isLower) = true := by
    cases d <;> rfl
  exact List.all_eq_true.mp (List.all_eq_true.mp hall m h)

section

variable {n : Text} {d : Directive} (h : find? n = some d)

include h

/-- A directive is found by one of its names in lower case. -/
theorem exists_name_of_find? : ∃ m ∈ d.names, m.toList = n.lower :=
  Text.exists_word_of_find? h

/-- A character without a lower case of its own is a small letter if a directive is found by it. -/
theorem isLower_of_find? {c : Char} (hc : c ∈ n) (hsigma : c ≠ 'Σ')
    (hlower : Text.lowerChar c = [c]) : c.isLower = true := by
  obtain ⟨m, hm, hword⟩ := exists_name_of_find? h
  refine isLower_of_mem_name hm c ?_
  rw [hword]
  exact Text.mem_lowerAfter hsigma hlower [] hc

theorem sigma_notMem_of_find? : 'Σ' ∉ n := by
  intro hmem
  obtain ⟨m, hm, hword⟩ := exists_name_of_find? h
  have hletter := isLower_of_mem_name hm
  rw [hword] at hletter
  rcases Text.sigma_mem_lowerAfter [] hmem with hsmall | hfinal
  · exact absurd (hletter _ hsmall) (by decide)
  · exact absurd (hletter _ hfinal) (by decide)

/-- The name of a directive has neither braces nor colons nor white space, in whatever letter case
it is written. -/
theorem forall_mem_of_find? : ∀ c ∈ n, c ≠ '{' ∧ c ≠ '}' ∧ c ≠ ':' ∧ Text.isSpace c = false := by
  intro c hc
  refine ⟨?_, ?_, ?_, ?_⟩
  · rintro rfl
    exact absurd (isLower_of_find? h hc (by decide) (by decide)) (by decide)
  · rintro rfl
    exact absurd (isLower_of_find? h hc (by decide) (by decide)) (by decide)
  · rintro rfl
    exact absurd (isLower_of_find? h hc (by decide) (by decide)) (by decide)
  · by_contra hspace
    rw [Bool.not_eq_false] at hspace
    have hsigma : c ≠ 'Σ' := by
      rintro rfl
      cases hspace
    have hletter := isLower_of_find? h hc hsigma (Text.lowerChar_of_isSpace hspace)
    rw [Text.isSpace_of_isLower hletter] at hspace
    cases hspace

theorem colon_notMem_of_find? : ':' ∉ n :=
  fun hmem => (forall_mem_of_find? h _ hmem).2.2.1 rfl

theorem trim_of_find? : n.trim = n :=
  Text.trim_eq_self_of_forall fun c hc => (forall_mem_of_find? h c hc).2.2.2

end

/-! ### Ways to write a name -/

/-- What can stand for the name of a directive: another name of it, or the name in other letter
case. -/
inductive SameName (d : Directive) (n : Text) : Text → Prop
  /-- The canonical name or a synonym. -/
  | name {m : String} (h : m ∈ d.names) : SameName d n m.toList
  /-- Small and capital letters of ASCII for each other. -/
  | letterCase {n' : Text} (h : n'.map Char.toLower = n.map Char.toLower) : SameName d n n'

/-- A directive is found by whatever can stand for its name. -/
theorem find?_of_sameName {d : Directive} {n n' : Text} (hn : find? n = some d)
    (h : SameName d n n') : find? n' = some d := by
  rcases h with hm | hcase
  · exact find?_of_mem_names hm
  · rw [find?, Text.lower_eq_of_map_toLower (sigma_notMem_of_find? hn) hcase]
    exact hn

end Directive

end Filmography
