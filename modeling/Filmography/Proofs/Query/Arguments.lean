import Filmography.Proofs.Query.Directives
import Filmography.Proofs.Query.Ranges
import Filmography.Proofs.Text.Runs

/-!
# Arguments have no braces

A directive may be nested in the argument of another one only if that is read as a query. Ranges,
limits, sort keys and similarities are made of digits, signs and letters, so an argument with an
opening brace is refused, whatever else it has.

* `Integer.Format.isNumeral_of_parse`: the characters of an integer;
* `Directive.brace_notMem_of_read`: an argument that is read but not as a query has no brace.
-/

namespace Filmography

/-! ### Integers and ranges -/

/-- A sign or a decimal digit. -/
def Integer.IsNumeral (c : Char) : Prop :=
  c = '+' ∨ c = '-' ∨ (digitValue? 10 c).isSome = true

/-- An integer consists of a sign and digits. -/
theorem Integer.Format.isNumeral_of_parse {f : Format} {t : Text} {n : Int}
    (h : f.parse t = .ok n) : ∀ c ∈ t, IsNumeral c := by
  intro c hc
  obtain hplus | hminus | hdigit := (parse_eq_ok_iff.mp h).isDigit_or_sign c hc
  · exact .inl hplus
  · exact .inr (.inl hminus)
  · exact .inr (.inr (by rw [digitValue?_ten hdigit]; rfl))

theorem Integer.not_isNumeral_brace : ¬IsNumeral '{' := by
  simp [IsNumeral, digitValue?]

theorem Integer.brace_notMem_of_parse {f : Format} {t : Text} {n : Int} (h : f.parse t = .ok n) :
    '{' ∉ t :=
  fun hbrace => not_isNumeral_brace (Format.isNumeral_of_parse h _ hbrace)

/-- The bounds of a range are integers, and between them there is a hyphen. -/
theorem Range.brace_notMem_of_parse {t : Text} {r : Range} (h : parse t = .ok r) : '{' ∉ t := by
  have hbound : ∀ {u : Text} {b : Option UInt32}, IsBound u b → '{' ∉ u :=
    fun hu hmem => absurd (hu.isPlain _ hmem) (by decide)
  have hspace : ∀ {u : Text}, (∀ c ∈ u, Text.isSpace c = true) → '{' ∉ u :=
    fun hu hmem => absurd (hu _ hmem) (by decide)
  intro hbrace
  have htrimmed : '{' ∈ t.trim := (Text.mem_trim_iff rfl).mpr hbrace
  have hspells := spells_of_parse h
  generalize t.trim = u at htrimmed hspells
  cases hspells with
  | single hnumber => exact hbound (.number hnumber) htrimmed
  | span hlow hbefore hafter hhigh =>
    simp only [List.mem_append, List.mem_cons] at htrimmed
    obtain (hmem | hmem) | hmem | hmem | hmem := htrimmed
    · exact hbound hlow hmem
    · exact hspace hbefore hmem
    · exact absurd hmem (by decide)
    · exact hspace hafter hmem
    · exact hbound hhigh hmem

/-! ### Floating-point numbers -/

theorem FloatText.brace_notMem_of_isWord {w : String} (hw : '{' ∉ w.toList) {t : Text}
    (h : isWord w t = true) : '{' ∉ t := by
  intro hbrace
  have hmapped : '{'.toLower ∈ t.map Char.toLower := List.mem_map_of_mem hbrace
  rw [eq_of_beq h] at hmapped
  exact hw hmapped

/-- A text of digits has no brace. -/
theorem brace_notMem_of_all_isDigit {t : Text} (h : t.all Char.isDigit = true) : '{' ∉ t :=
  fun hbrace => absurd (List.all_eq_true.mp h _ hbrace) (by decide)

theorem FloatText.brace_notMem_of_exponent? {t : Text} {e : Int} (h : exponent? t = some e) :
    '{' ∉ t := by
  rw [exponent?.eq_def] at h
  split at h
  all_goals
    split at h
    · next hdigits =>
      have hnone := brace_notMem_of_all_isDigit hdigits.2
      simpa using hnone
    · cases h

/-- Before the exponent there are digits and a point. -/
theorem FloatText.brace_notMem_of_finite? {t : Text} {x : Float} (h : finite? t = some x) :
    '{' ∉ t := by
  have hdrop : ∀ {u : Text}, '{' ∈ u → '{' ∈ u.dropWhile Char.isDigit :=
    (Text.mem_dropWhile_iff (by decide)).mpr
  intro hbrace
  have hafter := hdrop hbrace
  rw [finite?] at h
  generalize t.dropWhile Char.isDigit = after at h hafter
  split at h
  next fraction rest hsplit =>
    have hrest : '{' ∈ rest := by
      split at hsplit
      · cases hsplit
        exact hdrop ((List.mem_cons.mp hafter).resolve_left (by decide))
      · cases hsplit
        exact hafter
    split at h
    · cases h
    · dsimp only at h
      split at h
      · cases hrest
      · split at h
        · next hletter =>
          obtain ⟨e, he, -⟩ := Option.map_eq_some_iff.mp h
          rcases List.mem_cons.mp hrest with rfl | hpower
          · exact absurd hletter (by decide)
          · exact brace_notMem_of_exponent? he hpower
        · cases h

theorem FloatText.brace_notMem_of_unsigned? {t : Text} {x : Float} (h : unsigned? t = some x) :
    '{' ∉ t := by
  rw [unsigned?] at h
  split at h
  · next hword =>
    rcases Bool.or_eq_true_iff.mp hword with hword | hword
    · exact brace_notMem_of_isWord (by decide) hword
    · exact brace_notMem_of_isWord (by decide) hword
  · split at h
    · next hword => exact brace_notMem_of_isWord (by decide) hword
    · exact brace_notMem_of_finite? h

theorem FloatText.brace_notMem_of_parse {t : Text} {x : Float} (h : parse t = .ok x) :
    '{' ∉ t := by
  have hunsigned : ∀ r, unsigned? r ≠ none → '{' ∉ r := by
    intro r hr
    obtain ⟨y, hy⟩ := Option.ne_none_iff_exists'.mp hr
    exact brace_notMem_of_unsigned? hy
  rw [parse.eq_def] at h
  split at h
  · cases h
  · rename_i r
    refine List.not_mem_cons_of_ne_of_not_mem (by decide) (hunsigned r fun hr => ?_)
    rw [hr] at h
    cases h
  · rename_i r
    refine List.not_mem_cons_of_ne_of_not_mem (by decide) (hunsigned r fun hr => ?_)
    rw [hr] at h
    cases h
  · rename_i hne _ _
    refine hunsigned t fun hr => ?_
    obtain ⟨c, r, rfl⟩ := List.exists_cons_of_ne_nil hne
    rw [hr] at h
    cases h

/-! ### Sort keys -/

/-- What is found by a word in any letter case has the characters of the word that have no case. -/
private theorem exists_brace_mem_word {α : Type} {all : List α} {words : α → List String} {t : Text}
    {x : α} (h : (all.find? fun x => (words x).any fun w => w.toList == t.lower) = some x)
    (hbrace : '{' ∈ t) : ∃ w ∈ words x, '{' ∈ w.toList := by
  obtain ⟨w, hw, hlower⟩ := Text.exists_word_of_find? h
  refine ⟨w, hw, ?_⟩
  rw [hlower]
  exact Text.mem_lowerAfter (by decide) (by decide) [] hbrace

theorem SortColumn.brace_notMem_of_parse {t : Text} {c : SortColumn} (h : parse t = .ok c) :
    '{' ∉ t := by
  have hwords : ∀ c : SortColumn, ∀ w ∈ c.words, '{' ∉ w.toList := by
    intro c
    cases c <;> decide
  intro hbrace
  rw [parse] at h
  split at h
  · next c hc =>
    obtain ⟨w, hw, hmem⟩ := exists_brace_mem_word hc hbrace
    exact hwords c w hw hmem
  · cases h

theorem Direction.brace_notMem_of_parse {t : Text} {d : Direction} (h : parse t = .ok d) :
    '{' ∉ t := by
  have hwords : ∀ d : Direction, ∀ w ∈ d.words, '{' ∉ w.toList := by
    intro d
    cases d <;> decide
  intro hbrace
  rw [parse] at h
  split at h
  · next d hd =>
    obtain ⟨w, hw, hmem⟩ := exists_brace_mem_word hd hbrace
    exact hwords d w hw hmem
  · cases h

/-- A sort key is made of one or two words, which have no brace. -/
theorem SortKey.brace_notMem_of_parse {t : Text} {k : SortKey} (h : parse t = .ok k) : '{' ∉ t := by
  have hwords : ∀ w ∈ t.words, '{' ∉ w := by
    rw [parse] at h
    split at h
    · next column hcolumn =>
      obtain ⟨c, hc, -⟩ := exists_of_bind_eq_ok h
      rw [hcolumn]
      exact List.forall_mem_singleton.mpr (SortColumn.brace_notMem_of_parse (eq_ok_of_mapError hc))
    · next column direction hboth =>
      obtain ⟨c, hc, h⟩ := exists_of_bind_eq_ok h
      obtain ⟨d, hd, -⟩ := exists_of_bind_eq_ok h
      rw [hboth]
      refine List.forall_mem_cons.mpr ⟨SortColumn.brace_notMem_of_parse (eq_ok_of_mapError hc), ?_⟩
      exact List.forall_mem_singleton.mpr (Direction.brace_notMem_of_parse (eq_ok_of_mapError hd))
    · cases h
  intro hbrace
  obtain ⟨w, hw, hmem⟩ := Text.exists_mem_runs (p := fun c => !Text.isSpace c) rfl hbrace
  exact hwords w hw hmem

/-! ### Directives -/

/-- An argument with a brace is read as a query or not at all. -/
theorem Directive.brace_notMem_of_read {d : Directive} {arg : Option Text} {c : Call}
    (hform : ∀ role call, d.form ≠ .sub role call) (h : Query.readDirective d arg = .ok c) :
    ∀ a, arg = some a → '{' ∉ a := by
  rcases Query.readDirective_eq_ok_iff.mp h with - | ⟨-, hr⟩ | ⟨hsub, -⟩ | ⟨-, hn, -⟩ |
    ⟨-, hn, -⟩ | ⟨-, hk⟩ | ⟨-, hx, -⟩
  · rintro a ⟨⟩
  · rintro a ⟨⟩
    exact Range.brace_notMem_of_parse hr
  · exact absurd hsub (hform _ _)
  · rintro a ⟨⟩
    exact Integer.brace_notMem_of_parse hn
  · rintro a ⟨⟩
    exact Integer.brace_notMem_of_parse hn
  · rintro a ⟨⟩
    exact SortKey.brace_notMem_of_parse hk
  · rintro a ⟨⟩
    exact FloatText.brace_notMem_of_parse hx

end Filmography
