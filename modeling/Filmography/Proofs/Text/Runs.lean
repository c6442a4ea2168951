import Filmography.Text.Basic

/-!
# Runs

A run of a text is a piece of it that is not empty, whose characters all have a property, and that
cannot be made longer at either end. The runs of a text fall apart at every character without the
property, and all that is said of them here follows from that one equation.

* `Text.runs_append_cons`: the runs on the two sides of a character without the property;
* `Text.mem_runs_iff`: the runs that are listed are exactly those that there are;
* `Text.exists_mem_runs`: a character with the property is in a run.
-/

namespace Filmography

namespace Text

/-- A piece of a text whose characters have a property, and that does not go on at either end. -/
structure IsRun (p : Char → Bool) (w t : Text) : Prop where
  /-- There is something. -/
  ne_nil : w ≠ []
  /-- Its characters have the property. -/
  all : ∀ c ∈ w, p c = true
  /-- What stands before it and after it in the text, if anything, does not belong to it. -/
  stops : ∃ before after, t = before ++ w ++ after ∧
    (∀ c, before.getLast? = some c → p c = false) ∧ ∀ c, after.head? = some c → p c = false

variable {p : Char → Bool}

theorem settle_append (r : Text × List Text) (ts : List Text) :
    settle (r.1, r.2 ++ ts) = settle r ++ ts := by
  rcases r with ⟨_ | ⟨c, w⟩, us⟩
  · rfl
  · rfl

/-- A character without the property ends a run, and none goes across it. -/
theorem runs_append_cons {c : Char} (hc : p c = false) (x y : Text) :
    runs p (x ++ c :: y) = runs p x ++ runs p y := by
  have hfrom : runsFrom p (x ++ c :: y) = ((runsFrom p x).1, (runsFrom p x).2 ++ runs p y) := by
    induction x with
    | nil => simp [runsFrom, runs, hc]
    | cons d x ih =>
      rw [List.cons_append, runsFrom, ih, settle_append, runsFrom]
      split
      · rfl
      · rfl
  rw [runs, hfrom, settle_append, ← runs]

/-- A text whose characters all have the property is a run of its own. -/
theorem runs_of_forall {w : Text} (hne : w ≠ []) (hw : ∀ c ∈ w, p c = true) : runs p w = [w] := by
  have hfrom : runsFrom p w = (w, []) := by
    clear hne
    induction w with
    | nil => rfl
    | cons c w ih =>
      rw [runsFrom, ih fun d hd => hw d (List.mem_cons_of_mem _ hd),
        if_pos (hw c (List.mem_cons_self ..))]
  obtain ⟨c, w, rfl⟩ := List.exists_cons_of_ne_nil hne
  rw [runs, hfrom]
  rfl

/-- A run of the text before a character without the property, or of the text after it, is one of
the whole text. -/
theorem IsRun.append_cons {c : Char} (hc : p c = false) {w x y : Text}
    (h : IsRun p w x ∨ IsRun p w y) : IsRun p w (x ++ c :: y) := by
  obtain ⟨hne, hall, before, after, rfl, hbefore, hafter⟩ |
    ⟨hne, hall, before, after, rfl, hbefore, hafter⟩ := h
  · refine ⟨hne, hall, before, after ++ c :: y, by simp, hbefore, ?_⟩
    intro d hd
    rcases after with _ | ⟨e, after⟩
    · cases hd
      exact hc
    · exact hafter d hd
  · refine ⟨hne, hall, x ++ c :: before, after, by simp, ?_, hafter⟩
    intro d hd
    rcases List.eq_nil_or_concat before with rfl | ⟨b, e, rfl⟩
    · rw [List.getLast?_append, List.getLast?_singleton, Option.some_or] at hd
      cases hd
      exact hc
    · refine hbefore d ?_
      rw [List.concat_eq_append, List.getLast?_concat]
      rw [List.concat_eq_append, ← List.cons_append, ← List.append_assoc,
        List.getLast?_concat] at hd
      exact hd

/-- The runs that are listed are those that the text has. -/
theorem mem_runs_iff {w t : Text} : w ∈ runs p t ↔ IsRun p w t := by
  constructor
  · -- Either the text is a run itself, or it falls apart at a character without the property into
    -- two shorter ones.
    intro h
    induction hn : t.length using Nat.strongRecOn generalizing t with
    | ind n ih =>
      subst hn
      by_cases hstop : ∃ c ∈ t, p c = false
      · obtain ⟨c, hmem, hc⟩ := hstop
        obtain ⟨x, y, rfl⟩ := List.append_of_mem hmem
        rw [List.length_append, List.length_cons] at ih
        rw [runs_append_cons hc, List.mem_append] at h
        exact .append_cons hc (h.imp (fun h => ih _ (by omega) h rfl)
          fun h => ih _ (by omega) h rfl)
      · have hall : ∀ c ∈ t, p c = true := by simpa using hstop
        have hne : t ≠ [] := by
          rintro rfl
          cases h
        rw [runs_of_forall hne hall, List.mem_singleton] at h
        subst h
        exact ⟨hne, hall, [], [], by simp, nofun, nofun⟩
  · rintro ⟨hne, hall, before, after, rfl, hbefore, hafter⟩
    have hfront : w ∈ runs p (w ++ after) := by
      rcases after with _ | ⟨c, after⟩
      · rw [List.append_nil, runs_of_forall hne hall]
        exact List.mem_singleton_self w
      · rw [runs_append_cons (hafter c rfl), runs_of_forall hne hall]
        exact List.mem_cons_self ..
    rcases List.eq_nil_or_concat before with rfl | ⟨b, c, rfl⟩
    · rwa [List.nil_append]
    · have hc : p c = false := hbefore c (by rw [List.concat_eq_append, List.getLast?_concat])
      have hsplit : b.concat c ++ w ++ after = b ++ c :: (w ++ after) := by simp
      rw [hsplit, runs_append_cons hc]
      exact List.mem_append_right _ hfront

/-- A character with the property is in a run. -/
theorem exists_mem_runs {t : Text} {c : Char} (hc : p c = true) (h : c ∈ t) :
    ∃ r ∈ runs p t, c ∈ r := by
  have hsettle : ∀ r : Text × List Text, c ∈ r.1 ∨ (∃ u ∈ r.2, c ∈ u) → ∃ u ∈ settle r, c ∈ u := by
    rintro ⟨_ | ⟨d, w⟩, ts⟩ (hfirst | hrest)
    · cases hfirst
    · exact hrest
    · exact ⟨d :: w, List.mem_cons_self .., hfirst⟩
    · obtain ⟨u, hu, hcu⟩ := hrest
      exact ⟨u, List.mem_cons_of_mem _ hu, hcu⟩
  refine hsettle _ ?_
  induction t with
  | nil => cases h
  | cons d t ih =>
    rw [runsFrom]
    rcases List.mem_cons.mp h with rfl | h
    · rw [if_pos hc]
      exact .inl (List.mem_cons_self ..)
    · split
      · exact (ih h).imp_left (List.mem_cons_of_mem d)
      · exact .inr (hsettle _ (ih h))

/-- A text has a run exactly if it has a character with the property. -/
theorem runs_eq_nil_iff {t : Text} : runs p t = [] ↔ ∀ c ∈ t, p c = false := by
  constructor
  · intro h c hmem
    refine Bool.eq_false_iff.mpr fun hc => ?_
    obtain ⟨r, hr, -⟩ := exists_mem_runs hc hmem
    rw [h] at hr
    cases hr
  · intro h
    refine List.eq_nil_iff_forall_not_mem.mpr fun w hw => ?_
    obtain ⟨hne, hall, before, after, rfl, -⟩ := mem_runs_iff.mp hw
    obtain ⟨c, w, rfl⟩ := List.exists_cons_of_ne_nil hne
    have hfalse := h c (by simp)
    rw [hall c (List.mem_cons_self ..)] at hfalse
    cases hfalse

end Text

end Filmography
