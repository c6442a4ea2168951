import Mathlib.Data.List.TakeWhile
import Filmography.Text.Basic

/-!
# Trimming, cutting and joining

Words are joined by blanks, and what is joined is trimmed later. Trimming eats into the words from
the end: the white space that the last word ends in goes, and if nothing is left of the word, so
does the blank before it, and the word before that is the last one.

* `Text.trim_eq_self`: a text that neither starts nor ends in white space is not trimmed;
* `Text.trimEnd_spread`: what trimming leaves of words after blanks is `Text.trimWords`;
* `Text.trimWords_eq_self_iff`: trimming leaves words alone exactly when the last one does not end
  in white space.
-/

namespace Filmography

namespace Text

/-! ### Trimming -/

theorem trimEnd_append (a b : Text) :
    trimEnd (a ++ b) = if trimEnd b = [] then trimEnd a else a ++ trimEnd b := by
  induction a with
  | nil =>
    rw [List.nil_append, List.nil_append]
    split
    · assumption
    · rfl
  | cons c a ih =>
    rw [List.cons_append, trimEnd, ih]
    by_cases hb : trimEnd b = []
    · rw [if_pos hb, if_pos hb, trimEnd]
    · rw [if_neg hb, if_neg hb]
      cases h : a ++ trimEnd b with
      | nil => exact absurd (List.append_eq_nil_iff.mp h).2 hb
      | cons d u => rw [List.cons_append, h]

/-- White space at the end is trimmed as far as it goes. -/
theorem trimEnd_eq_self_iff {t : Text} :
    trimEnd t = t ↔ ∀ c, t.getLast? = some c → isSpace c = false := by
  rcases List.eq_nil_or_concat t with rfl | ⟨u, c, rfl⟩
  · simp [trimEnd]
  · rw [List.concat_eq_append, trimEnd_append]
    simp only [List.getLast?_append, List.getLast?_singleton, Option.some_or, Option.some.injEq,
      forall_eq']
    cases hc : isSpace c with
    | false => simp [trimEnd, hc]
    | true =>
      have hlen := length_trimEnd_le u
      simp only [trimEnd, hc, if_true, reduceCtorEq, iff_false]
      intro h
      rw [h, List.length_append, List.length_singleton] at hlen
      omega

theorem trimStart_eq_self {t : Text} (h : ∀ c, t.head? = some c → isSpace c = false) :
    trimStart t = t := by
  cases t with
  | nil => rfl
  | cons c t => rw [trimStart, List.dropWhile_cons_of_neg (by simp [h c rfl])]

/-- A text that starts with a character other than white space is only trimmed at its end. -/
theorem trim_eq_trimEnd {t : Text} (h : ∀ c, t.head? = some c → isSpace c = false) :
    trim t = trimEnd t := by
  rw [trim, trimStart_eq_self h]

/-- A text that neither starts nor ends in white space is not trimmed. -/
theorem trim_eq_self {t : Text} (hstart : ∀ c, t.head? = some c → isSpace c = false)
    (hend : ∀ c, t.getLast? = some c → isSpace c = false) : trim t = t := by
  rw [trim_eq_trimEnd hstart, trimEnd_eq_self_iff.mpr hend]

/-- A text without white space is not trimmed. -/
theorem trim_eq_self_of_forall {t : Text} (h : ∀ c ∈ t, isSpace c = false) : trim t = t :=
  trim_eq_self (fun c hc => h c (List.mem_of_head? hc)) fun c hc => h c (List.mem_of_getLast? hc)

/-- What is trimmed at the end is white space. -/
theorem exists_trimEnd_append (t : Text) :
    ∃ b, (∀ c ∈ b, isSpace c = true) ∧ t = trimEnd t ++ b := by
  induction t with
  | nil => exact ⟨[], by simp, rfl⟩
  | cons c t ih =>
    obtain ⟨b, hb, ht⟩ := ih
    rw [trimEnd]
    cases hkept : trimEnd t with
    | nil =>
      rw [hkept, List.nil_append] at ht
      cases hc : isSpace c with
      | true => exact ⟨c :: b, List.forall_mem_cons.mpr ⟨hc, hb⟩, by simp [← ht]⟩
      | false => exact ⟨b, hb, by simp [← ht]⟩
    | cons d kept =>
      rw [hkept] at ht
      exact ⟨b, hb, by rw [List.cons_append, ← ht]⟩

theorem trimEnd_eq_or_length_lt (t : Text) : trimEnd t = t ∨ (trimEnd t).length < t.length := by
  obtain ⟨b, -, ht⟩ := exists_trimEnd_append t
  have hlen : t.length = (trimEnd t).length + b.length := by
    rw [← List.length_append, ← ht]
  cases b with
  | nil => exact .inl (by rw [← List.append_nil (trimEnd t), ← ht])
  | cons c b =>
    rw [List.length_cons] at hlen
    exact .inr (by omega)

/-- What is trimmed is white space. -/
theorem exists_append_trim_append (t : Text) :
    ∃ a b, (∀ c ∈ a, isSpace c = true) ∧ (∀ c ∈ b, isSpace c = true) ∧ t = a ++ trim t ++ b := by
  obtain ⟨b, hb, hend⟩ := exists_trimEnd_append (trimStart t)
  refine ⟨t.takeWhile isSpace, b, List.all_eq_true.mp List.all_takeWhile, hb, ?_⟩
  rw [trim, List.append_assoc, ← hend, trimStart, List.takeWhile_append_dropWhile]

/-- What is left does not start in white space. -/
theorem isSpace_of_head?_trim {t : Text} {c : Char} (h : (trim t).head? = some c) :
    isSpace c = false := by
  obtain ⟨b, -, hend⟩ := exists_trimEnd_append (trimStart t)
  have hstart : (t.dropWhile isSpace).head? = some c := by
    rw [trim] at h
    rw [← trimStart, hend, List.head?_append, h, Option.some_or]
  have hnot := List.head?_dropWhile_not isSpace t
  rw [hstart] at hnot
  exact hnot

theorem trimEnd_trimEnd (t : Text) : trimEnd (trimEnd t) = trimEnd t := by
  induction t with
  | nil => rfl
  | cons c t ih =>
    rw [trimEnd]
    cases hkept : trimEnd t with
    | nil => cases hc : isSpace c <;> simp [trimEnd, hc]
    | cons d kept =>
      rw [hkept] at ih
      rw [trimEnd, ih]

/-- What is left does not end in white space. -/
theorem isSpace_of_getLast?_trim {t : Text} {c : Char} (h : (trim t).getLast? = some c) :
    isSpace c = false :=
  trimEnd_eq_self_iff.mp (trimEnd_trimEnd (trimStart t)) c h

/-- White space after a text is trimmed. -/
theorem trim_append_of_isSpace {u : Text} (hu : ∀ c ∈ u, isSpace c = true) (t : Text) :
    trim (t ++ u) = trim t := by
  have hstart : trimStart u = [] := List.dropWhile_eq_nil_iff.mpr hu
  have hend : trimEnd u = [] := by
    clear hstart
    induction u with
    | nil => rfl
    | cons c u ih =>
      obtain ⟨hc, hu⟩ := List.forall_mem_cons.mp hu
      rw [trimEnd, ih hu]
      exact if_pos hc
  have happend : trimStart (t ++ u) = if (trimStart t).isEmpty then trimStart u
      else trimStart t ++ u := List.dropWhile_append
  rw [trim, trim, happend]
  split
  · next hnil => rw [hstart, List.isEmpty_iff.mp hnil]
  · rw [trimEnd_append, if_pos hend]

/-- White space before a text is trimmed. -/
theorem trim_append_left_of_isSpace {u : Text} (hu : ∀ c ∈ u, isSpace c = true) (t : Text) :
    trim (u ++ t) = trim t := by
  rw [trim, trimStart, List.dropWhile_append_of_pos hu, trim, trimStart]

/-- After something that is left, nothing is trimmed before a character other than white space. -/
theorem exists_trim_append_concat {t : Text} (ht : trim t ≠ []) :
    ∃ b, (∀ c ∈ b, isSpace c = true) ∧ ∀ (u : Text) (c : Char), isSpace c = false →
      trim (t ++ u ++ [c]) = trim t ++ (b ++ u) ++ [c] := by
  obtain ⟨a, b, ha, hb, hsplit⟩ := exists_append_trim_append t
  refine ⟨b, hb, fun u c hc => ?_⟩
  have hwhole : t ++ u ++ [c] = a ++ (trim t ++ (b ++ u) ++ [c]) := by
    have happend : ∀ m : Text, a ++ m ++ b ++ u ++ [c] = a ++ (m ++ (b ++ u) ++ [c]) := by
      simp only [List.append_assoc, implies_true]
    rw [← happend, ← hsplit]
  have hstart : ∀ d, (trim t ++ (b ++ u) ++ [c]).head? = some d → isSpace d = false := by
    obtain ⟨e, m, hm⟩ := List.exists_cons_of_ne_nil ht
    rintro d hd
    rw [hm] at hd
    cases hd
    exact isSpace_of_head?_trim (t := t) (by rw [hm]; rfl)
  have hend : ∀ d, (trim t ++ (b ++ u) ++ [c]).getLast? = some d → isSpace d = false := by
    intro d hd
    rw [List.getLast?_concat] at hd
    cases hd
    exact hc
  have hself := trim_eq_self hstart hend
  rw [trim, trimStart] at hself ⊢
  rw [hwhole, List.dropWhile_append_of_pos ha, hself]

/-! ### Cutting -/

/-- A text that does not contain the separator is not cut. -/
theorem cutAt_of_notMem {sep : Char} {t : Text} (h : sep ∉ t) : cutAt sep t = (t, none) := by
  induction t with
  | nil => rfl
  | cons c t ih =>
    obtain ⟨hc, ht⟩ := List.ne_and_not_mem_of_not_mem_cons h
    rw [cutAt, if_neg (Ne.symm hc), ih ht]

/-- A text is cut where the separator stands first. -/
theorem cutAt_append_cons {sep : Char} {t : Text} (h : sep ∉ t) (a : Text) :
    cutAt sep (t ++ sep :: a) = (t, some a) := by
  induction t with
  | nil => rw [List.nil_append, cutAt, if_pos rfl]
  | cons c t ih =>
    obtain ⟨hc, ht⟩ := List.ne_and_not_mem_of_not_mem_cons h
    rw [List.cons_append, cutAt, if_neg (Ne.symm hc), ih ht]

/-- What a cut yields is the text, taken apart. -/
theorem eq_of_cutAt {sep : Char} {t before after : Text}
    (h : cutAt sep t = (before, some after)) : t = before ++ sep :: after := by
  induction t generalizing before with
  | nil => cases h
  | cons c t ih =>
    rw [cutAt] at h
    split at h
    · next hc =>
      cases h
      rw [hc, List.nil_append]
    · have ht : cutAt sep t = ((cutAt sep t).1, some after) := by
        have hsnd := congrArg Prod.snd h
        exact Prod.ext rfl hsnd
      have hfst : c :: (cutAt sep t).1 = before := congrArg Prod.fst h
      rw [← hfst, List.cons_append, ← ih ht]

/-- A text that is not cut does not contain the separator. -/
theorem eq_of_cutAt_none {sep : Char} {t u : Text} (h : cutAt sep t = (u, none)) :
    u = t ∧ sep ∉ t := by
  induction t generalizing u with
  | nil =>
    cases h
    exact ⟨rfl, List.not_mem_nil⟩
  | cons c t ih =>
    rw [cutAt] at h
    split at h
    · cases h
    · next hc =>
      have hfst : c :: (cutAt sep t).1 = u := congrArg Prod.fst h
      have hsnd : (cutAt sep t).2 = none := congrArg Prod.snd h
      obtain ⟨heq, hmem⟩ := ih (Prod.ext rfl hsnd)
      exact ⟨hfst.symm.trans (congrArg (List.cons c) heq),
        List.not_mem_cons_of_ne_of_not_mem (Ne.symm hc) hmem⟩

/-- What follows a text that is cut is at the end of what follows the separator. -/
theorem cutAt_append {sep : Char} {t before after : Text} (h : cutAt sep t = (before, some after))
    (u : Text) : cutAt sep (t ++ u) = (before, some (after ++ u)) := by
  induction t generalizing before with
  | nil => cases h
  | cons c t ih =>
    rw [cutAt] at h
    rw [List.cons_append, cutAt]
    split at h
    · next hc =>
      cases h
      exact if_pos hc
    · next hc =>
      have hsnd : (cutAt sep t).2 = some after := congrArg Prod.snd h
      have hfst : c :: (cutAt sep t).1 = before := congrArg Prod.fst h
      rw [if_neg hc, ih (Prod.ext rfl hsnd)]
      exact congrArg (·, some (after ++ u)) hfst

/-- The pieces between separators are those of the list. -/
theorem splitOn_eq (sep : Char) (t : Text) : splitOn sep t = List.splitOn sep t := by
  induction t with
  | nil => rfl
  | cons c t ih =>
    rw [splitOn, ih, List.splitOn, List.splitOn, List.splitOnP_cons_eq_if_modifyHead]
    by_cases hc : c = sep
    · rw [if_pos hc, if_pos (beq_iff_eq.mpr hc)]
    · rw [if_neg hc, if_neg (by simpa using hc)]
      rcases hrest : t.splitOnP (· == sep) with _ | ⟨first, rest⟩
      · exact absurd hrest (List.splitOnP_ne_nil _ _)
      · rfl

/-- No separator is left in a piece. -/
theorem not_mem_of_mem_splitOn {sep : Char} {t piece : Text} (h : piece ∈ splitOn sep t) :
    sep ∉ piece := by
  induction t generalizing piece with
  | nil =>
    rw [List.mem_singleton.mp h]
    exact List.not_mem_nil
  | cons c t ih =>
    rw [splitOn] at h
    split at h
    · rcases List.mem_cons.mp h with rfl | h
      · exact List.not_mem_nil
      · exact ih h
    · rename_i hc
      split at h
      · rw [List.mem_singleton.mp h]
        exact fun hsep => hc (List.mem_singleton.mp hsep).symm
      · rename_i first rest hrest
        rcases List.mem_cons.mp h with rfl | h
        · intro hsep
          rcases List.mem_cons.mp hsep with hsep | hsep
          · exact hc hsep.symm
          · exact ih (hrest ▸ List.mem_cons_self ..) hsep
        · exact ih (hrest ▸ List.mem_cons_of_mem _ h)

/-! ### Joining -/

/-- Words, each with a blank before it. -/
def spread (ws : List Text) : Text :=
  ws.flatMap fun w => ' ' :: w

@[simp]
theorem spread_nil : spread [] = [] := rfl

@[simp]
theorem spread_cons (w : Text) (ws : List Text) : spread (w :: ws) = ' ' :: w ++ spread ws := by
  rw [spread, List.flatMap_cons, spread]

theorem spread_append (vs ws : List Text) : spread (vs ++ ws) = spread vs ++ spread ws := by
  rw [spread, List.flatMap_append, spread, spread]

/-- Between words that are joined there is a blank before all but the first. -/
theorem joined_cons (w : Text) (ws : List Text) : joined [' '] (w :: ws) = w ++ spread ws := by
  induction ws generalizing w with
  | nil => simp [joined, List.intercalate]
  | cons v ws ih =>
    have h : joined [' '] (w :: v :: ws) = w ++ ' ' :: joined [' '] (v :: ws) := by
      simp [joined, List.intercalate]
    rw [h, ih, spread_cons, List.cons_append]

/-- There is a blank less than words. -/
theorem length_joined {ws : List Text} (h : ws ≠ []) :
    (joined [' '] ws).length + 1 = (spread ws).length := by
  obtain ⟨w, ws, rfl⟩ := List.exists_cons_of_ne_nil h
  rw [joined_cons, spread_cons, List.cons_append, List.length_cons]

/-- More words go after those that are joined. -/
theorem joined_append {vs : List Text} (h : vs ≠ []) (ws : List Text) :
    joined [' '] (vs ++ ws) = joined [' '] vs ++ spread ws := by
  obtain ⟨v, vs, rfl⟩ := List.exists_cons_of_ne_nil h
  rw [List.cons_append, joined_cons, joined_cons, spread_append, List.append_assoc]

/-- A text with something in it that neither starts nor ends in white space. -/
structure IsTight (t : Text) : Prop where
  /-- There is something. -/
  ne_nil : t ≠ []
  /-- It does not start in white space. -/
  head : ∀ c, t.head? = some c → isSpace c = false
  /-- It does not end in white space. -/
  last : ∀ c, t.getLast? = some c → isSpace c = false

theorem IsTight.trim {t : Text} (h : IsTight t) : t.trim = t :=
  trim_eq_self h.head h.last

/-- The last text ends what is joined. -/
theorem getLast?_joined_concat (us : List Text) {u : Text} (hu : u ≠ []) :
    (joined [' '] (us ++ [u])).getLast? = u.getLast? := by
  obtain ⟨v, e, rfl⟩ := (List.eq_nil_or_concat u).resolve_left hu
  by_cases hus : us = []
  · rw [hus, List.nil_append, joined_cons, spread_nil, List.append_nil]
  · have hassoc : joined [' '] us ++ spread [v.concat e] =
        (joined [' '] us ++ ' ' :: v) ++ [e] := by
      simp
    rw [joined_append hus, hassoc, List.concat_eq_append, List.getLast?_concat,
      List.getLast?_concat]

/-- The first text starts what is joined. -/
theorem head?_joined_cons {p : Text} (hp : p ≠ []) (ps : List Text) :
    (joined [' '] (p :: ps)).head? = p.head? := by
  obtain ⟨c, p, rfl⟩ := List.exists_cons_of_ne_nil hp
  rw [joined_cons]
  rfl

/-- What tight texts are joined to is tight. -/
theorem isTight_joined {ps : List Text} (hne : ps ≠ []) (h : ∀ p ∈ ps, IsTight p) :
    IsTight (joined [' '] ps) := by
  obtain ⟨us, u, hlast⟩ := (List.eq_nil_or_concat ps).resolve_left hne
  obtain ⟨p, qs, hfirst⟩ := List.exists_cons_of_ne_nil hne
  have hp := h p (by simp [hfirst])
  have hu := h u (by simp [hlast])
  refine ⟨?_, ?_, ?_⟩
  · intro hnil
    have hhead := head?_joined_cons hp.ne_nil qs
    rw [← hfirst, hnil] at hhead
    exact hp.ne_nil (List.head?_eq_none_iff.mp hhead.symm)
  · rw [hfirst, head?_joined_cons hp.ne_nil]
    exact hp.head
  · rw [hlast, List.concat_eq_append, getLast?_joined_concat us hu.ne_nil]
    exact hu.last

/-! ### Trimming what is joined -/

/-- Words without the white space that the last one ends in. A word that is nothing but white space
is left out with it, and the word before is then the last one. -/
def trimWords : List Text → List Text
  | [] => []
  | w :: ws =>
    match trimWords ws with
    | [] => if trimEnd w = [] then [] else [trimEnd w]
    | kept => w :: kept

/-- Trimming words after blanks is trimming the words. -/
theorem trimEnd_spread (ws : List Text) : trimEnd (spread ws) = spread (trimWords ws) := by
  induction ws with
  | nil => rfl
  | cons w ws ih =>
    rw [spread_cons, trimEnd_append, ih, trimWords]
    cases trimWords ws with
    | nil =>
      rw [spread_nil, if_pos rfl, trimEnd]
      have hblank : isSpace ' ' = true := rfl
      cases trimEnd w <;> simp [hblank]
    | cons v vs => simp

/-- Words are trimmed to fewer characters unless trimming leaves them alone. -/
theorem trimWords_eq_or_length_lt (ws : List Text) :
    trimWords ws = ws ∨ (spread (trimWords ws)).length < (spread ws).length := by
  induction ws with
  | nil => exact .inl rfl
  | cons w ws ih =>
    have hlen := length_trimEnd_le w
    rw [trimWords]
    rcases ih with heq | hlt
    · rw [heq]
      cases ws with
      | nil =>
        by_cases hw : trimEnd w = []
        · simp [hw]
        · rcases trimEnd_eq_or_length_lt w with htrim | hlt
          · simp [htrim, htrim ▸ hw]
          · simp [hw, hlt]
      | cons v vs => exact .inl rfl
    · right
      cases hkept : trimWords ws with
      | nil =>
        rw [hkept, spread_nil] at hlt
        by_cases hw : trimEnd w = []
        · simp [hw]
        · simp only [if_neg hw, spread_cons, spread_nil, List.length_append, List.length_cons,
            List.length_nil] at hlt ⊢
          omega
      | cons v vs =>
        rw [hkept] at hlt
        rw [spread_cons w (v :: vs), spread_cons w ws, List.length_append, List.length_append]
        omega

/-- Trimming leaves words alone exactly when the last one does not end in white space. -/
theorem trimWords_eq_self_iff {ws : List Text} (h : ∀ w ∈ ws, w ≠ []) :
    trimWords ws = ws ↔
      ∀ w, ws.getLast? = some w → ∀ c, w.getLast? = some c → isSpace c = false := by
  induction ws with
  | nil => simp [trimWords]
  | cons w ws ih =>
    obtain ⟨hw, hws⟩ := List.forall_mem_cons.mp h
    rw [trimWords]
    cases ws with
    | nil =>
      simp only [trimWords, List.getLast?_singleton, Option.some.injEq, forall_eq',
        ← trimEnd_eq_self_iff]
      by_cases ht : trimEnd w = []
      · simp [ht, Ne.symm hw]
      · simp [ht]
    | cons v vs =>
      rw [List.getLast?_cons_cons, ← ih hws]
      cases ht : trimWords (v :: vs) with
      | nil => by_cases hw' : trimEnd w = [] <;> simp [hw']
      | cons u us => simp

/-- Words after a tight text are trimmed for themselves. -/
theorem trim_append_spread {t : Text} (h : IsTight t) (ws : List Text) :
    trim (t ++ spread ws) = t ++ spread (trimWords ws) := by
  obtain ⟨c, u, rfl⟩ := List.exists_cons_of_ne_nil h.ne_nil
  have hhead : ∀ d, (c :: u ++ spread ws).head? = some d → isSpace d = false := by
    rintro d ⟨⟩
    exact h.head c rfl
  rw [trim_eq_trimEnd hhead, trimEnd_append, trimEnd_spread]
  split
  · next hnil => rw [hnil, List.append_nil, trimEnd_eq_self_iff.mpr h.last]
  · rfl

/-- A character other than white space is not trimmed. -/
theorem mem_trimEnd_iff {t : Text} {c : Char} (hc : isSpace c = false) : c ∈ trimEnd t ↔ c ∈ t := by
  obtain ⟨b, hb, ht⟩ := exists_trimEnd_append t
  constructor
  · intro h
    rw [ht]
    exact List.mem_append_left b h
  · intro h
    rw [ht] at h
    rcases List.mem_append.mp h with h | h
    · exact h
    · rw [hb c h] at hc
      cases hc

/-- What is dropped at the start has the property it is dropped for. -/
theorem mem_dropWhile_iff {p : Char → Bool} {t : Text} {c : Char} (hc : p c = false) :
    c ∈ t.dropWhile p ↔ c ∈ t := by
  constructor
  · exact fun h => (List.dropWhile_sublist p).mem h
  · intro h
    rw [← List.takeWhile_append_dropWhile (p := p) (l := t)] at h
    refine (List.mem_append.mp h).resolve_left fun htaken => ?_
    have htrue := List.all_eq_true.mp List.all_takeWhile c htaken
    rw [htrue] at hc
    cases hc

theorem mem_trim_iff {t : Text} {c : Char} (hc : isSpace c = false) : c ∈ trim t ↔ c ∈ t := by
  rw [trim, mem_trimEnd_iff hc, trimStart, mem_dropWhile_iff hc]

/-- What is trimmed at the end has nothing that is not white space. -/
theorem any_trimEnd {p : Char → Bool} (hp : ∀ c, p c = true → isSpace c = false) (t : Text) :
    (trimEnd t).any p = t.any p := by
  rw [Bool.eq_iff_iff, List.any_eq_true, List.any_eq_true]
  exact exists_congr fun c => and_congr_left fun hc => mem_trimEnd_iff (hp c hc)

/-- Nothing but white space is lost in trimming words. -/
theorem any_trimWords {p : Char → Bool} (hp : ∀ c, p c = true → isSpace c = false)
    (ws : List Text) : ((trimWords ws).any fun w => w.any p) = ws.any fun w => w.any p := by
  induction ws with
  | nil => rfl
  | cons w ws ih =>
    rw [trimWords, List.any_cons, ← ih, ← any_trimEnd hp w]
    cases trimWords ws with
    | nil => by_cases hw : trimEnd w = [] <;> simp [hw]
    | cons v vs => rw [List.any_cons, any_trimEnd hp w]

/-- The words that are left have something in them, and every character of them is one of a word
that was there. -/
theorem mem_trimWords {ws : List Text} (hws : ∀ w ∈ ws, w ≠ []) {w : Text}
    (h : w ∈ trimWords ws) : w ≠ [] ∧ ∃ v ∈ ws, ∀ c ∈ w, c ∈ v := by
  induction ws with
  | nil => cases h
  | cons v ws ih =>
    obtain ⟨hv, hws⟩ := List.forall_mem_cons.mp hws
    rw [trimWords] at h
    split at h
    · split at h
      · cases h
      · next hne =>
        obtain rfl := List.mem_singleton.mp h
        refine ⟨hne, v, List.mem_cons_self .., fun c hc => ?_⟩
        obtain ⟨b, -, hb⟩ := exists_trimEnd_append v
        rw [hb]
        exact List.mem_append_left b hc
    · rcases List.mem_cons.mp h with rfl | h
      · exact ⟨hv, w, List.mem_cons_self .., fun c hc => hc⟩
      · obtain ⟨hne, u, hu, hsub⟩ := ih hws h
        exact ⟨hne, u, List.mem_cons_of_mem _ hu, hsub⟩

end Text

end Filmography
