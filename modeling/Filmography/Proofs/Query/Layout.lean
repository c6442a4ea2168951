import Mathlib.Data.List.Chain
import Filmography.Proofs.Query.Seams

/-!
# How tokens stand in a text

A text can be laid out in one way only: blanks, words up to the next blank or brace, spans, and at
its end perhaps a brace that stays open with everything after it. `Token.Layout` says so without
reading the text from left to right, and the tokens are those of the layout. What holds of tokens
is then shown by induction on the layout.

* `Token.layout_tokens`: every text is laid out as its tokens;
* `Token.isKept_of_mem_tokens`: they are words, or start with a brace;
* `Token.Tokenizes`: what the tokens of a text are, in terms of its characters;
* `Token.tokenizes_tokens`: the tokens of every text are that.
-/

namespace Filmography

namespace Token

/-! ### Layouts -/

/-- A text, laid out as tokens with blanks among them. -/
inductive Layout : Text → List Text → Prop
  /-- Nothing. -/
  | nil : Layout [] []
  /-- A blank outside of all braces. -/
  | blank {c : Char} {t : Text} {ts : List Text} (hc : isBlank c = true) (h : Layout t ts) :
      Layout (c :: t) ts
  /-- A word, as far as it goes. -/
  | word {w t : Text} {ts : List Text} (hw : IsWord w) (ht : IsFresh t) (h : Layout t ts) :
      Layout (w ++ t) (w :: ts)
  /-- A balanced text in braces. -/
  | span {s t : Text} {ts : List Text} (hs : IsSpan s) (h : Layout t ts) :
      Layout (s ++ t) (s :: ts)
  /-- A brace that stays open. -/
  | unclosed {r : Text} {k : Nat} (hr : level? 0 r = some k) : Layout ('{' :: r) ['{' :: r]

/-- After an opening brace there is the brace that closes it, or none does. -/
theorem exists_closing_or_level? (depth : Nat) (t : Text) :
    (∃ body rest, t = body ++ '}' :: rest ∧ level? depth body = some 0) ∨
      ∃ k, level? depth t = some k := by
  induction t generalizing depth with
  | nil => exact .inr ⟨depth, rfl⟩
  | cons c t ih =>
    by_cases hc : c = '}' ∧ depth = 0
    · obtain ⟨rfl, rfl⟩ := hc
      exact .inl ⟨[], t, rfl, rfl⟩
    · rcases ih (depthAfter depth c) with ⟨body, rest, rfl, hbody⟩ | ⟨k, hk⟩
      · exact .inl ⟨c :: body, rest, rfl, by rw [level?_cons hc, hbody]⟩
      · exact .inr ⟨k, by rw [level?_cons hc, hk]⟩

theorem tokens_word_append {w t : Text} (hw : IsWord w) (ht : IsFresh t) :
    tokens (w ++ t) = w :: tokens t := by
  rw [tokens, scan_word hw.chars, scan_of_isFresh ht, List.append_nil]
  obtain ⟨c, w, rfl⟩ := List.exists_cons_of_ne_nil hw.ne_nil
  rfl

/-- A word goes on up to the next character that cannot be in it. -/
theorem exists_word_append {c : Char} (t : Text) (hc : c ≠ '{' ∧ isBlank c = false) :
    ∃ w rest, c :: t = w ++ rest ∧ IsWord w ∧ IsFresh rest := by
  induction t generalizing c with
  | nil =>
    refine ⟨[c], [], rfl, ⟨List.cons_ne_nil _ _, List.forall_mem_singleton.mpr hc⟩, ?_⟩
    rintro d ⟨⟩
  | cons d t ih =>
    by_cases hd : d ≠ '{' ∧ isBlank d = false
    · obtain ⟨w, rest, hsplit, hword, hfresh⟩ := ih hd
      exact ⟨c :: w, rest, congrArg _ hsplit,
        ⟨List.cons_ne_nil _ _, List.forall_mem_cons.mpr ⟨hc, hword.chars⟩⟩, hfresh⟩
    · refine ⟨[c], d :: t, rfl, ⟨List.cons_ne_nil _ _, List.forall_mem_singleton.mpr hc⟩, ?_⟩
      rintro e ⟨⟩
      rw [← Bool.not_eq_true, not_and_not_right] at hd
      exact or_iff_not_imp_left.mpr hd

/-- Every text is laid out as its tokens, by induction on its length. -/
theorem layout_tokens (t : Text) : Layout t (tokens t) := by
  induction hn : t.length using Nat.strongRecOn generalizing t with
  | ind n ih =>
    subst hn
    rcases t with _ | ⟨c, t⟩
    · exact .nil
    · by_cases hopen : c = '{'
      · subst hopen
        rcases exists_closing_or_level? 0 t with ⟨body, rest, rfl, hbody⟩ | ⟨k, hk⟩
        · have hspan : IsSpan ('{' :: body ++ ['}']) := ⟨body, hbody, rfl⟩
          have hrest := Layout.span hspan (ih rest.length (by simp; omega) rest rfl)
          have happend : '{' :: body ++ ['}'] ++ rest = '{' :: (body ++ '}' :: rest) := by simp
          rw [← List.cons_append, tokens_span_append hbody]
          rwa [happend] at hrest
        · rw [tokens_open hk]
          exact .unclosed hk
      · by_cases hblank : isBlank c = true
        · rw [tokens_blank hblank]
          exact .blank hblank (ih t.length (by simp) t rfl)
        · obtain ⟨w, rest, hsplit, hword, hfresh⟩ :=
            exists_word_append t ⟨hopen, Bool.eq_false_iff.mpr hblank⟩
          have hlength := congrArg List.length hsplit
          have hpos := List.length_pos_iff.mpr hword.ne_nil
          rw [List.length_append] at hlength
          rw [hsplit, tokens_word_append hword hfresh]
          exact .word hword hfresh (ih rest.length (by omega) rest rfl)

/-! ### Words, and what starts with a brace -/

/-- What a token of a text is: a word, without a closing brace if no brace of the text closes
nothing, or something that starts with a brace. -/
def IsKept (closed : Prop) (token : Text) : Prop :=
  (IsWord token ∧ (closed → '}' ∉ token)) ∨ IsOpened token

theorem IsKept.imp {closed closed' : Prop} {token : Text} (h : IsKept closed token)
    (himp : closed' → closed) : IsKept closed' token :=
  h.imp_left fun hword => ⟨hword.1, fun hclosed => hword.2 (himp hclosed)⟩

/-- Where nothing is opened, a closing brace closes nothing. -/
theorem NoStray.close_notMem {w : Text} (hw : '{' ∉ w) (h : NoStray w) : '}' ∉ w := by
  induction w with
  | nil => exact List.not_mem_nil
  | cons c w ih =>
    obtain ⟨hopen, hw⟩ := List.ne_and_not_mem_of_not_mem_cons hw
    obtain ⟨e, he⟩ := h
    rw [level?, if_neg (Ne.symm hopen)] at he
    split at he
    · cases he
    · next hclose => exact List.not_mem_cons_of_ne_of_not_mem (Ne.symm hclose) (ih hw ⟨e, he⟩)

theorem NoStray.of_append_right {a b : Text} (ha : Balanced a) (h : NoStray (a ++ b)) :
    NoStray b := by
  obtain ⟨e, he⟩ := h
  rw [level?_append, ha] at he
  exact ⟨e, he⟩

/-- A blank opens and closes nothing. -/
theorem depthAfter_blank {c : Char} (h : isBlank c = true) (depth : Nat) :
    depthAfter depth c = depth := by
  have hopen : c ≠ '{' := by
    rintro rfl
    cases h
  have hclose : c ≠ '}' := by
    rintro rfl
    cases h
  rw [depthAfter, if_neg hopen, if_neg hclose]

theorem Layout.isKept {t : Text} {ts : List Text} (h : Layout t ts) :
    ∀ token ∈ ts, IsKept (NoStray t) token := by
  induction h with
  | nil => exact List.forall_mem_nil _
  | blank hc _ ih =>
    refine fun token htoken => (ih token htoken).imp ?_
    rintro ⟨e, he⟩
    have hrest := (level?_of_cons he).2
    rw [depthAfter_blank hc] at hrest
    exact ⟨e, hrest⟩
  | @word w t ts hw _ _ ih =>
    have hclose : NoStray (w ++ t) → '}' ∉ w := fun h => h.of_append.close_notMem hw.brace_notMem
    refine List.forall_mem_cons.mpr ⟨.inl ⟨hw, hclose⟩, fun token htoken => ?_⟩
    refine (ih token htoken).imp fun h => h.of_append_right (balanced_of_forall fun c hc => ?_)
    exact ⟨(hw.chars c hc).1, fun hbrace => hclose h (hbrace ▸ hc)⟩
  | span hs _ ih =>
    refine List.forall_mem_cons.mpr ⟨.inr hs.isOpened, fun token htoken => ?_⟩
    exact (ih token htoken).imp fun h => h.of_append_right hs.balanced
  | unclosed hr => exact List.forall_mem_singleton.mpr (.inr (NoStray.isOpened ⟨_, hr⟩))

/-- The tokens of a text are words, without closing braces if no brace of the text closes nothing,
and what starts with a brace. -/
theorem isKept_of_mem_tokens {t token : Text} (h : token ∈ tokens t) : IsKept (NoStray t) token :=
  (layout_tokens t).isKept token h

/-! ### The characters of tokens -/

/-- A text without the blanks that stand outside of all braces. -/
def packed : Nat → Text → Text
  | _, [] => []
  | depth, c :: t =>
    if depth = 0 ∧ isBlank c = true then packed depth t else c :: packed (depthAfter depth c) t

theorem packed_append (depth : Nat) (a b : Text) :
    packed depth (a ++ b) = packed depth a ++ packed (depthOf depth a) b := by
  induction a generalizing depth with
  | nil => rfl
  | cons c a ih =>
    have hdepth : depthOf depth (c :: a) = depthOf (depthAfter depth c) a := rfl
    rw [List.cons_append, packed, packed, hdepth]
    split
    · next hc =>
      rw [depthAfter_blank hc.2]
      exact ih depth
    · rw [ih, List.cons_append]

/-- Without an opening brace no brace is open. -/
theorem depthOf_of_notMem {t : Text} (h : '{' ∉ t) : depthOf 0 t = 0 := by
  induction t with
  | nil => rfl
  | cons c t ih =>
    obtain ⟨hc, ht⟩ := List.ne_and_not_mem_of_not_mem_cons h
    show depthOf (depthAfter 0 c) t = 0
    rw [depthAfter_zero (Ne.symm hc), ih ht]

theorem IsWord.packed {w : Text} (h : IsWord w) : packed 0 w = w := by
  replace h := h.chars
  induction w with
  | nil => rfl
  | cons c w ih =>
    obtain ⟨⟨hopen, hblank⟩, hrest⟩ := List.forall_mem_cons.mp h
    rw [Token.packed, if_neg (by simp [hblank]), depthAfter_zero hopen, ih hrest]

/-- Inside of braces nothing is left out. -/
theorem packed_of_level? {depth e : Nat} {t : Text} (h : level? depth t = some e) :
    packed (depth + 1) t = t := by
  induction t generalizing depth with
  | nil => rfl
  | cons c t ih =>
    obtain ⟨hc, ht⟩ := level?_of_cons h
    rw [packed, if_neg (by simp), depthAfter_add hc, ih ht]

theorem packed_open {k : Nat} {r : Text} (h : level? 0 r = some k) :
    packed 0 ('{' :: r) = '{' :: r := by
  rw [packed, if_neg (by simp [isBlank])]
  exact congrArg _ (packed_of_level? h)

theorem IsSpan.packed {s : Text} (h : IsSpan s) : packed 0 s = s := by
  obtain ⟨body, hbody, rfl⟩ := h
  have hdepth : depthOf 0 ('{' :: body) = 1 :=
    depthOf_of_level? (level?_add hbody 1)
  rw [packed_append, packed_open hbody, hdepth]
  rfl

/-- Nothing of a text is lost in its layout but the blanks outside of all braces. -/
theorem Layout.flatten {t : Text} {ts : List Text} (h : Layout t ts) : ts.flatten = packed 0 t := by
  induction h with
  | nil => rfl
  | blank hc _ ih => rw [packed, if_pos ⟨rfl, hc⟩, ih]
  | word hw _ _ ih =>
    rw [List.flatten_cons, packed_append, hw.packed, depthOf_of_notMem hw.brace_notMem, ih]
  | span hs _ ih =>
    rw [List.flatten_cons, packed_append, hs.packed, depthOf_of_level? hs.balanced, ih]
  | unclosed hr => rw [packed_open hr, List.flatten_singleton]

/-! ### Where braces are open -/

/-- A text that starts with a brace, and at the end of which no brace is open for the first
time. -/
structure Closes (s : Text) : Prop where
  /-- It starts with a brace. -/
  isDirective : isDirective s = true
  /-- All braces are closed at its end. -/
  closed : depthOf 0 s = 0
  /-- Before that, some brace is open. -/
  first : ∀ p, p <+: s → p ≠ [] → p ≠ s → depthOf 0 p ≠ 0

/-- A text that starts with a brace, and in which some brace is open from then on. -/
structure Dangles (s : Text) : Prop where
  /-- It starts with a brace. -/
  isDirective : isDirective s = true
  /-- Some brace is open. -/
  never : ∀ p, p <+: s → p ≠ [] → depthOf 0 p ≠ 0

theorem dangles_of_level? {k : Nat} {r : Text} (h : level? 0 r = some k) :
    Dangles ('{' :: r) := by
  refine ⟨rfl, fun p hp hne => ?_⟩
  obtain ⟨q, rfl, hq⟩ := (List.prefix_cons_iff.mp hp).resolve_left hne
  obtain ⟨rest, rfl⟩ := hq
  obtain ⟨e, he⟩ := NoStray.of_append ⟨k, h⟩
  have hdepth : depthOf 0 ('{' :: q) = e + 1 := depthOf_of_level? (level?_add he 1)
  omega

theorem IsSpan.closes {s : Text} (h : IsSpan s) : Closes s := by
  refine ⟨?_, depthOf_of_level? h.balanced, fun p hp hne hs => ?_⟩
  · obtain ⟨body, -, rfl⟩ := h
    rfl
  · -- a part of a span is a part of what is before its last brace
    obtain ⟨body, hbody, rfl⟩ := h
    exact (dangles_of_level? hbody).never p ((List.prefix_concat_iff.mp hp).resolve_left hs) hne

theorem IsPiece.ne_nil {p : Text} (h : IsPiece p) : p ≠ [] := by
  rcases h with hw | ⟨body, -, rfl⟩
  · exact hw.ne_nil
  · exact List.cons_ne_nil _ _

theorem IsPiece.depthOf {p : Text} (h : IsPiece p) : depthOf 0 p = 0 := by
  rcases h with hw | hs
  · exact depthOf_of_notMem hw.brace_notMem
  · exact hs.closes.closed

theorem Dangles.not_isPiece {s : Text} (h : Dangles s) : ¬IsPiece s := fun hs =>
  h.never s (List.prefix_refl s) hs.ne_nil hs.depthOf

/-- The tokens of a text are words and spans if no brace is open at its end, and otherwise this is
so of all but the last one, in which the brace is. -/
theorem Layout.pieces {t : Text} {ts : List Text} (h : Layout t ts) :
    (depthOf 0 t = 0 ∧ ∀ p ∈ ts, IsPiece p) ∨
      ∃ us r k, ts = us ++ ['{' :: r] ∧ (∀ p ∈ us, IsPiece p) ∧ level? 0 r = some k ∧
        depthOf 0 t = k + 1 := by
  have hpiece : ∀ {p t : Text} {ts : List Text}, IsPiece p →
      ((depthOf 0 t = 0 ∧ ∀ p ∈ ts, IsPiece p) ∨
        ∃ us r k, ts = us ++ ['{' :: r] ∧ (∀ p ∈ us, IsPiece p) ∧ level? 0 r = some k ∧
          depthOf 0 t = k + 1) →
      (depthOf 0 (p ++ t) = 0 ∧ ∀ q ∈ p :: ts, IsPiece q) ∨
        ∃ us r k, p :: ts = us ++ ['{' :: r] ∧ (∀ q ∈ us, IsPiece q) ∧ level? 0 r = some k ∧
          depthOf 0 (p ++ t) = k + 1 := by
    intro p t ts hp h
    rw [depthOf_append, hp.depthOf]
    rcases h with ⟨hdepth, hts⟩ | ⟨us, r, k, rfl, hus, hr, hdepth⟩
    · exact .inl ⟨hdepth, List.forall_mem_cons.mpr ⟨hp, hts⟩⟩
    · exact .inr ⟨p :: us, r, k, rfl, List.forall_mem_cons.mpr ⟨hp, hus⟩, hr, hdepth⟩
  induction h with
  | nil => exact .inl ⟨rfl, List.forall_mem_nil _⟩
  | @blank c t ts hc _ ih =>
    have hdepth : Token.depthOf 0 (c :: t) = Token.depthOf (depthAfter 0 c) t := rfl
    rwa [hdepth, depthAfter_blank hc]
  | word hw _ _ ih => exact hpiece (.inl hw) ih
  | span hs _ ih => exact hpiece (.inr hs) ih
  | @unclosed r k hr =>
    exact .inr ⟨[], r, k, rfl, List.forall_mem_nil _, hr, depthOf_of_level? (level?_add hr 1)⟩

/-! ### What stands between tokens -/

/-- Tokens stand in a text one after the other, each with nothing but blanks after it, and with
some blank if it is a word and so is the next one. -/
def StandIn (t : Text) (ts : List Text) : Prop :=
  ∃ (before : Text) (placed : List (Text × Text)),
    t = before ++ placed.flatMap (fun p => p.1 ++ p.2) ∧ placed.map Prod.fst = ts ∧
      (∀ c ∈ before, isBlank c = true) ∧ (∀ p ∈ placed, ∀ c ∈ p.2, isBlank c = true) ∧
        placed.IsChain fun p next => IsWord p.1 → IsWord next.1 → p.2 ≠ []

/-- A token goes before what stands in a text, if it is no word that would go on there. -/
theorem StandIn.cons {p t : Text} {ts : List Text} (h : StandIn t ts)
    (hfresh : IsWord p → IsFresh t) : StandIn (p ++ t) (p :: ts) := by
  obtain ⟨before, placed, rfl, hts, hbefore, hplaced, hchain⟩ := h
  refine ⟨[], (p, before) :: placed, by simp, by rw [List.map_cons, hts], List.forall_mem_nil _,
    List.forall_mem_cons.mpr ⟨hbefore, hplaced⟩, List.isChain_cons.mpr ⟨?_, hchain⟩⟩
  -- without a blank after it, a word goes on in a word that comes next
  rintro next hnext hp hword rfl
  obtain ⟨rest, rfl⟩ := List.head?_eq_some_iff.mp hnext
  obtain ⟨c, v, hv⟩ := List.exists_cons_of_ne_nil hword.ne_nil
  obtain ⟨hopen, hblank⟩ := hword.chars c (hv ▸ List.mem_cons_self ..)
  have hhead := hfresh hp c (by rw [List.nil_append, List.flatMap_cons, hv]; rfl)
  rw [hblank] at hhead
  exact hopen (hhead.resolve_right Bool.false_ne_true)

theorem Layout.standIn {t : Text} {ts : List Text} (h : Layout t ts) : StandIn t ts := by
  induction h with
  | nil => exact ⟨[], [], rfl, rfl, List.forall_mem_nil _, List.forall_mem_nil _, .nil⟩
  | @blank c _ _ hc _ ih =>
    obtain ⟨before, placed, rfl, hts, hbefore, hplaced, hchain⟩ := ih
    exact ⟨c :: before, placed, rfl, hts, List.forall_mem_cons.mpr ⟨hc, hbefore⟩, hplaced, hchain⟩
  | word _ ht _ ih => exact ih.cons fun _ => ht
  | span hs _ ih =>
    refine ih.cons fun hword => ?_
    have hdirective := hs.closes.isDirective
    rw [hword.isDirective] at hdirective
    cases hdirective
  | @unclosed r _ _ =>
    exact ⟨[], [('{' :: r, [])], by simp, rfl, List.forall_mem_nil _, by simp, .singleton _⟩

/-! ### Tokens that are joined -/

theorem depthOf_joined {ps : List Text} (h : ∀ p ∈ ps, IsPiece p) :
    depthOf 0 (Text.joined [' '] ps) = 0 := by
  have hspread : ∀ {ps : List Text}, (∀ p ∈ ps, IsPiece p) → depthOf 0 (Text.spread ps) = 0 := by
    intro ps h
    induction ps with
    | nil => rfl
    | cons p ps ih =>
      obtain ⟨hp, hps⟩ := List.forall_mem_cons.mp h
      have hblank : depthOf 0 (' ' :: p) = depthOf 0 p := rfl
      rw [Text.spread_cons, depthOf_append, hblank, hp.depthOf, ih hps]
  rcases ps with _ | ⟨p, ps⟩
  · rfl
  · obtain ⟨hp, hps⟩ := List.forall_mem_cons.mp h
    rw [Text.joined_cons, depthOf_append, hp.depthOf, hspread hps]

/-- The tokens of a text, joined by blanks, are read again, a brace that stays open with them. -/
theorem Layout.tokens_joined {t : Text} {ts : List Text} (h : Layout t ts) :
    tokens (Text.joined [' '] ts) = ts := by
  rcases h.pieces with ⟨-, hts⟩ | ⟨us, r, k, rfl, hus, hr, -⟩
  · exact Filmography.tokens_joined hts
  · rcases List.eq_nil_or_concat us with rfl | ⟨vs, v, rfl⟩
    · rw [List.nil_append, Text.joined_cons, Text.spread_nil, List.append_nil, tokens_open hr]
    · have hne : vs.concat v ≠ [] := by simp
      have hseam : Seam (Text.joined [' '] (vs.concat v)) [' '] ('{' :: r) :=
        .blanks (depthOf_joined hus) (List.cons_ne_nil _ _) (by simp [isBlank])
      have hspread : Text.spread ['{' :: r] = [' '] ++ '{' :: r := by simp
      rw [Text.joined_append hne, hspread, ← List.append_assoc, tokens_of_seam hseam,
        Filmography.tokens_joined hus, tokens_open hr]

/-! ### What tokens are -/

/-- What the tokens of a text are, in terms of its characters and of the braces that are open. -/
structure Tokenizes (t : Text) (ts : List Text) : Prop where
  /-- Together they are the text without the blanks that stand outside of all braces. -/
  flatten : ts.flatten = packed 0 t
  /-- There is something in each. -/
  ne_nil : ∀ token ∈ ts, token ≠ []
  /-- All but the last one are words or end where all braces are closed. -/
  complete : ∀ token ∈ ts.dropLast, IsWord token ∨ Closes token
  /-- So is the last one, or a brace stays open in it. -/
  last : ∀ token, ts.getLast? = some token → IsWord token ∨ Closes token ∨ Dangles token
  /-- A brace stays open in it if and only if one is open at the end of the text. -/
  dangles_iff : (∃ token, ts.getLast? = some token ∧ Dangles token) ↔ depthOf 0 t ≠ 0
  /-- Between words there are blanks. -/
  standIn : StandIn t ts
  /-- Joined by single blanks they are read again. -/
  again : tokens (Text.joined [' '] ts) = ts

/-- **Tokens**: those of every text are as `Tokenizes` says. -/
theorem tokenizes_tokens (t : Text) : Tokenizes t (tokens t) := by
  have hlayout := layout_tokens t
  have hpiece : ∀ {p : Text}, IsPiece p → IsWord p ∨ Closes p := fun hp =>
    hp.imp_right IsSpan.closes
  rcases hlayout.pieces with ⟨hdepth, hts⟩ | ⟨us, r, k, hts, hus, hr, hdepth⟩
  · refine ⟨hlayout.flatten, fun p hp => (hts p hp).ne_nil,
      fun p hp => hpiece (hts p ((List.dropLast_sublist _).mem hp)), fun p hp => ?_, ?_,
      hlayout.standIn, hlayout.tokens_joined⟩
    · exact (hpiece (hts p (List.mem_of_getLast? hp))).imp_right .inl
    · refine iff_of_false ?_ fun hne => hne hdepth
      rintro ⟨p, hp, hdangles⟩
      exact hdangles.not_isPiece (hts p (List.mem_of_getLast? hp))
  · have hdangles := dangles_of_level? hr
    have hlast : (tokens t).getLast? = some ('{' :: r) := by rw [hts, List.getLast?_concat]
    refine ⟨hlayout.flatten, fun p hp => ?_, fun p hp => ?_, fun p hp => ?_, ?_,
      hlayout.standIn, hlayout.tokens_joined⟩
    · rw [hts] at hp
      rcases List.mem_append.mp hp with hp | hp
      · exact (hus p hp).ne_nil
      · rw [List.mem_singleton.mp hp]
        exact List.cons_ne_nil _ _
    · rw [hts, List.dropLast_concat] at hp
      exact hpiece (hus p hp)
    · rw [hlast] at hp
      rw [← Option.some.inj hp]
      exact .inr (.inr hdangles)
    · exact iff_of_true ⟨_, hlast, hdangles⟩ (by omega)

end Token

end Filmography
