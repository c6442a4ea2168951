import Filmography.Proofs.Results
import Filmography.Proofs.Query.Reading
import Filmography.Proofs.Text.Runs

/-!
# Texts that are put together

Two texts can be read one after the other if no token goes across the seam between them. That is so
where no brace is open at the end of the first, and where the next token cannot go on with the last
one: a blank stands between them, or the last one is closed by a brace, or the next one opens one.

* `Token.exists_open_of_depthOf`: a text that ends inside of braces, at the brace that stays open;
* `Token.Seam`: texts that can be read one after the other;
* `Query.extend_of_seam`: a query is extended by both together as by one after the other.
-/

namespace Filmography

namespace Token

/-! ### How many braces are open -/

theorem depthOf_append (depth : Nat) (a b : Text) :
    depthOf depth (a ++ b) = depthOf (depthOf depth a) b :=
  List.foldl_append

/-- Where no brace closes nothing, both ways to count braces are one. -/
theorem depthOf_of_level? {depth e : Nat} {t : Text} (h : level? depth t = some e) :
    depthOf depth t = e := by
  induction t generalizing depth with
  | nil => exact Option.some.inj h
  | cons c t ih => exact ih (level?_of_cons h).2

/-- A text with an open brace after it either started inside of it, or has the outermost such brace
after some text that leaves none open. Inside of it nothing is closed that was not opened there. -/
theorem depthOf_eq_succ {depth k : Nat} {t : Text} (h : depthOf depth t = k + 1) :
    (∃ d, depth = d + 1 ∧ level? d t = some k) ∨
      ∃ a r, t = a ++ '{' :: r ∧ depthOf depth a = 0 ∧ level? 0 r = some k := by
  induction t generalizing depth with
  | nil => exact .inl ⟨k, h, rfl⟩
  | cons c t ih =>
    rcases ih (show depthOf (depthAfter depth c) t = k + 1 from h) with
      ⟨d, hd, hlevel⟩ | ⟨a, r, rfl, ha, hr⟩
    · rcases depth with _ | depth
      · -- the brace that is open after the first character is this character
        have hc : c = '{' := by
          rw [depthAfter] at hd
          split at hd
          · assumption
          · split at hd <;> omega
        subst hc
        obtain rfl : d = 0 := by
          rw [depthAfter, if_pos rfl] at hd
          omega
        exact .inr ⟨[], t, rfl, rfl, hlevel⟩
      · have hc : ¬(c = '}' ∧ depth = 0) := by
          rintro ⟨rfl, rfl⟩
          cases hd
        rw [depthAfter_add hc, Nat.succ_inj] at hd
        exact .inl ⟨depth, rfl, by rw [level?_cons hc, hd, hlevel]⟩
    · exact .inr ⟨c :: a, r, rfl, ha, hr⟩

/-- A text that ends inside of braces, taken apart at the outermost of them. -/
theorem exists_open_of_depthOf {k : Nat} {t : Text} (h : depthOf 0 t = k + 1) :
    ∃ a r, t = a ++ '{' :: r ∧ depthOf 0 a = 0 ∧ level? 0 r = some k := by
  refine (depthOf_eq_succ h).resolve_left ?_
  rintro ⟨d, hd, -⟩
  cases hd

/-! ### Where a token starts -/

/-- Nothing of a word goes on in such a text: it is empty, or starts with a blank or a brace. -/
def IsFresh (b : Text) : Prop :=
  ∀ c, b.head? = some c → c = '{' ∨ isBlank c = true

theorem scan_of_isFresh {b : Text} (h : IsFresh b) : scan 0 b = ([], tokens b) := by
  have hfst : (scan 0 b).1 = [] := by
    rcases b with _ | ⟨c, b⟩
    · rfl
    · rw [scan]
      by_cases hopen : c = '{'
      · rw [if_pos hopen]
      · rw [if_neg hopen, if_pos ((h c rfl).resolve_left hopen)]
  have hpair : scan 0 b = ([], (scan 0 b).2) := Prod.ext hfst rfl
  rw [tokens, hpair]
  rfl

/-- Outside of all braces a text that starts a token is read for itself. -/
theorem scan_append_of_isFresh {depth : Nat} {a b : Text} (ha : depthOf depth a = 0)
    (hb : IsFresh b) : scan depth (a ++ b) = ((scan depth a).1, (scan depth a).2 ++ tokens b) := by
  induction a generalizing depth with
  | nil =>
    obtain rfl : depth = 0 := ha
    exact scan_of_isFresh hb
  | cons c a ih =>
    have hrest : depthOf (depthAfter depth c) a = 0 := ha
    rw [List.cons_append]
    rcases depth with _ | depth
    · by_cases hopen : c = '{'
      · subst hopen
        have hone : depthOf 1 a = 0 := hrest
        simp only [scan, if_pos, ih hone, List.cons_append]
      · have hzero : depthOf 0 a = 0 := by
          rwa [depthAfter_zero hopen] at hrest
        simp only [scan, if_neg hopen, ih hzero]
        split
        · rw [Text.settle_append]
        · rfl
    · by_cases hclose : c = '}' ∧ depth = 0
      · obtain ⟨rfl, rfl⟩ := hclose
        have hzero : depthOf 0 a = 0 := hrest
        simp only [scan, and_self, if_true, ih hzero, Text.settle_append]
      · simp only [scan, if_neg hclose, ih hrest]

theorem tokens_append_of_isFresh {a b : Text} (ha : depthOf 0 a = 0) (hb : IsFresh b) :
    tokens (a ++ b) = tokens a ++ tokens b := by
  rw [tokens, scan_append_of_isFresh ha hb, Text.settle_append, ← tokens]

/-- An opening brace outside of all braces starts a token. -/
theorem tokens_append_open {a : Text} (h : depthOf 0 a = 0) (r : Text) :
    tokens (a ++ '{' :: r) = tokens a ++ tokens ('{' :: r) := by
  refine tokens_append_of_isFresh h ?_
  rintro c ⟨⟩
  exact .inl rfl

/-- A token that is open where the text ends. -/
theorem tokens_open {k : Nat} {r : Text} (h : level? 0 r = some k) :
    tokens ('{' :: r) = ['{' :: r] := by
  have hscan : scan 1 (r ++ []) = (r, []) := by
    rw [scan_append h, scan, List.append_nil]
  rw [List.append_nil] at hscan
  rw [tokens, scan, if_pos rfl, hscan]
  rfl

theorem tokens_span_append {body : Text} (h : Balanced body) (rest : Text) :
    tokens ('{' :: body ++ '}' :: rest) = ('{' :: body ++ ['}']) :: tokens rest := by
  rw [tokens, scan_span h]
  rfl

theorem tokens_span {body : Text} (h : Balanced body) :
    tokens ('{' :: body ++ ['}']) = ['{' :: body ++ ['}']] :=
  tokens_span_append h []

theorem tokens_blank {c : Char} (h : isBlank c = true) (t : Text) :
    tokens (c :: t) = tokens t := by
  have hopen : c ≠ '{' := by
    rintro rfl
    cases h
  rw [tokens, scan, if_neg hopen, if_pos h]
  rfl

theorem tokens_blanks {gap : Text} (h : ∀ c ∈ gap, isBlank c = true) (t : Text) :
    tokens (gap ++ t) = tokens t := by
  induction gap with
  | nil => rfl
  | cons c gap ih =>
    obtain ⟨hc, hgap⟩ := List.forall_mem_cons.mp h
    rw [List.cons_append, tokens_blank hc, ih hgap]

/-! ### Seams -/

/-- Two texts with something between them, such that no token goes across. -/
inductive Seam (a : Text) : Text → Text → Prop
  /-- Blanks, where no brace is open. -/
  | blanks {gap b : Text} (ha : depthOf 0 a = 0) (hne : gap ≠ [])
      (hgap : ∀ c ∈ gap, isBlank c = true) : Seam a gap b
  /-- Nothing, after the brace that closes a directive. -/
  | closing {body b : Text} (hbody : depthOf 0 body = 1) (ha : a = body ++ ['}']) : Seam a [] b
  /-- Nothing, before a brace that opens a directive where no other is open. -/
  | opening {r : Text} (ha : depthOf 0 a = 0) : Seam a [] ('{' :: r)

/-- Texts that can be read one after the other are. -/
theorem tokens_of_seam {a gap b : Text} (h : Seam a gap b) :
    tokens (a ++ gap ++ b) = tokens a ++ tokens b := by
  rcases h with ⟨ha, hne, hgap⟩ | ⟨hbody, rfl⟩ | ha
  · have hfresh : IsFresh (gap ++ b) := by
      intro c hc
      rw [List.head?_append_of_ne_nil _ hne] at hc
      exact .inr (hgap c (List.mem_of_head? hc))
    rw [List.append_assoc, tokens_append_of_isFresh ha hfresh, tokens_blanks hgap]
  · -- the directive that is closed is a token for itself
    obtain ⟨p, r, rfl, hp, hr⟩ := exists_open_of_depthOf hbody
    have hassoc : ∀ rest : Text, p ++ '{' :: r ++ ['}'] ++ rest =
        p ++ '{' :: (r ++ '}' :: rest) := by
      intro rest
      simp
    have hwhole := hassoc b
    have hfirst := hassoc []
    rw [List.append_nil] at hfirst
    rw [List.append_nil, hwhole, hfirst, tokens_append_open hp, tokens_append_open hp,
      ← List.cons_append, ← List.cons_append, tokens_span_append hr, tokens_span_append hr,
      List.append_assoc]
    rfl
  · rw [List.append_nil, tokens_append_open ha]

end Token

namespace Query

/-- Calls that are read from two lists of tokens are applied one list after the other. -/
theorem extend_of_tokens_eq_append {t a b : Text} (h : tokens t = tokens a ++ tokens b)
    (q : Query) : q.extend t = q.extend a >>= fun r => r.extend b := by
  simp only [extend_eq, calls?_eq_mapM, h, List.mapM_append]
  rcases (tokens a).mapM readToken with e | cs
  · rfl
  · rcases (tokens b).mapM readToken with e | ds
    · rfl
    · exact congrArg Except.ok (applyAll_append q cs ds)

/-- **Extending in pieces**: what is written in two texts that can be read one after the other
extends a query as the two texts do, one after the other, and with the same error. -/
theorem extend_of_seam {a gap b : Text} (h : Token.Seam a gap b) :
    tokens (a ++ gap ++ b) = tokens a ++ tokens b ∧
      ∀ q : Query, q.extend (a ++ gap ++ b) = q.extend a >>= fun r => r.extend b :=
  ⟨Token.tokens_of_seam h, extend_of_tokens_eq_append (Token.tokens_of_seam h)⟩

/-- A word directly after a directive that has another one inside of it, and a directive that there
is not after a brace that closes nothing. -/
theorem extend_of_seam_glued :
    (Token.Seam "al\x7d \x7bshow:\x7bmovie\x7dx\x7d".toList [] "f%".toList ∧
      tokens "al\x7d \x7bshow:\x7bmovie\x7dx\x7df%".toList =
        tokens "al\x7d \x7bshow:\x7bmovie\x7dx\x7d".toList ++ tokens "f%".toList) ∧
    (Token.Seam "al\x7d".toList [] "\x7bwat\x7d".toList ∧
      ∀ q : Query, q.extend "al\x7d\x7bwat\x7d".toList =
        q.extend "al\x7d".toList >>= fun r => r.extend "\x7bwat\x7d".toList) := by
  have hclosing : Token.Seam "al\x7d \x7bshow:\x7bmovie\x7dx\x7d".toList [] "f%".toList :=
    .closing (show Token.depthOf 0 "al\x7d \x7bshow:\x7bmovie\x7dx".toList = 1 from rfl) rfl
  have hopening : Token.Seam "al\x7d".toList [] "\x7bwat\x7d".toList := .opening rfl
  exact ⟨⟨hclosing, (extend_of_seam hclosing).1⟩, hopening, (extend_of_seam hopening).2⟩

end Query

end Filmography
