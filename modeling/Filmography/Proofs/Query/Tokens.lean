import Filmography.Proofs.Query.Names
import Filmography.Query.Token

/-!
# What a text is made of

The pieces that a query is written in are words and spans: a word has neither blanks nor opening
braces, and in a span every brace is closed. Pieces that are joined by blanks are the tokens of the
joined text, so nothing is lost between writing pieces and reading tokens.

The other way round, what is inside of a token that starts with a brace has no closing brace that
closes nothing, whether the token is closed or not, and neither has the argument of a directive.

* `tokens_joined`: pieces that are joined are read back;
* `Token.name_braced`, `Token.argument?_braced_some`: the parts of a directive that is written;
* `Token.IsSpan.isOpened`, `Token.NoStray.isOpened`: what is inside of braces;
* `Token.noStray_argument`: what the arguments of directives are.
-/

namespace Filmography

namespace Token

/-! ### Braces -/

/-- The count of open braces after a text, if no brace in it closes nothing. -/
def level? : Nat → Text → Option Nat
  | depth, [] => some depth
  | depth, c :: t =>
    if c = '{' then level? (depth + 1) t
    else if c = '}' then if depth = 0 then none else level? (depth - 1) t
    else level? depth t

/-- Every brace of a text is closed, and none closes nothing. -/
def Balanced (t : Text) : Prop :=
  level? 0 t = some 0

/-- No brace of a text closes nothing. -/
def NoStray (t : Text) : Prop :=
  ∃ e, level? 0 t = some e

theorem level?_append (depth : Nat) (a b : Text) :
    level? depth (a ++ b) = (level? depth a).bind fun e => level? e b := by
  induction a generalizing depth with
  | nil => rfl
  | cons c a ih =>
    rw [List.cons_append, level?, level?]
    split
    · exact ih _
    · split
      · split
        · rfl
        · exact ih _
      · exact ih _

/-- Unless it closes nothing, a character only changes how many braces are open. -/
theorem level?_cons {depth : Nat} {c : Char} (hc : ¬(c = '}' ∧ depth = 0)) (t : Text) :
    level? depth (c :: t) = level? (depthAfter depth c) t := by
  rw [depthAfter, level?]
  by_cases hclose : c = '}'
  · rw [if_pos hclose, if_pos hclose, if_neg fun hd => hc ⟨hclose, hd⟩]
    split <;> rfl
  · rw [if_neg hclose, if_neg hclose]
    split <;> rfl

/-- It changes this in the same way further in. -/
theorem depthAfter_add {depth : Nat} {c : Char} (hc : ¬(c = '}' ∧ depth = 0)) (k : Nat) :
    depthAfter (depth + k) c = depthAfter depth c + k := by
  rw [depthAfter, depthAfter]
  split
  · omega
  · split
    · next hclose =>
      have hd : depth ≠ 0 := fun hd => hc ⟨hclose, hd⟩
      omega
    · rfl

/-- The first character of a text in which no brace closes nothing does not, either. -/
theorem level?_of_cons {depth e : Nat} {c : Char} {t : Text} (h : level? depth (c :: t) = some e) :
    ¬(c = '}' ∧ depth = 0) ∧ level? (depthAfter depth c) t = some e := by
  have hc : ¬(c = '}' ∧ depth = 0) := by
    rintro ⟨rfl, rfl⟩
    cases h
  rw [level?_cons hc] at h
  exact ⟨hc, h⟩

/-- Outside of all braces only an opening brace changes this. -/
theorem depthAfter_zero {c : Char} (hc : c ≠ '{') : depthAfter 0 c = 0 := by
  rw [depthAfter, if_neg hc]
  split <;> rfl

/-- What happens at some depth happens further in, too. -/
theorem level?_add {depth e : Nat} {t : Text} (h : level? depth t = some e) (k : Nat) :
    level? (depth + k) t = some (e + k) := by
  induction t generalizing depth with
  | nil =>
    cases h
    rfl
  | cons c t ih =>
    obtain ⟨hc, ht⟩ := level?_of_cons h
    -- what is closed here was opened here, so it is not one of the outer braces
    have hadd : ¬(c = '}' ∧ depth + k = 0) := fun hclose => hc ⟨hclose.1, by omega⟩
    rw [level?_cons hadd, depthAfter_add hc, ih ht]

/-- A text without braces opens and closes none. -/
theorem level?_of_forall {t : Text} (h : ∀ c ∈ t, c ≠ '{' ∧ c ≠ '}') (depth : Nat) :
    level? depth t = some depth := by
  induction t with
  | nil => rfl
  | cons c t ih =>
    obtain ⟨⟨hopen, hclose⟩, ht⟩ := List.forall_mem_cons.mp h
    rw [level?, if_neg hopen, if_neg hclose, ih ht]

theorem balanced_of_forall {t : Text} (h : ∀ c ∈ t, c ≠ '{' ∧ c ≠ '}') : Balanced t :=
  level?_of_forall h 0

theorem Balanced.level? {t : Text} (h : Balanced t) (depth : Nat) :
    level? depth t = some depth := by
  have hdepth := level?_add h depth
  rwa [Nat.zero_add] at hdepth

theorem Balanced.append {a b : Text} (ha : Balanced a) (hb : Balanced b) :
    Balanced (a ++ b) := by
  rw [Balanced, level?_append, ha]
  exact hb

/-- A balanced text in braces is balanced. -/
theorem Balanced.braced {t : Text} (h : Balanced t) : Balanced ('{' :: t ++ ['}']) := by
  rw [Balanced, List.cons_append, Token.level?, if_pos rfl, level?_append, h.level?]
  rfl

/-- Where no brace closes nothing, none does so in a part that starts outside of all braces. -/
theorem NoStray.of_append {a b : Text} (h : NoStray (a ++ b)) : NoStray a := by
  obtain ⟨e, he⟩ := h
  rw [level?_append] at he
  obtain ⟨d, hd, -⟩ := Option.bind_eq_some_iff.mp he
  exact ⟨d, hd⟩

/-! ### Words and spans -/

/-- Something without blanks and opening braces. -/
structure IsWord (w : Text) : Prop where
  /-- There is something. -/
  ne_nil : w ≠ []
  /-- No character would end it. -/
  chars : ∀ c ∈ w, c ≠ '{' ∧ isBlank c = false

/-- A balanced text in braces. -/
def IsSpan (s : Text) : Prop :=
  ∃ body, Balanced body ∧ s = '{' :: body ++ ['}']

theorem IsWord.brace_notMem {w : Text} (h : IsWord w) : '{' ∉ w :=
  fun hmem => (h.chars _ hmem).1 rfl

theorem IsSpan.balanced {s : Text} (h : IsSpan s) : Balanced s := by
  obtain ⟨body, hbody, rfl⟩ := h
  exact hbody.braced

/-- A word or a span. -/
def IsPiece (p : Text) : Prop :=
  IsWord p ∨ IsSpan p

/-- Inside of braces a text is read as it stands, as long as it closes nothing but its own. -/
theorem scan_append {depth e : Nat} {t : Text} (h : level? depth t = some e) (rest : Text) :
    scan (depth + 1) (t ++ rest) = (t ++ (scan (e + 1) rest).1, (scan (e + 1) rest).2) := by
  induction t generalizing depth with
  | nil =>
    cases h
    rfl
  | cons c t ih =>
    -- the brace that closes the token is the one that `level?` would call stray
    obtain ⟨hc, ht⟩ := level?_of_cons h
    rw [List.cons_append, scan, if_neg hc, depthAfter_add hc, ih ht]
    rfl

/-- A word is read as it stands. -/
theorem scan_word {w : Text} (h : ∀ c ∈ w, c ≠ '{' ∧ isBlank c = false) (rest : Text) :
    scan 0 (w ++ rest) = (w ++ (scan 0 rest).1, (scan 0 rest).2) := by
  induction w with
  | nil => rfl
  | cons c w ih =>
    obtain ⟨⟨hopen, hblank⟩, hw⟩ := List.forall_mem_cons.mp h
    rw [List.cons_append, scan, if_neg hopen, if_neg (by simp [hblank]), ih hw]
    rfl

/-- A span is a token, and what follows it is read for itself. -/
theorem scan_span {body : Text} (h : Balanced body) (rest : Text) :
    scan 0 ('{' :: body ++ '}' :: rest) = ([], ('{' :: body ++ ['}']) :: tokens rest) := by
  have hclose : scan 1 ('}' :: rest) = (['}'], tokens rest) := by
    rw [scan, if_pos ⟨rfl, rfl⟩, tokens]
  rw [List.cons_append, scan, if_pos rfl, scan_append h, hclose, List.cons_append]

/-- After a piece comes the end or a blank. -/
theorem scan_spread (ps : List Text) : scan 0 (Text.spread ps) = ([], tokens (Text.spread ps)) := by
  cases ps with
  | nil => rfl
  | cons p ps =>
    have hscan : scan 0 (Text.spread (p :: ps)) =
        ([], Text.settle (scan 0 (p ++ Text.spread ps))) := by
      rw [Text.spread_cons, List.cons_append, scan]
      rfl
    rw [tokens, hscan]
    rfl

/-- A piece with a blank or nothing after it is a token. -/
theorem tokens_piece_append {p : Text} (hp : IsPiece p) (ps : List Text) :
    tokens (p ++ Text.spread ps) = p :: tokens (Text.spread ps) := by
  rcases hp with hw | ⟨body, hbody, rfl⟩
  · rw [tokens, scan_word hw.chars, scan_spread, List.append_nil]
    obtain ⟨c, w, rfl⟩ := List.exists_cons_of_ne_nil hw.ne_nil
    rfl
  · have happend : '{' :: body ++ ['}'] ++ Text.spread ps =
        '{' :: body ++ '}' :: Text.spread ps := by
      rw [List.append_assoc]
      rfl
    rw [happend, tokens, scan_span hbody]
    rfl

end Token

/-- Pieces that are joined by blanks are the tokens of the text. -/
theorem tokens_joined {ps : List Text} (h : ∀ p ∈ ps, Token.IsPiece p) :
    tokens (Text.joined [' '] ps) = ps := by
  cases ps with
  | nil => rfl
  | cons p ps =>
    rw [Text.joined_cons]
    induction ps generalizing p with
    | nil =>
      rw [Token.tokens_piece_append (h p (List.mem_cons_self ..))]
      rfl
    | cons v ps ih =>
      obtain ⟨hp, hps⟩ := List.forall_mem_cons.mp h
      -- the blank between the pieces ends the first token and is dropped
      have hspread : tokens (Text.spread (v :: ps)) = tokens (v ++ Text.spread ps) := by
        rw [Text.spread_cons, tokens, List.cons_append, Token.scan]
        rfl
      rw [Token.tokens_piece_append hp, hspread, ih v hps]

/-- Balanced pieces that are joined are balanced. -/
theorem Token.balanced_joined {ps : List Text} (h : ∀ p ∈ ps, Balanced p) :
    Balanced (Text.joined [' '] ps) := by
  have hspread : ∀ {ps : List Text}, (∀ p ∈ ps, Balanced p) → Balanced (Text.spread ps) := by
    intro ps h
    induction ps with
    | nil => rfl
    | cons p ps ih =>
      obtain ⟨hp, hps⟩ := List.forall_mem_cons.mp h
      have hblank : Balanced [' '] := rfl
      rw [Text.spread_cons]
      exact (hblank.append hp).append (ih hps)
  cases ps with
  | nil => rfl
  | cons p ps =>
    obtain ⟨hp, hps⟩ := List.forall_mem_cons.mp h
    rw [Text.joined_cons]
    exact hp.append (hspread hps)

namespace Token

/-! ### The parts of a directive that is written -/

theorem withoutClosing_append (t : Text) : withoutClosing (t ++ ['}']) = t := by
  rw [withoutClosing, if_pos List.getLast?_concat, List.dropLast_concat]

section

variable {n : Text} (hcolon : ':' ∉ n)

include hcolon

theorem cutAt_inner_braced (arg : Option Text) :
    (inner (Directive.braced n arg)).cutAt ':' = (n, arg) := by
  cases arg with
  | none => rw [inner, Directive.braced, List.cons_append, List.tail_cons, withoutClosing_append,
      Text.cutAt_of_notMem hcolon]
  | some a =>
    have hinner : (Directive.braced n (some a)).tail = n ++ ':' :: a ++ ['}'] := by
      simp [Directive.braced]
    rw [inner, hinner, withoutClosing_append, Text.cutAt_append_cons hcolon]

/-- The name of a directive that is written. -/
theorem name_braced (htrim : n.trim = n) (arg : Option Text) :
    name (Directive.braced n arg) = n := by
  rw [name, cutAt_inner_braced hcolon, htrim]

/-- A flag that is written has no argument. -/
theorem argument?_braced_none : argument? (Directive.braced n none) = none := by
  rw [argument?, cutAt_inner_braced hcolon]

/-- The argument of a directive that is written is trimmed. -/
theorem argument?_braced_some {a : Text} (ha : a.trim ≠ []) :
    argument? (Directive.braced n (some a)) = some a.trim := by
  rw [argument?, cutAt_inner_braced hcolon]
  exact if_neg ha

end

@[simp]
theorem isDirective_braced (n : Text) (arg : Option Text) :
    isDirective (Directive.braced n arg) = true := by
  cases arg <;> rfl

/-- A directive is a span if its name and its argument are balanced. -/
theorem isSpan_braced {n : Text} (hn : Balanced n) {arg : Option Text}
    (harg : ∀ a, arg = some a → Balanced a) : IsSpan (Directive.braced n arg) := by
  cases arg with
  | none => exact ⟨n, hn, rfl⟩
  | some a =>
    have hcolon : Balanced [':'] := rfl
    refine ⟨n ++ [':'] ++ a, (hn.append hcolon).append (harg a rfl), ?_⟩
    simp [Directive.braced]

theorem IsWord.isDirective {w : Text} (h : IsWord w) : isDirective w = false := by
  obtain ⟨c, w, rfl⟩ := List.exists_cons_of_ne_nil h.ne_nil
  have hc := (h.chars c (List.mem_cons_self ..)).1
  simpa [Token.isDirective] using hc

/-! ### The arguments of directives -/

/-- Something that starts with a brace, in which no brace but the last closes nothing. -/
structure IsOpened (token : Text) : Prop where
  /-- It starts with a brace. -/
  isDirective : isDirective token = true
  /-- Between the braces nothing is closed that was not opened there. -/
  noStray : NoStray (inner token)

/-- A span starts with a brace, and all braces inside of it are closed. -/
theorem IsSpan.isOpened {s : Text} (h : IsSpan s) : IsOpened s := by
  obtain ⟨body, hbody, rfl⟩ := h
  refine ⟨rfl, 0, ?_⟩
  rw [inner, List.cons_append, List.tail_cons, withoutClosing_append]
  exact hbody

/-- What is inside of a brace that stays open closes nothing else, with its last brace or without
it. -/
theorem NoStray.isOpened {r : Text} (h : NoStray r) : IsOpened ('{' :: r) := by
  refine ⟨rfl, ?_⟩
  rw [inner, List.tail_cons, withoutClosing]
  split
  · next hlast =>
    obtain ⟨body, rfl⟩ := List.getLast?_eq_some_iff.mp hlast
    rw [List.dropLast_concat]
    exact h.of_append
  · exact h


/-- White space is neither of the braces. -/
theorem balanced_of_isSpace {t : Text} (h : ∀ c ∈ t, Text.isSpace c = true) : Balanced t := by
  refine balanced_of_forall fun c hc => ⟨?_, ?_⟩
  · rintro rfl
    exact absurd (h _ hc) (by decide)
  · rintro rfl
    exact absurd (h _ hc) (by decide)

/-- Trimming takes no braces away. -/
theorem level?_trim {t : Text} {e : Nat} (h : level? 0 t = some e) : level? 0 t.trim = some e := by
  obtain ⟨a, b, ha, hb, ht⟩ := Text.exists_append_trim_append t
  rw [ht, level?_append, level?_append, balanced_of_isSpace ha] at h
  obtain ⟨d, hd, he⟩ := Option.bind_eq_some_iff.mp h
  rw [(balanced_of_isSpace hb).level?] at he
  rw [← he]
  exact hd

/-- What a directive is found by has no braces. -/
theorem balanced_of_find? {n : Text} {d : Directive} (h : Directive.find? n = some d) :
    Balanced n :=
  balanced_of_forall fun c hc =>
    ⟨(Directive.forall_mem_of_find? h c hc).1, (Directive.forall_mem_of_find? h c hc).2.1⟩

/-- What stands before the argument of a directive that is found is balanced. -/
theorem balanced_of_find?_trim {n : Text} {d : Directive} (h : Directive.find? n.trim = some d) :
    Balanced n := by
  obtain ⟨a, b, ha, hb, hn⟩ := Text.exists_append_trim_append n
  rw [hn]
  exact ((balanced_of_isSpace ha).append (balanced_of_find? h)).append (balanced_of_isSpace hb)

/-- As many braces are open after the argument of a directive as inside of the directive. -/
theorem level?_of_cutAt {t before after : Text} (hcut : t.cutAt ':' = (before, some after))
    (hbefore : Balanced before) : level? 0 t = level? 0 after := by
  have hcolon : Balanced [':'] := rfl
  have ht : t = before ++ [':'] ++ after := by
    rw [Text.eq_of_cutAt hcut, List.append_assoc]
    rfl
  rw [ht, level?_append, hbefore.append hcolon]
  rfl

/-- The argument of a directive stands inside of the directive, after a text that is balanced. -/
theorem exists_inner_eq_of_argument? {token a : Text} {d : Directive}
    (hname : Directive.find? (name token) = some d) (harg : argument? token = some a) :
    ∃ before after, Balanced before ∧ inner token = before ++ (a ++ after) := by
  rw [name] at hname
  rw [argument?] at harg
  rcases hcut : (inner token).cutAt ':' with ⟨before, _ | after⟩
  · rw [hcut] at harg
    cases harg
  · rw [hcut] at harg hname
    dsimp only at harg
    split at harg
    · cases harg
    · cases harg
      obtain ⟨w, w', hw, -, hafter⟩ := Text.exists_append_trim_append after
      have hcolon : Balanced [':'] := rfl
      refine ⟨before ++ [':'] ++ w, w',
        ((balanced_of_find?_trim hname).append hcolon).append (balanced_of_isSpace hw), ?_⟩
      rw [Text.eq_of_cutAt hcut]
      simpa using hafter

/-- In the argument of a directive nothing is closed that was not opened there. -/
theorem noStray_argument {token a : Text} {d : Directive} (htoken : IsOpened token)
    (hname : Directive.find? (name token) = some d) (harg : argument? token = some a) :
    NoStray a := by
  obtain ⟨before, after, hbefore, hinner⟩ := exists_inner_eq_of_argument? hname harg
  obtain ⟨e, he⟩ := htoken.noStray
  rw [hinner, level?_append, hbefore] at he
  exact NoStray.of_append ⟨e, he⟩

end Token

end Filmography
