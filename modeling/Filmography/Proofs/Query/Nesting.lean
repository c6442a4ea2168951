import Mathlib.Data.List.Infix
import Filmography.Proofs.Query.Parsed

/-!
# How deep the parser goes

The argument of a directive for a role is read as a query by the parser that came to the directive.
It stands one brace deeper than the directive, after a name and a colon, and what is taken from its
ends is white space and at most one brace, which may be one that closes something else. So at least
one brace fewer is open in it, and the parser, which goes down with every such directive, ends on
every text, however its braces are closed.

That the parser ends is said of a parser that knows nothing of lengths and depths: it is given a
number of levels, and gives up where it would need one more. With one level more than braces are
ever open it does not give up, and what it reads is what the parser reads.

* `Token.peak`: how many braces are open at most;
* `Token.peak_le_of_mem_tokens`, `Token.peak_lt_of_argument?`: where this number goes down;
* `Query.Meets`: the directives for roles that are met while a text is parsed;
* `Query.parseWithin`: the parser with a number of levels;
* `Query.descent`: how deep the parser goes into a text.
-/

namespace Filmography

namespace Token

/-! ### The greatest depth -/

/-- The greatest number of braces that are open anywhere in a text, `depth` of them being open
before it. -/
def peak (depth : Nat) (t : Text) : Nat :=
  (t.inits.map (depthOf depth)).foldr max 0

theorem peak_nil (depth : Nat) : peak depth [] = depth :=
  Nat.max_zero depth

theorem peak_cons (depth : Nat) (c : Char) (t : Text) :
    peak depth (c :: t) = max depth (peak (depthAfter depth c) t) := by
  rw [peak, List.inits_cons, List.map_cons, List.foldr_cons, List.map_map]
  rfl

theorem le_peak (depth : Nat) (t : Text) : depth ≤ peak depth t := by
  cases t with
  | nil => rw [peak_nil]
  | cons c t =>
    rw [peak_cons]
    exact Nat.le_max_left _ _

theorem peak_append (depth : Nat) (a b : Text) :
    peak depth (a ++ b) = max (peak depth a) (peak (depthOf depth a) b) := by
  induction a generalizing depth with
  | nil =>
    rw [peak_nil]
    exact (Nat.max_eq_right (le_peak depth b)).symm
  | cons c a ih =>
    have hdepth : depthOf depth (c :: a) = depthOf (depthAfter depth c) a := rfl
    rw [List.cons_append, peak_cons, peak_cons, ih, hdepth, Nat.max_assoc]

/-- Further in, more braces are open by as many as are open there before. -/
theorem peak_add {depth e : Nat} {t : Text} (h : level? depth t = some e) (k : Nat) :
    peak (depth + k) t = peak depth t + k := by
  induction t generalizing depth with
  | nil => rw [peak_nil, peak_nil]
  | cons c t ih =>
    obtain ⟨hc, ht⟩ := level?_of_cons h
    rw [peak_cons, peak_cons, depthAfter_add hc, ih ht]
    omega

/-- Where a brace is closed in a text in which none closes nothing, a brace is open. -/
theorem NoStray.depthOf_pos {b c : Text} (h : NoStray (b ++ '}' :: c)) : 0 < depthOf 0 b := by
  obtain ⟨e, he⟩ := h
  rw [level?_append] at he
  obtain ⟨k, hk, he⟩ := Option.bind_eq_some_iff.mp he
  rw [depthOf_of_level? hk]
  rcases k with _ | k
  · cases he
  · exact Nat.succ_pos k

/-! ### Tokens and arguments -/

theorem Layout.peak_le {t : Text} {ts : List Text} (h : Layout t ts) :
    ∀ token ∈ ts, peak 0 token ≤ peak 0 t := by
  have hpiece : ∀ {p t : Text} {ts : List Text}, IsPiece p →
      (∀ token ∈ ts, peak 0 token ≤ peak 0 t) →
      ∀ token ∈ p :: ts, peak 0 token ≤ peak 0 (p ++ t) := by
    intro p t ts hp hts
    rw [peak_append, hp.depthOf]
    exact List.forall_mem_cons.mpr ⟨Nat.le_max_left _ _, fun token htoken =>
      Nat.le_trans (hts token htoken) (Nat.le_max_right _ _)⟩
  induction h with
  | nil => exact List.forall_mem_nil _
  | blank hc _ ih =>
    rw [peak_cons, depthAfter_blank hc]
    exact fun token htoken => Nat.le_trans (ih token htoken) (Nat.le_max_right _ _)
  | word hw _ _ ih => exact hpiece (.inl hw) ih
  | span hs _ ih => exact hpiece (.inr hs) ih
  | unclosed _ => exact List.forall_mem_singleton.mpr (Nat.le_refl _)

/-- In a token no more braces are open than in the text. -/
theorem peak_le_of_mem_tokens {t token : Text} (h : token ∈ tokens t) : peak 0 token ≤ peak 0 t :=
  (layout_tokens t).peak_le token h

/-- What starts with a brace consists of the brace, what is inside, and perhaps another brace. -/
theorem exists_eq_cons_inner {token : Text} (h : isDirective token = true) :
    ∃ z, token = '{' :: (inner token ++ z) := by
  rcases token with _ | ⟨c, r⟩
  · cases h
  · obtain rfl : c = '{' := by simpa [isDirective] using h
    rw [inner, List.tail_cons, withoutClosing]
    split
    · next hlast =>
      obtain ⟨body, rfl⟩ := List.getLast?_eq_some_iff.mp hlast
      exact ⟨['}'], by rw [List.dropLast_concat]⟩
    · exact ⟨[], by rw [List.append_nil]⟩

/-- In the argument of a directive fewer braces are open than in the directive. -/
theorem peak_lt_of_argument? {token a : Text} {d : Directive} (htoken : IsOpened token)
    (hname : Directive.find? (name token) = some d) (harg : argument? token = some a) :
    peak 0 a < peak 0 token := by
  obtain ⟨before, after, hbefore, hinner⟩ := exists_inner_eq_of_argument? hname harg
  obtain ⟨z, hz⟩ := exists_eq_cons_inner htoken.isDirective
  obtain ⟨e, he⟩ := noStray_argument htoken hname harg
  -- where the argument starts, the brace of the directive is open and no other
  have hstart : depthOf 1 before = 1 := depthOf_of_level? (hbefore.level? 1)
  have hdeeper : peak 1 a = peak 0 a + 1 := peak_add he 1
  have hpeak : peak 0 token = max 0 (peak 1 (before ++ (a ++ (after ++ z)))) := by
    rw [hz, hinner, List.append_assoc, List.append_assoc, peak_cons]
    rfl
  rw [hpeak, peak_append, hstart, peak_append, hdeeper]
  omega

/-! ### What tokens hand on -/

/-- The text that a token hands on to be read as a query: the argument of a directive for a role. -/
def handed? (token : Text) : Option Text :=
  match (directive? token).map Directive.form with
  | some (.sub _ _) => argument? token
  | _ => none

theorem handed?_eq_some_iff {token a : Text} :
    handed? token = some a ↔
      ∃ d role call, directive? token = some d ∧ d.form = .sub role call ∧
        argument? token = some a := by
  rw [handed?]
  constructor
  · intro h
    split at h
    · next role call hform =>
      obtain ⟨d, hd, hform⟩ := Option.map_eq_some_iff.mp hform
      exact ⟨d, role, call, hd, hform, h⟩
    · cases h
  · rintro ⟨d, role, call, hd, hform, harg⟩
    rw [hd, Option.map_some, hform]
    exact harg

section

variable {t token a : Text} (htoken : token ∈ tokens t) (ha : handed? token = some a)

include htoken ha

/-- A token that hands something on is a directive, and this is its argument. -/
theorem exists_find?_of_handed? :
    IsOpened token ∧ ∃ d, Directive.find? (name token) = some d ∧ argument? token = some a := by
  obtain ⟨d, role, call, hd, -, harg⟩ := handed?_eq_some_iff.mp ha
  exact ⟨isOpened_of_directive? htoken hd, d, (directive?_eq_some_iff.mp hd).2, harg⟩

theorem noStray_of_handed? : NoStray a := by
  obtain ⟨hopened, d, hname, harg⟩ := exists_find?_of_handed? htoken ha
  exact noStray_argument hopened hname harg

theorem peak_lt_of_handed? : peak 0 a < peak 0 token := by
  obtain ⟨hopened, d, hname, harg⟩ := exists_find?_of_handed? htoken ha
  exact peak_lt_of_argument? hopened hname harg

end

/-- Fewer braces are open in a text that is handed on than in the text that it comes from. -/
theorem peak_lt_of_mem_tokens {t token a : Text} (htoken : token ∈ tokens t)
    (ha : handed? token = some a) : peak 0 a < peak 0 t :=
  Nat.lt_of_lt_of_le (peak_lt_of_handed? htoken ha) (peak_le_of_mem_tokens htoken)

end Token

/-- A directive reads its argument as a query only if its form says so. -/
theorem Directive.read_congr {d : Directive} {arg : Option Text}
    {sub sub' : ∀ a, arg = some a → Except Error Query}
    (h : ∀ role call a (ha : arg = some a), d.form = .sub role call → sub a ha = sub' a ha) :
    d.read arg sub = d.read arg sub' := by
  rcases arg with _ | a
  · have hnone : sub = sub' := funext₂ fun a ha => by cases ha
    rw [hnone]
  · rcases hform : d.form with call | call | ⟨role, call⟩ | _ | _ | _
    case sub => simp only [read, hform, h role call a rfl hform]
    all_goals simp only [read, hform]

/-- What a token stands for depends on how queries are read only as far as it hands one on. -/
theorem Token.call?_congr {token : Text}
    {sub sub' : ∀ a, argument? token = some a → Except Error Query}
    (h : ∀ a ha, handed? token = some a → sub a ha = sub' a ha) :
    call? token sub = call? token sub' := by
  rw [call?, call?]
  split
  · next hdirective =>
    rcases hname : Directive.find? (name token) with _ | d
    · rfl
    · have hd := directive?_eq_some_iff.mpr ⟨hdirective, hname⟩
      exact Directive.read_congr fun role call a ha hform =>
        h a ha (handed?_eq_some_iff.mpr ⟨d, role, call, hd, hform, ha⟩)
  · rfl

namespace Query

open Token

/-! ### Directives that are met -/

/-- `Meets t token a` says that a directive for a role is met while `t` is parsed, and that `a` is
its argument, which is read as a query: the directive is a token of the text, or it is met in what
a token of the text hands on. The parser may stop before it comes there, at a token that is refused;
what stands behind that token counts as well. -/
inductive Meets : Text → Text → Text → Prop
  /-- A token of the text. -/
  | here {t token a : Text} (htoken : token ∈ tokens t) (ha : handed? token = some a) :
      Meets t token a
  /-- A directive in what a token of the text hands on. -/
  | inside {t outer b token a : Text} (houter : outer ∈ tokens t) (hb : handed? outer = some b)
      (h : Meets b token a) : Meets t token a

/-- What is met is a token of the text or of another one that was handed on. -/
theorem Meets.exists_mem_tokens {t token a : Text} (h : Meets t token a) :
    ∃ u, token ∈ tokens u ∧ handed? token = some a := by
  induction h with
  | here htoken ha => exact ⟨_, htoken, ha⟩
  | inside _ _ _ ih => exact ih

/-! ### Levels of the parser -/

/-- The call that a token stands for, if the parser of queries does not give up on what the token
hands on. A token that hands nothing on is read without it, so it makes no difference which query
is put in its place. -/
def callWithin (sub : Text → ExceptT Error Option Query) (token : Text) :
    ExceptT Error Option Call :=
  match handed? token with
  | none => .mk (some (call? token fun _ _ => .ok empty))
  | some a => .mk ((sub a).run.map fun answer => call? token fun _ _ => answer)

/-- The query that a text asks for, read with a number of levels: one for the text itself, and the
others for what its tokens hand on. Without a level the parser gives up. -/
def parseWithin : Nat → Text → ExceptT Error Option Query
  | 0, _ => .mk none
  | n + 1, t => empty.applyAll <$> (tokens t).mapM (callWithin (parseWithin n))

/-- A token stands for its call if what it hands on is parsed. -/
theorem run_callWithin {sub : Text → ExceptT Error Option Query} {token : Text}
    (h : ∀ a, handed? token = some a → (sub a).run = some (parse a)) :
    (callWithin sub token).run = some (readToken token) := by
  rw [callWithin]
  split
  · next hnone =>
    refine congrArg some (call?_congr fun a _ ha => ?_)
    rw [hnone] at ha
    cases ha
  · next a hsome =>
    rw [ExceptT.run_mk, h a hsome]
    refine congrArg some (call?_congr fun b _ hb => ?_)
    rw [hsome] at hb
    cases hb
    rfl

/-- With more levels than braces are ever open, the parser does not give up. -/
theorem run_parseWithin {n : Nat} {t : Text} (h : peak 0 t < n) :
    (parseWithin n t).run = some (parse t) := by
  induction n generalizing t with
  | zero => exact absurd h (Nat.not_lt_zero _)
  | succ n ih =>
    have hread : ∀ token ∈ tokens t,
        (callWithin (parseWithin n) token).run = some (readToken token) := by
      intro token htoken
      refine run_callWithin fun a ha => ih ?_
      have hlt := peak_lt_of_mem_tokens htoken ha
      omega
    rw [parseWithin, ExceptT.run_map, run_mapM_eq_some hread, parse, extend_eq, calls?_eq_mapM]
    rfl

/-! ### Levels of queries -/

section

variable {ν : Type}

/-- How deep the sub-queries of a query are nested: not at all if it has none. -/
def nesting : Query ν → Nat
  | ⟨_, tvshow, credits, cast⟩ =>
    max (match tvshow with | none => 0 | some q => q.nesting + 1)
      (max (match credits with | none => 0 | some q => q.nesting + 1)
        (match cast with | none => 0 | some q => q.nesting + 1))
termination_by structural q => q

theorem nesting_eq (q : Query ν) :
    q.nesting = max (q.tvshow.elim 0 fun s => s.nesting + 1)
      (max (q.credits.elim 0 fun s => s.nesting + 1) (q.cast.elim 0 fun s => s.nesting + 1)) := by
  obtain ⟨c, tvshow, credits, cast⟩ := q
  cases tvshow <;> cases credits <;> cases cast <;> rfl

/-- A query is nested one level deeper than the deepest of its sub-queries. -/
theorem nesting_le_iff {q : Query ν} {n : Nat} : q.nesting ≤ n ↔ ∀ s ∈ q.subs, s.nesting < n := by
  have hrole : ∀ o : Option (Query ν),
      (o.elim 0 fun s => s.nesting + 1) ≤ n ↔ ∀ s, o = some s → s.nesting < n := by
    rintro (_ | s)
    · simp
    · simp
  rw [nesting_eq, Nat.max_le, Nat.max_le, hrole, hrole, hrole]
  simp only [mem_subs, or_imp, forall_and]

/-- Which kinds are listed makes no difference. -/
theorem nesting_kinds (q : Query ν) (ks : List Kind) :
    nesting { q with kinds := ks } = q.nesting := by
  rw [nesting_eq, nesting_eq]

/-- A call nests the sub-query that it attaches, and no other. -/
theorem nesting_apply_le {q : Query ν} {n : Nat} (hq : q.nesting ≤ n) {c : Call ν}
    (hsub : ∀ s, c.sub? = some s → s.nesting < n) : (q.apply c).nesting ≤ n := by
  refine nesting_le_iff.mpr fun s hs => ?_
  rcases mem_subs_apply hs with hs | ⟨sub, ks, hsub', rfl, -⟩
  · exact nesting_le_iff.mp hq s hs
  · rw [nesting_kinds]
    exact hsub sub hsub'

theorem nesting_applyAll_le {q : Query ν} {n : Nat} (hq : q.nesting ≤ n) {cs : List (Call ν)}
    (hcs : ∀ c ∈ cs, ∀ s, c.sub? = some s → s.nesting < n) : (q.applyAll cs).nesting ≤ n := by
  induction cs generalizing q with
  | nil => exact hq
  | cons c cs ih =>
    obtain ⟨hc, hcs⟩ := List.forall_mem_cons.mp hcs
    exact ih (nesting_apply_le hq hc) hcs

end

/-- The sub-query of a call is parsed from what its token hands on. -/
theorem exists_handed?_of_sub? {token : Text} {c : Call} (h : readToken token = .ok c) {s : Query}
    (hs : c.sub? = some s) : ∃ a, handed? token = some a ∧ parse a = .ok s := by
  rcases readToken_eq_ok_iff.mp h with ⟨-, rfl⟩ | ⟨d, hd, haccepts⟩
  · cases hs
  · generalize harg : argument? token = arg at haccepts
    rcases haccepts with hform | ⟨hform, -⟩ | @⟨role, call, a, q, hform, hq⟩ | - | - | - | -
    · cases d <;> cases hform <;> cases hs
    · cases d <;> cases hform <;> cases hs
    · refine ⟨a, handed?_eq_some_iff.mpr ⟨d, role, call, hd, hform, harg⟩, ?_⟩
      cases d <;> cases hform <;> cases hs <;> exact hq
    all_goals cases hs

/-- The sub-queries of a query are nested no deeper than the braces of its text, by induction on the
depth of the braces. -/
theorem nesting_le_peak {t : Text} {q : Query} (h : parse t = .ok q) : q.nesting ≤ peak 0 t := by
  induction hn : peak 0 t using Nat.strongRecOn generalizing t q with
  | ind n ih =>
    subst hn
    obtain ⟨cs, hcs, rfl⟩ := exists_of_map_eq_ok ((extend_eq _ _).symm.trans h)
    refine nesting_applyAll_le (Nat.zero_le _) fun c hc s hs => ?_
    obtain ⟨token, htoken, hread⟩ := exists_readToken_of_mem_calls? hcs hc
    obtain ⟨a, ha, hparse⟩ := exists_handed?_of_sub? hread hs
    have hlt := peak_lt_of_mem_tokens htoken ha
    exact Nat.lt_of_le_of_lt (ih _ hlt hparse rfl) hlt

/-! ### How deep the parser goes -/

/-- How deep the parser goes into a text. -/
structure Descent (t : Text) : Prop where
  /-- What a directive hands on is shorter than the directive. -/
  shorter : ∀ token a, Meets t token a → a.length < token.length
  /-- The greatest number of braces that are open in it is less by one at least. -/
  shallower : ∀ token a, Meets t token a → peak 0 a + 1 ≤ peak 0 token
  /-- In it, no brace is closed where none is open. -/
  closing : ∀ token a, Meets t token a →
    ∀ before after, a = before ++ '}' :: after → 0 < depthOf 0 before
  /-- With more levels than braces are ever open, the parser ends with its answer. -/
  ends : ∀ n, peak 0 t < n → (parseWithin n t).run = some (parse t)
  /-- The sub-queries of the query are nested no deeper than the braces are. -/
  nesting : ∀ q, parse t = .ok q → q.nesting ≤ peak 0 t
  /-- No term of a sub-query has a brace. -/
  braceless : ∀ q, parse t = .ok q →
    ∀ p, q.Below p → ∀ term ∈ p.terms, '{' ∉ term ∧ '}' ∉ term

/-- **The parser goes down**: with every directive for a role it comes to a text that is shorter and
less deep, so it ends on every text, and what it reads is nested no deeper than the braces are. -/
theorem descent (t : Text) : Descent t where
  shorter token a h := by
    obtain ⟨u, htoken, ha⟩ := h.exists_mem_tokens
    obtain ⟨-, d, -, harg⟩ := exists_find?_of_handed? htoken ha
    exact length_argument?_lt harg
  shallower token a h := by
    obtain ⟨u, htoken, ha⟩ := h.exists_mem_tokens
    exact peak_lt_of_handed? htoken ha
  closing token a h before after hsplit := by
    obtain ⟨u, htoken, ha⟩ := h.exists_mem_tokens
    have hstray := noStray_of_handed? htoken ha
    rw [hsplit] at hstray
    exact hstray.depthOf_pos
  ends n h := run_parseWithin h
  nesting q h := nesting_le_peak h
  braceless q h p hp term hterm := by
    have hparsed := isParsed_of_parse h
    exact ⟨((hparsed.isWritable p hp.contains).words term hterm).brace_notMem,
      hparsed.below p hp term hterm⟩

/-- Three braces are opened in this text and one is closed. This one closes the innermost directive,
and it is taken from the end of the outermost one. -/
def dangling : Text :=
  "al\x7d \x7bshow: x \x7bcast:\x7bnocase\x7d".toList

theorem descent_dangling :
    (Meets dangling "\x7bcast:\x7bnocase".toList "\x7bnocase".toList ∧
      peak 0 "\x7bnocase".toList + 1 ≤ peak 0 "\x7bcast:\x7bnocase".toList) ∧
    peak 0 dangling = 3 ∧ ∃ q, parse dangling = .ok q ∧ q.nesting = 2 := by
  have houter : "\x7bshow: x \x7bcast:\x7bnocase\x7d".toList ∈ tokens dangling := by decide
  have hb : handed? "\x7bshow: x \x7bcast:\x7bnocase\x7d".toList =
      some "x \x7bcast:\x7bnocase".toList := rfl
  have hmeets : Meets dangling "\x7bcast:\x7bnocase".toList "\x7bnocase".toList :=
    .inside houter hb (.here (by decide) rfl)
  have hpeak : peak 0 dangling = 3 := by decide
  obtain ⟨-, hshallower, -, hends, -, -⟩ := descent dangling
  -- the parser with four levels can be run on the text
  have hrun : (parseWithin 4 dangling).run = some (.ok (empty.applyAll [.text "al\x7d".toList,
      .tvshow (empty.applyAll [.text ['x'], .cast (empty.applyAll [.ignoreCase true])])])) := rfl
  rw [hends 4 (by omega)] at hrun
  exact ⟨⟨hmeets, hshallower _ _ hmeets⟩, hpeak, _, Option.some.inj hrun, rfl⟩

end Query

end Filmography
