import Filmography.Proofs.Query.Directives

/-!
# The order of tokens

What a directive sets is not what another one sets, and no directive looks at what has been set
before. So the order of tokens only counts within groups: the words, whose order is that of the
terms; the directives that ask for kinds, which are listed in the order in which they are asked for;
and the directives with one name, of which the last one counts, or which add sort keys in order.

Words and `nofuzzy` both decide whether names are matched by similarity. Either of them can only
turn it off, so their order does not count.

* `foldl_eq_of_filter_eq`: steps in two orders that keep the order within groups;
* `Query.apply_comm`: calls that set different things;
* `Query.parse_joined_of_reordered`: tokens in two such orders ask for the same.
-/

namespace Filmography

/-! ### Steps in two orders -/

/-- If the first step can be taken before all others, that changes nothing. -/
theorem foldl_append_cons_of_comm {α β : Type} {f : β → α → β} {before : List α} {a : α}
    (h : ∀ x ∈ before, ∀ s, f (f s x) a = f (f s a) x) (after : List α) (s : β) :
    (before ++ a :: after).foldl f s = (before ++ after).foldl f (f s a) := by
  induction before generalizing s with
  | nil => rfl
  | cons x before ih =>
    obtain ⟨hx, hbefore⟩ := List.forall_mem_cons.mp h
    rw [List.cons_append, List.foldl_cons, ih hbefore, hx, List.cons_append, List.foldl_cons]

/-- Steps are taken in one order and in another one. Within every group the order is the same, and
steps that have no group in common commute. Then both orders lead to the same. -/
theorem foldl_eq_of_filter_eq {α β γ : Type} {f : β → α → β} {group : γ → α → Bool}
    {as bs : List α} (hperm : as.Perm bs)
    (hgroups : ∀ g, as.filter (group g) = bs.filter (group g))
    (hcomm : ∀ a ∈ as, ∀ b ∈ as, (∀ g, ¬(group g a = true ∧ group g b = true)) →
      ∀ s, f (f s a) b = f (f s b) a) (s : β) :
    as.foldl f s = bs.foldl f s := by
  induction bs generalizing as s with
  | nil => rw [hperm.eq_nil]
  | cons b bs ih =>
    -- the first step of the second order is brought to the front of the first order
    have hb : b ∈ as := hperm.mem_iff.mpr (List.mem_cons_self ..)
    obtain ⟨before, after, rfl, hbefore⟩ := List.eq_append_cons_of_mem hb
    have hapart : ∀ x ∈ before, ∀ g, ¬(group g x = true ∧ group g b = true) := by
      rintro x hx g ⟨hgx, hgb⟩
      have hg := hgroups g
      rw [List.filter_append, List.filter_cons_of_pos hgb, List.filter_cons_of_pos hgb] at hg
      have hmem : x ∈ before.filter (group g) := List.mem_filter.mpr ⟨hx, hgx⟩
      obtain ⟨y, ys, hys⟩ := List.exists_cons_of_ne_nil (List.ne_nil_of_mem hmem)
      have hy : y ∈ before.filter (group g) := by
        rw [hys]
        exact List.mem_cons_self ..
      rw [hys] at hg
      rw [(List.cons.inj hg).1] at hy
      exact hbefore (List.mem_of_mem_filter hy)
    rw [foldl_append_cons_of_comm fun x hx => hcomm x (by simp [hx]) b (by simp) (hapart x hx),
      List.foldl_cons]
    refine ih (List.perm_middle.symm.trans hperm).cons_inv (fun g => ?_) (fun x hx y hy => ?_) _
    · have hg := hgroups g
      by_cases hgb : group g b = true
      · have hnone : before.filter (group g) = [] :=
          List.filter_eq_nil_iff.mpr fun x hx hgx => hapart x hx g ⟨hgx, hgb⟩
        rw [List.filter_append, hnone, List.filter_cons_of_pos hgb,
          List.filter_cons_of_pos hgb] at hg
        rw [List.filter_append, hnone]
        exact (List.cons.inj hg).2
      · rw [List.filter_append, List.filter_cons_of_neg hgb, List.filter_cons_of_neg hgb] at hg
        rw [List.filter_append, hg]
    · refine hcomm x ?_ y ?_
      · exact (List.perm_middle.mem_iff).mpr (List.mem_cons_of_mem b hx)
      · exact (List.perm_middle.mem_iff).mpr (List.mem_cons_of_mem b hy)

/-! ### Calls that set different things -/

/-- Whether a directive asks for a kind. -/
def Directive.asksForKind (d : Directive) : Bool :=
  d ∈ [movie, tvshow, episode, actor, seasons, episodes]

/-- The directive that stands for a call, if one does. -/
def Call.directive? {ν : Type} : Call ν → Option Directive
  | .text _ | .goodThreshold _ => none
  | .entity kind => some (.ofKind kind)
  | .years _ => some .years
  | .rank _ => some .rank
  | .votes _ => some .votes
  | .seasons _ => some .seasons
  | .episodes _ => some .episodes
  | .billed _ => some .billed
  | .noTv _ => some .notv
  | .noVideo _ => some .novideo
  | .tvshow _ => some .show
  | .credits _ => some .credits
  | .cast _ => some .cast
  | .sort _ => some .sort
  | .limit _ | .unlimited => some .limit
  | .fuzzy _ => some .nofuzzy
  | .ignoreCase _ => some .nocase
  | .minSimilarity _ => some .similar
  | .debug _ => some .debug

theorem Call.asksForKind_entity (k : Kind) : (Directive.ofKind k).asksForKind = true := by
  cases k <;> rfl

/-- Calls of different directives commute, unless both ask for kinds, and so do a call of a
directive and a term, unless it turns similarity on. -/
theorem Query.apply_comm {ν : Type} {c d : Call ν} (hne : c.directive? ≠ d.directive?)
    (hkinds : ¬(c.directive?.any Directive.asksForKind = true ∧
      d.directive?.any Directive.asksForKind = true))
    (hc : ∀ yes, c = .fuzzy yes → yes = false) (hd : ∀ yes, d = .fuzzy yes → yes = false)
    (q : Query ν) : (q.apply c).apply d = (q.apply d).apply c := by
  -- the two calls set different things, but for terms, which may turn off what `fuzzy` turns off
  have hentity := Call.asksForKind_entity
  cases c <;> cases d <;> first
    | rfl
    | exact absurd rfl hne
    | rw [hc _ rfl]; rfl
    | rw [hd _ rfl]; rfl
    | refine absurd (And.intro ?_ ?_) hkinds <;> first | rfl | exact hentity _

/-- The call that is read from a directive is one of the directive. -/
theorem Call.directive?_of_accepts {d : Directive} {arg : Option Text} {c : Call}
    (h : d.Accepts arg c) :
    c.directive? = some d ∧ ∀ yes, c = .fuzzy yes → yes = false := by
  rcases h with hform | ⟨hform, -⟩ | ⟨hform, -⟩ | ⟨hform, -, -⟩ | ⟨hform, -, -⟩ | ⟨hform, -⟩ |
    ⟨hform, -, -⟩
  · cases d <;> cases hform <;> exact ⟨rfl, by rintro yes ⟨⟩ <;> rfl⟩
  all_goals
    cases d <;> cases hform <;> exact ⟨rfl, by rintro yes ⟨⟩⟩

/-! ### Tokens in two orders -/

namespace Token

/-- Tokens whose order counts among themselves. -/
inductive Group where
  /-- The words. -/
  | words
  /-- The directives that ask for a kind. -/
  | kinds
  /-- The directives with one name or a synonym of it, such as those that add sort keys. -/
  | named (d : Directive)

/-- Whether a token is in a group. -/
def Group.has : Group → Text → Bool
  | words, token => !isDirective token
  | kinds, token => (directive? token).any Directive.asksForKind
  | named d, token => directive? token = some d

/-- Tokens in another order that keeps the order within every group. -/
structure Reordered (ts us : List Text) : Prop where
  /-- They are the same tokens. -/
  perm : ts.Perm us
  /-- Their order within a group is the same. -/
  within : ∀ g : Group, ts.filter g.has = us.filter g.has

end Token

namespace Query

open Token

/-- Tokens that have no group in common stand for calls that commute. -/
theorem apply_comm_of_readToken {t u : Text} {c d : Call} (hc : readToken t = .ok c)
    (hd : readToken u = .ok d) (hapart : ∀ g : Group, ¬(g.has t = true ∧ g.has u = true))
    (q : Query) : (q.apply c).apply d = (q.apply d).apply c := by
  have hcall : ∀ {t : Text} {c : Call}, readToken t = .ok c →
      c.directive? = directive? t ∧ (directive? t = none → isDirective t = false) ∧
        ∀ yes, c = .fuzzy yes → yes = false := by
    intro t c hc
    rcases readToken_eq_ok_iff.mp hc with ⟨hword, rfl⟩ | ⟨e, he, haccepts⟩
    · rw [directive?_of_isDirective hword]
      exact ⟨rfl, fun _ => hword, by rintro yes ⟨⟩⟩
    · obtain ⟨hdirective, hfuzzy⟩ := Call.directive?_of_accepts haccepts
      rw [he]
      exact ⟨hdirective, by rintro ⟨⟩, hfuzzy⟩
  obtain ⟨hct, htword, hcfuzzy⟩ := hcall hc
  obtain ⟨hdu, huword, hdfuzzy⟩ := hcall hd
  refine apply_comm ?_ ?_ hcfuzzy hdfuzzy q
  · rw [hct, hdu]
    intro heq
    rcases hname : directive? t with _ | e
    · have hwords := hapart .words
      rw [Group.has, Group.has, htword hname, huword (heq ▸ hname)] at hwords
      exact hwords ⟨rfl, rfl⟩
    · exact hapart (.named e) ⟨decide_eq_true hname, decide_eq_true (heq ▸ hname)⟩
  · rw [hct, hdu]
    exact hapart .kinds

/-- **Independent tokens**: words and closed directives that ask for a query ask for the same query
in every order that keeps the order of the words, of the directives that ask for kinds, and of the
directives of the same name. -/
theorem parse_joined_of_reordered {ts us : List Text} (hts : ∀ t ∈ ts, IsPiece t)
    (h : Reordered ts us) {q : Query} (hq : parse (Text.joined [' '] ts) = .ok q) :
    parse (Text.joined [' '] us) = .ok q := by
  have hcalls : ∃ call : Text → Call, ∀ t ∈ ts, readToken t = .ok (call t) := by
    have : Nonempty Call := ⟨.unlimited⟩
    obtain ⟨cs, hcs, -⟩ := exists_of_map_eq_ok ((extend_eq _ _).symm.trans hq)
    rw [calls?_eq_mapM, tokens_joined hts] at hcs
    choose! call hcall using forall_of_mapM_eq_ok hcs
    exact ⟨call, hcall⟩
  obtain ⟨call, hcall⟩ := hcalls
  have hparse : ∀ vs : List Text, (∀ v ∈ vs, v ∈ ts) →
      parse (Text.joined [' '] vs) = .ok (vs.foldl (fun q t => q.apply (call t)) empty) := by
    intro vs hvs
    have hreads : List.Forall₂ Reads vs (vs.map call) :=
      List.forall₂_map_right_iff.mpr (List.forall₂_same.mpr fun v hv =>
        ⟨hts v (hvs v hv), hcall v (hvs v hv)⟩)
    rw [parse_joined hreads, applyAll, List.foldl_map]
  have hfold := foldl_eq_of_filter_eq h.perm h.within
    (f := fun (q : Query) t => q.apply (call t))
    (fun t ht u hu hapart q => apply_comm_of_readToken (hcall t ht) (hcall u hu) hapart q) empty
  rw [← hq, hparse ts fun _ hv => hv, hparse us fun _ hv => h.perm.mem_iff.mpr hv, hfold]

/-- A pattern is moved across the directive that turns matching by similarity off, and a sub-query
and a range across everything else. -/
theorem parse_joined_of_reordered_pattern :
    ∃ q, parse "f% \x7bs:2\x7d \x7bnofuzzy\x7d \x7bmovie\x7d heat \x7bcast:al\x7d".toList = .ok q ∧
      parse "\x7bcast:al\x7d f% \x7bnofuzzy\x7d heat \x7bs:2\x7d \x7bmovie\x7d".toList = .ok q := by
  have hword : ∀ w : Text, w ≠ [] → (w.all fun c => c ≠ '{' && !isBlank c) = true →
      Reads w (.text w) := by
    intro w hne hw
    refine reads_word ⟨hne, fun c hc => ?_⟩
    simpa using List.all_eq_true.mp hw c hc
  have hpattern := hword "f%".toList (by decide) (by decide)
  have hheat := hword "heat".toList (by decide) (by decide)
  have hseasons : Reads "\x7bs:2\x7d".toList (.seasons (.exactly 2)) :=
    ⟨.inr ⟨"s:2".toList, rfl, rfl⟩, rfl⟩
  have hplain : ∀ c ∈ ['a', 'l'], IsPlain c :=
    List.forall_mem_cons.mpr ⟨by decide, List.forall_mem_singleton.mpr (by decide)⟩
  have hal := readsInside_word (w := "al".toList) (by decide) hplain
  have hcast : Reads "\x7bcast:al\x7d".toList (.cast (Query.empty.applyAll [.text "al".toList])) :=
    reads_sub_joined (d := .cast) rfl (.cons hal .nil) (by decide)
  have hnofuzzy : Reads "\x7bnofuzzy\x7d".toList (.fuzzy false) := reads_flag (d := .nofuzzy) rfl
  have hmovie : Reads "\x7bmovie\x7d".toList (.entity .movie) := reads_kind .movie
  have hreads := List.Forall₂.cons hpattern (.cons hseasons (.cons hnofuzzy (.cons hmovie
    (.cons hheat (.cons hcast .nil)))))
  have hpieces := ((List.forall₂_and_left _ _).mp (hreads.imp fun _ _ h => ⟨h.isPiece, h⟩)).1
  have hreordered : Reordered
      ["f%".toList, "\x7bs:2\x7d".toList, "\x7bnofuzzy\x7d".toList, "\x7bmovie\x7d".toList,
        "heat".toList, "\x7bcast:al\x7d".toList]
      ["\x7bcast:al\x7d".toList, "f%".toList, "\x7bnofuzzy\x7d".toList, "heat".toList,
        "\x7bs:2\x7d".toList, "\x7bmovie\x7d".toList] := by
    refine ⟨by decide, fun g => ?_⟩
    rcases g with _ | _ | d
    · rfl
    · rfl
    · have hf : directive? "f%".toList = none := rfl
      have hs : directive? "\x7bs:2\x7d".toList = some .seasons := rfl
      have hn : directive? "\x7bnofuzzy\x7d".toList = some .nofuzzy := rfl
      have hm : directive? "\x7bmovie\x7d".toList = some .movie := rfl
      have hh : directive? "heat".toList = none := rfl
      have hc : directive? "\x7bcast:al\x7d".toList = some .cast := rfl
      cases d <;> simp only [Group.has, List.filter, hf, hs, hn, hm, hh, hc] <;> rfl
  have hparse := parse_joined hreads
  exact ⟨_, hparse, parse_joined_of_reordered hpieces hreordered hparse⟩

end Query

end Filmography
