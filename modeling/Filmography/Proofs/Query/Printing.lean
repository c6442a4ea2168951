import Filmography.Proofs.Number.FloatEquality
import Filmography.Proofs.Query.Levels
import Filmography.Proofs.Query.Reading

/-!
# The text of a query

A query is printed as pieces, each of which stands for a call, so the text of a query is a list of
calls in disguise. Applied to the empty query, they build the query again: what the printer leaves
out is what the empty query has, and what a directive adds of its own accord was there.

The kinds of the query that is read are `Criteria.kindsRead`, and its sub-queries are whatever their
texts are read as, which is left open here. So are the terms, because those of a sub-query are
trimmed before they are read.

* `Query.print_eq`: the pieces of the text of a query;
* `Query.applyAll_calls`: what the calls of the pieces build;
* `Query.parse_joined_directives`: what the pieces of a query, followed by terms, are read as.
-/

namespace Filmography

/-- A criterion that can be written: the terms are words, the limit is a number of 64 bits with a
sign, the least similarity lies between zero and one, and nothing is set that no directive sets. -/
structure Criteria.IsWritable (c : Criteria) : Prop where
  /-- The terms have something in them and neither blanks nor opening braces. -/
  words : ∀ t ∈ c.terms, Token.IsWord t
  /-- The limit, if there is one, is not above the greatest that can be read. -/
  limit : ∀ n, c.limit = some n → n.toNat ≤ Integer.Format.signed64.greatest
  /-- The least similarity is not negative. -/
  low : (0.0 : Float) ≤ c.minSimilarity
  /-- The least similarity is at most one. -/
  high : c.minSimilarity ≤ (1.0 : Float)
  /-- The lead of a candidate is the default one. -/
  goodThreshold : c.goodThreshold = 0.25
  /-- A pattern is not matched by similarity. -/
  pattern : c.hasWildcard = true → c.fuzzy = false

/-- The least similarity is read back from its digits. -/
def Criteria.ReadsBack (c : Criteria) : Prop :=
  FloatText.parse (plainFloat c.minSimilarity) = .ok c.minSimilarity

/-- The default least similarity is read back. -/
theorem Criteria.readsBack_empty : Query.empty.ReadsBack := by
  have hdigits : plainFloat 0.3 = ['0', '.', '3'] := by decide +kernel
  show FloatText.parse (plainFloat 0.3) = .ok 0.3
  rw [hdigits]
  rfl

theorem Range.eq_default_of_isUnconstrained {r : Range} (h : r.isUnconstrained = true) :
    r = {} := by
  obtain ⟨low, high⟩ := r
  cases low <;> cases high <;> first | rfl | cases h

namespace Query

/-! ### Pieces and calls -/

/-- The calls of a range. -/
def rangeCalls (call : Range → Call) (r : Range) : List Call :=
  if r.isUnconstrained then [] else [call r]

/-- The calls of a flag. -/
def flagCalls (call : Call) (yes : Bool) : List Call :=
  if yes then [call] else []

/-- The calls of a limit. -/
def limitCalls : Option UInt64 → List Call
  | none => [.unlimited]
  | some n => if n = Criteria.defaultLimit then [] else [.limit n]

/-- The calls of a least similarity. -/
def similarityCalls (x : Float) : List Call :=
  if x == 0.3 then [] else [.minSimilarity x]

/-- The pieces of a sub-query. -/
def subPieces (d : Directive) : Option Query → List Text
  | none => []
  | some s => [directiveText d (some s.print)]

/-- The calls of a sub-query that is read. -/
def subCalls (call : Query → Call) : Option Query → List Call
  | none => []
  | some s => [call s]

/-- The pieces after the sub-queries that are directives. -/
def optionPieces (c : Criteria) : List Text :=
  c.sorts.map (fun k => directiveText .sort (some k.print)) ++ limitText c.limit ++
    similarityText c.minSimilarity ++ flagText .nofuzzy (!c.fuzzy && !c.hasWildcard) ++
    flagText .nocase c.ignoreCase ++ flagText .debug c.debug

/-- The pieces of a query that are directives. -/
def directives (q : Query) : List Text :=
  leadingPieces q.toCriteria ++ subPieces .show q.tvshow ++ subPieces .credits q.credits ++
    subPieces .cast q.cast ++ optionPieces q.toCriteria

/-- The calls of the pieces before the sub-queries. -/
def leadingCalls (c : Criteria) : List Call :=
  c.kinds.map .entity ++ rangeCalls .years c.years ++ rangeCalls .rank c.rank ++
    rangeCalls .votes c.votes ++ rangeCalls .seasons c.seasons ++
    rangeCalls .episodes c.episodes ++ rangeCalls .billed c.billed ++
    flagCalls (.noTv true) c.noTv ++ flagCalls (.noVideo true) c.noVideo

/-- The calls of the pieces after the sub-queries. -/
def optionCalls (c : Criteria) : List Call :=
  c.sorts.map .sort ++ limitCalls c.limit ++ similarityCalls c.minSimilarity ++
    flagCalls (.fuzzy false) (!c.fuzzy && !c.hasWildcard) ++
    flagCalls (.ignoreCase true) c.ignoreCase ++ flagCalls (.debug true) c.debug

/-- The text of a query is its directives and its terms. -/
theorem print_eq (q : Query) : q.print = Text.joined [' '] (q.directives ++ q.terms) := by
  have hprint : q.print = Text.joined [' '] (leadingPieces q.toCriteria ++
      subPieces .show q.tvshow ++ subPieces .credits q.credits ++ subPieces .cast q.cast ++
      trailingPieces q.toCriteria) := by
    obtain ⟨c, tvshow, credits, cast⟩ := q
    cases tvshow <;> cases credits <;> cases cast <;> rfl
  have htrailing : trailingPieces q.toCriteria = optionPieces q.toCriteria ++ q.terms := rfl
  rw [hprint, htrailing, directives]
  simp only [List.append_assoc]

/-! ### Pieces stand for calls -/

theorem reads_rangeText {d : Directive} {call : Range → Call} (h : d.form = .range call)
    (r : Range) : List.Forall₂ ReadsInside (rangeText d r) (rangeCalls call r) := by
  rw [rangeText, rangeCalls]
  split
  · exact .nil
  · exact .cons ((reads_range h r).inside rfl) .nil

theorem reads_flagText {d : Directive} {c : Call} (h : d.form = .flag c) (yes : Bool) :
    List.Forall₂ ReadsInside (flagText d yes) (flagCalls c yes) := by
  rw [flagText, flagCalls]
  split
  · exact .cons ((reads_flag h).inside rfl) .nil
  · exact .nil

theorem reads_limitText {limit : Option UInt64}
    (h : ∀ n, limit = some n → n.toNat ≤ Integer.Format.signed64.greatest) :
    List.Forall₂ ReadsInside (limitText limit) (limitCalls limit) := by
  cases limit with
  | none => exact .cons (reads_unlimited.inside rfl) .nil
  | some n =>
    rw [limitText, limitCalls]
    split
    · exact .nil
    · exact .cons ((reads_limit (h n rfl)).inside rfl) .nil

theorem reads_similarityText {c : Criteria} (h : c.IsWritable) (hback : c.ReadsBack) :
    List.Forall₂ ReadsInside (similarityText c.minSimilarity)
      (similarityCalls c.minSimilarity) := by
  rw [similarityText, similarityCalls]
  split
  · exact .nil
  · exact .cons ((reads_similarity h.low h.high hback).inside rfl) .nil

theorem reads_leadingPieces (c : Criteria) :
    List.Forall₂ ReadsInside (leadingPieces c) (leadingCalls c) := by
  have hkinds : List.Forall₂ ReadsInside (c.kinds.map fun k => Directive.braced k.name none)
      (c.kinds.map .entity) := by
    rw [List.forall₂_map_left_iff, List.forall₂_map_right_iff, List.forall₂_same]
    exact fun k _ => (reads_kind k).inside (Token.isDirective_braced _ _)
  rw [leadingPieces, leadingCalls]
  refine List.rel_append (List.rel_append ?_ ?_) ?_
  · refine List.rel_append (List.rel_append (List.rel_append (List.rel_append
      (List.rel_append (List.rel_append hkinds ?_) ?_) ?_) ?_) ?_) ?_
    · exact reads_rangeText rfl _
    · exact reads_rangeText rfl _
    · exact reads_rangeText rfl _
    · exact reads_rangeText rfl _
    · exact reads_rangeText rfl _
    · exact reads_rangeText rfl _
  · exact reads_flagText rfl _
  · exact reads_flagText rfl _

theorem reads_optionPieces {c : Criteria} (h : c.IsWritable) (hback : c.ReadsBack) :
    List.Forall₂ ReadsInside (optionPieces c) (optionCalls c) := by
  have hsorts : List.Forall₂ ReadsInside
      (c.sorts.map fun k => directiveText .sort (some k.print)) (c.sorts.map .sort) := by
    rw [List.forall₂_map_left_iff, List.forall₂_map_right_iff, List.forall₂_same]
    exact fun k _ => (reads_sort k).inside rfl
  rw [optionPieces, optionCalls]
  refine List.rel_append (List.rel_append (List.rel_append (List.rel_append
    (List.rel_append hsorts ?_) ?_) ?_) ?_) ?_
  · exact reads_limitText h.limit
  · exact reads_similarityText h hback
  · exact reads_flagText rfl _
  · exact reads_flagText rfl _
  · exact reads_flagText rfl _

/-- How a sub-query is read: its text is balanced, and without the white space around it, it is read
as a query. -/
def SubReads (s r : Query) : Prop :=
  Token.Balanced s.print ∧ s.print.trim ≠ [] ∧ parse s.print.trim = .ok r

theorem reads_subPieces {d : Directive} {role : Role} {call : Query → Call}
    (h : d.form = .sub role call) {s r : Option Query} (hsr : Option.Rel SubReads s r) :
    List.Forall₂ ReadsInside (subPieces d s) (subCalls call r) := by
  cases hsr with
  | none => exact .nil
  | some hsr =>
    obtain ⟨hbalanced, htrim, hparse⟩ := hsr
    exact .cons ((reads_sub h hbalanced htrim hparse).inside (Token.isDirective_braced _ _)) .nil

/-- The calls of the pieces that are directives, if the sub-queries are read as they are given. -/
def directiveCalls (c : Criteria) (tvshow credits cast : Option Query) : List Call :=
  leadingCalls c ++ subCalls .tvshow tvshow ++ subCalls .credits credits ++ subCalls .cast cast ++
    optionCalls c

/-- The directives of a query stand for its calls. -/
theorem reads_directives {q : Query} (h : q.IsWritable) (hback : q.ReadsBack)
    {tvshow credits cast : Option Query} (htvshow : Option.Rel SubReads q.tvshow tvshow)
    (hcredits : Option.Rel SubReads q.credits credits) (hcast : Option.Rel SubReads q.cast cast) :
    List.Forall₂ ReadsInside q.directives
      (directiveCalls q.toCriteria tvshow credits cast) := by
  rw [directives, directiveCalls]
  refine List.rel_append (List.rel_append (List.rel_append (List.rel_append ?_ ?_) ?_) ?_) ?_
  · exact reads_leadingPieces _
  · exact reads_subPieces rfl htvshow
  · exact reads_subPieces rfl hcredits
  · exact reads_subPieces rfl hcast
  · exact reads_optionPieces h hback

/-! ### What the calls build -/

theorem applyAll_kinds (q : Query) {ks : List Kind} (h : (q.kinds ++ ks).Nodup) :
    q.applyAll (ks.map .entity) = { q with kinds := q.kinds ++ ks } := by
  induction ks generalizing q with
  | nil =>
    obtain ⟨c, tvshow, credits, cast⟩ := q
    rw [List.append_nil]
    rfl
  | cons k ks ih =>
    -- a kind that is not listed yet goes to the end
    have hk : k ∉ q.kinds := fun hmem =>
      (List.nodup_append.mp h).2.2 k hmem k (List.mem_cons_self ..) rfl
    have hinsert : Criteria.insertKind k q.kinds = q.kinds ++ [k] := if_neg hk
    have hnodup : ((q.apply (.entity k)).kinds ++ ks).Nodup := by
      simpa [apply, entity, hinsert] using h
    rw [List.map_cons, applyAll_cons, ih _ hnodup]
    simp [apply, entity, hinsert]

theorem applyAll_sorts (q : Query) (ks : List SortKey) :
    q.applyAll (ks.map .sort) = { q with sorts := q.sorts ++ ks } := by
  induction ks generalizing q with
  | nil =>
    obtain ⟨c, tvshow, credits, cast⟩ := q
    rw [List.append_nil]
    rfl
  | cons k ks ih =>
    rw [List.map_cons, applyAll_cons, ih]
    simp [apply, sortBy]

theorem applyAll_terms (q : Query) (ts : List Text) :
    q.applyAll (ts.map .text) =
      { q with terms := q.terms ++ ts, fuzzy := q.fuzzy && !ts.any Criteria.isPattern } := by
  induction ts generalizing q with
  | nil =>
    obtain ⟨c, tvshow, credits, cast⟩ := q
    rw [List.append_nil, List.any_nil, Bool.not_false, Bool.and_true]
    rfl
  | cons t ts ih =>
    rw [List.map_cons, applyAll_cons, ih]
    simp [apply, text, Bool.and_assoc]

/-- A range that is left out is the one that was there. -/
theorem applyAll_rangeCalls {q : Query} {call : Range → Call} (h : q.apply (call {}) = q)
    (r : Range) : q.applyAll (rangeCalls call r) = q.apply (call r) := by
  rw [rangeCalls]
  split
  · next hr => rw [Range.eq_default_of_isUnconstrained hr, h, applyAll_nil]
  · rfl

/-- A range of seasons or episodes that is not left out asks for episodes. -/
theorem applyAll_seasonCalls {q : Query} (h : q.seasons = {}) (r : Range) :
    q.applyAll (rangeCalls .seasons r) = { q with
      seasons := r
      kinds := if r.isUnconstrained then q.kinds else Criteria.insertKind .episode q.kinds } := by
  rw [rangeCalls]
  by_cases hr : r.isUnconstrained = true
  · rw [if_pos hr, if_pos hr, Range.eq_default_of_isUnconstrained hr, ← h]
    obtain ⟨c, tvshow, credits, cast⟩ := q
    rfl
  · rw [if_neg hr, if_neg hr]
    rfl

theorem applyAll_episodeCalls {q : Query} (h : q.episodes = {}) (r : Range) :
    q.applyAll (rangeCalls .episodes r) = { q with
      episodes := r
      kinds := if r.isUnconstrained then q.kinds else Criteria.insertKind .episode q.kinds } := by
  rw [rangeCalls]
  by_cases hr : r.isUnconstrained = true
  · rw [if_pos hr, if_pos hr, Range.eq_default_of_isUnconstrained hr, ← h]
    obtain ⟨c, tvshow, credits, cast⟩ := q
    rfl
  · rw [if_neg hr, if_neg hr]
    rfl

/-- A flag that is left out is not set. -/
theorem applyAll_flagCalls {q : Query} {call : Bool → Call} (h : q.apply (call false) = q)
    (yes : Bool) : q.applyAll (flagCalls (call true) yes) = q.apply (call yes) := by
  cases yes with
  | false => exact h.symm
  | true => rfl

theorem applyAll_fuzzyCalls {q : Query} (h : q.apply (.fuzzy true) = q) (off : Bool) :
    q.applyAll (flagCalls (.fuzzy false) off) = q.apply (.fuzzy !off) := by
  cases off with
  | false => exact h.symm
  | true => rfl

theorem applyAll_limitCalls {q : Query} (h : q.apply (.limit Criteria.defaultLimit) = q)
    (limit : Option UInt64) : q.applyAll (limitCalls limit) = { q with limit := limit } := by
  cases limit with
  | none => rfl
  | some n =>
    rw [limitCalls]
    split
    · next hn =>
      rw [hn, applyAll_nil]
      exact h.symm
    · rfl

theorem applyAll_similarityCalls {q : Query} (h : q.apply (.minSimilarity 0.3) = q) (x : Float) :
    q.applyAll (similarityCalls x) = q.apply (.minSimilarity x) := by
  rw [similarityCalls]
  split
  · next hx =>
    rw [eq_default_of_beq hx, applyAll_nil]
    exact h.symm
  · rfl

/-- The sub-query for a TV show. -/
def forTvshow (s : Query) : Query := { s with kinds := [.tvshow] }

/-- The sub-query for what has a cast. -/
def forCredits (s : Query) : Query :=
  { s with kinds := if s.kinds = [] then Kind.media else s.kinds }

/-- The sub-query for an actor. -/
def forCast (s : Query) : Query := { s with kinds := [.actor] }

/-- The kinds of a query that is read: episodes are among them if seasons or episodes are
restricted. -/
def kindsRead (c : Criteria) : List Kind :=
  let kinds := if c.seasons.isUnconstrained then c.kinds else Criteria.insertKind .episode c.kinds
  if c.episodes.isUnconstrained then kinds else Criteria.insertKind .episode kinds

/-- What the directives before the sub-queries build. -/
def leadingCriteria (c : Criteria) : Criteria :=
  { empty.toCriteria with
    kinds := kindsRead c, years := c.years, rank := c.rank, votes := c.votes, seasons := c.seasons,
    episodes := c.episodes, billed := c.billed, noTv := c.noTv, noVideo := c.noVideo }

theorem applyAll_leadingCalls {c : Criteria} (h : c.kinds.Nodup) :
    empty.applyAll (leadingCalls c) = ⟨leadingCriteria c, none, none, none⟩ := by
  have hkinds : (empty.kinds ++ c.kinds).Nodup := h
  rw [leadingCalls]
  simp only [applyAll_append]
  rw [applyAll_kinds empty hkinds, @applyAll_rangeCalls _ .years rfl,
    @applyAll_rangeCalls _ .rank rfl, @applyAll_rangeCalls _ .votes rfl, applyAll_seasonCalls rfl,
    applyAll_episodeCalls rfl, @applyAll_rangeCalls _ .billed rfl, @applyAll_flagCalls _ .noTv rfl,
    @applyAll_flagCalls _ .noVideo rfl]
  rfl

theorem applyAll_subCalls (c : Criteria) (tvshow credits cast : Option Query) :
    (⟨c, none, none, none⟩ : Query).applyAll
        (subCalls .tvshow tvshow ++ subCalls .credits credits ++ subCalls .cast cast) =
      ⟨c, tvshow.map forTvshow, credits.map forCredits, cast.map forCast⟩ := by
  cases tvshow <;> cases credits <;> cases cast <;> rfl

/-- What the directives build, if the sub-queries are read as they are given. -/
theorem applyAll_optionCalls (c : Criteria) (tvshow credits cast : Option Query) :
    (⟨leadingCriteria c, tvshow, credits, cast⟩ : Query).applyAll (optionCalls c) =
      ⟨{ leadingCriteria c with
        sorts := c.sorts, limit := c.limit, minSimilarity := c.minSimilarity,
        fuzzy := !(!c.fuzzy && !c.hasWildcard), ignoreCase := c.ignoreCase, debug := c.debug },
        tvshow, credits, cast⟩ := by
  rw [optionCalls, applyAll_append, applyAll_append, applyAll_append, applyAll_append,
    applyAll_append, applyAll_sorts, applyAll_limitCalls rfl, applyAll_similarityCalls rfl,
    applyAll_fuzzyCalls rfl, @applyAll_flagCalls _ .ignoreCase rfl,
    @applyAll_flagCalls _ .debug rfl]
  rfl

/-- The directives of a query and some terms build the query with these terms, with the kinds that
are read and with the sub-queries that are read. -/
theorem applyAll_calls {c : Criteria} (hnodup : c.kinds.Nodup) (hc : c.IsWritable)
    (tvshow credits cast : Option Query) {ts : List Text}
    (hts : ts.any Criteria.isPattern = c.hasWildcard) :
    empty.applyAll (directiveCalls c tvshow credits cast ++ ts.map .text) =
      ⟨{ c with terms := ts, kinds := kindsRead c }, tvshow.map forTvshow, credits.map forCredits,
        cast.map forCast⟩ := by
  -- that similarity is turned off is written only where no pattern among the terms does so
  have hfuzzy : ((!(!c.fuzzy && !c.hasWildcard)) && !c.hasWildcard) = c.fuzzy := by
    have hpattern := hc.pattern
    cases hw : c.hasWildcard <;> cases hf : c.fuzzy <;> simp_all
  have hcalls : directiveCalls c tvshow credits cast = leadingCalls c ++
      (subCalls .tvshow tvshow ++ subCalls .credits credits ++ subCalls .cast cast) ++
        optionCalls c := by
    simp only [directiveCalls, List.append_assoc]
  rw [hcalls, applyAll_append, applyAll_append, applyAll_append, applyAll_leadingCalls hnodup,
    applyAll_subCalls, applyAll_optionCalls, applyAll_terms, hts]
  simp only [hfuzzy, hc.goodThreshold]
  rfl

/-- What the directives of a query are read as when terms come after them. -/
theorem parse_joined_directives {q : Query} (hnodup : q.kinds.Nodup) (hq : q.IsWritable)
    (hback : q.ReadsBack) {tvshow credits cast : Option Query}
    (htvshow : Option.Rel SubReads q.tvshow tvshow)
    (hcredits : Option.Rel SubReads q.credits credits) (hcast : Option.Rel SubReads q.cast cast)
    {ts : List Text} (hwords : ∀ t ∈ ts, Token.IsWord t)
    (hts : ts.any Criteria.isPattern = q.hasWildcard) :
    parse (Text.joined [' '] (q.directives ++ ts)) =
      .ok ⟨{ q.toCriteria with terms := ts, kinds := kindsRead q.toCriteria },
        tvshow.map forTvshow, credits.map forCredits, cast.map forCast⟩ := by
  have hterms : List.Forall₂ Reads ts (ts.map .text) := by
    rw [List.forall₂_map_right_iff, List.forall₂_same]
    exact fun t ht => reads_word (hwords t ht)
  have hdirectives := reads_directives hq hback htvshow hcredits hcast
  rw [parse_joined (List.rel_append (hdirectives.imp fun _ _ h => h.toReads) hterms),
    applyAll_calls hnodup hq tvshow credits cast hts]

end Query

end Filmography
