import Filmography.Proofs.Query.Printing

/-!
# Queries are read back

The text of a query is read as the query, except that the text of a sub-query is trimmed: if its
last term ends in white space, that is lost. `Query.reread` is the query that its own text is read
as, by induction on sub-queries; a query is read back as itself exactly when no sub-query loses
anything.

* `Query.parse_print_eq_reread`: what the text of a query is read as;
* `Query.reread_eq_self_iff`: when that is the query;
* `Query.reread_eq_or_length_lt`: what is lost is missing from the text that is written next;
* `Query.parse_print_of_built`: queries that are built are read back.
-/

namespace Filmography

namespace Criteria

variable {ν : Type}

/-- The criteria without the white space that the last term ends in. -/
def trimmed (c : Criteria ν) : Criteria ν :=
  { c with terms := Text.trimWords c.terms }

/-- The last term, if there is one, does not end in white space. -/
def EndsTight (c : Criteria ν) : Prop :=
  ∀ t, c.terms.getLast? = some t → ∀ x, t.getLast? = some x → Text.isSpace x = false

/-- No term has a closing brace. -/
def IsClosed (c : Criteria ν) : Prop :=
  ∀ t ∈ c.terms, '}' ∉ t

theorem trimmed_eq_self_iff {c : Criteria ν} (h : ∀ t ∈ c.terms, t ≠ []) :
    c.trimmed = c ↔ c.EndsTight := by
  rw [EndsTight, ← Text.trimWords_eq_self_iff h]
  exact ⟨fun hc => congrArg terms hc, fun hterms => by rw [trimmed, hterms]⟩

end Criteria

namespace Query

/-! ### What is read -/

/-- The query that the text of a sub-query is read as: it is trimmed, and so are its own
sub-queries. -/
def rereadInside : Query → Query
  | ⟨c, tvshow, credits, cast⟩ =>
    ⟨c.trimmed, match tvshow with | none => none | some s => some s.rereadInside,
      match credits with | none => none | some s => some s.rereadInside,
      match cast with | none => none | some s => some s.rereadInside⟩
termination_by structural q => q

/-- The query that the text of a query is read as. -/
def reread (q : Query) : Query :=
  ⟨q.toCriteria, q.tvshow.map rereadInside, q.credits.map rereadInside, q.cast.map rereadInside⟩

theorem rereadInside_eq (q : Query) :
    q.rereadInside = { q.reread with toCriteria := q.toCriteria.trimmed } := by
  obtain ⟨c, tvshow, credits, cast⟩ := q
  cases tvshow <;> cases credits <;> cases cast <;> rfl

/-- Nothing is lost in a sub-query if neither its own terms nor its sub-queries lose anything. -/
theorem rereadInside_eq_self_iff {q : Query} :
    q.rereadInside = q ↔ q.toCriteria.trimmed = q.toCriteria ∧ q.reread = q := by
  rw [rereadInside_eq]
  obtain ⟨c, tvshow, credits, cast⟩ := q
  simp [reread]

theorem reread_eq_self_iff_subs {q : Query} : q.reread = q ↔ ∀ s ∈ q.subs, s.rereadInside = s := by
  have hmap : ∀ o : Option Query,
      o.map rereadInside = o ↔ ∀ s, o = some s → s.rereadInside = s := by
    intro o
    cases o <;> simp
  obtain ⟨c, tvshow, credits, cast⟩ := q
  simp only [reread, Query.mk.injEq, true_and, hmap, mem_subs]
  constructor
  · rintro ⟨htvshow, hcredits, hcast⟩ s (hs | hs | hs)
    · exact htvshow s hs
    · exact hcredits s hs
    · exact hcast s hs
  · exact fun h => ⟨fun s hs => h s (.inl hs), fun s hs => h s (.inr (.inl hs)),
      fun s hs => h s (.inr (.inr hs))⟩

/-- A query is what its text is read as exactly when no sub-query at any depth has a last term that
ends in white space. -/
theorem reread_eq_self_iff {q : Query} (h : ∀ p, q.Contains p → ∀ t ∈ p.terms, t ≠ []) :
    q.reread = q ↔ ∀ p, q.Below p → p.EndsTight := by
  induction q using induction with
  | h q ih =>
    have hsubs := (forall_contains_iff.mp h).2
    rw [reread_eq_self_iff_subs, forall_below_iff]
    refine forall₂_congr fun s hs => ?_
    have hs' := hsubs s hs
    rw [rereadInside_eq_self_iff, ih s hs hs',
      Criteria.trimmed_eq_self_iff (hs' s (.self s)), forall_contains_iff, forall_below_iff]

/-! ### What is read from the text -/

/-- No kind is added if episodes are sought wherever seasons or episodes are restricted. -/
theorem kindsRead_eq {c : Criteria} (h : c.KeepsEpisode) : kindsRead c = c.kinds := by
  have hinsert : Kind.episode ∈ c.kinds → Criteria.insertKind .episode c.kinds = c.kinds :=
    fun hmem => if_pos hmem
  rw [kindsRead]
  cases hseasons : c.seasons.isUnconstrained with
  | true =>
    cases hepisodes : c.episodes.isUnconstrained with
    | true => rfl
    | false => exact hinsert (h (.inr hepisodes))
  | false =>
    have hmem := hinsert (h (.inl hseasons))
    simp [hmem]

/-- Trimming keeps words. -/
theorem isWord_of_mem_trimWords {ts : List Text} (h : ∀ t ∈ ts, Token.IsWord t) {t : Text}
    (ht : t ∈ Text.trimWords ts) : Token.IsWord t := by
  obtain ⟨hne, v, hv, hchars⟩ := Text.mem_trimWords (fun w hw => (h w hw).ne_nil) ht
  exact ⟨hne, fun c hc => (h v hv).chars c (hchars c hc)⟩

/-- Wildcards are not trimmed. -/
theorem any_isPattern_trimWords (ts : List Text) :
    (Text.trimWords ts).any Criteria.isPattern = ts.any Criteria.isPattern := by
  refine Text.any_trimWords (fun c hc => ?_) ts
  simp only [Bool.or_eq_true, decide_eq_true_eq] at hc
  rcases hc with rfl | rfl <;> rfl

/-- The query that a sub-query is read as before its role has its say. -/
def readInside (s : Query) : Query :=
  { s.rereadInside with kinds := kindsRead s.toCriteria }

theorem readInside_eq {s : Query} (h : s.KeepsEpisode) : s.readInside = s.rereadInside := by
  rw [readInside, kindsRead_eq h, rereadInside_eq]
  rfl

/-! The roles restore the kinds of their sub-queries. -/

theorem forTvshow_readInside {s : Query} (h : s.kinds = [.tvshow]) :
    forTvshow s.readInside = s.rereadInside := by
  rw [forTvshow, ← h, readInside, rereadInside_eq]
  rfl

theorem forCredits_readInside {s : Query} (h : s.kinds ≠ [] ∧ s.KeepsEpisode) :
    forCredits s.readInside = s.rereadInside := by
  have hkinds : s.rereadInside.kinds = s.kinds := by
    rw [rereadInside_eq]
    rfl
  rw [readInside_eq h.2, forCredits, hkinds, if_neg h.1, rereadInside_eq]
  rfl

theorem forCast_readInside {s : Query} (h : s.kinds = [.actor]) :
    forCast s.readInside = s.rereadInside := by
  rw [forCast, ← h, readInside, rereadInside_eq]
  rfl

theorem rel_map_readInside {o : Option Query} (h : ∀ s, o = some s → SubReads s s.readInside) :
    Option.Rel SubReads o (o.map readInside) := by
  cases o with
  | none => exact .none
  | some s => exact .some (h s rfl)

/-- What the directives of a query are read as when terms come after them, if its sub-queries are
read from their texts. -/
theorem parse_joined_directives_of_subs {q : Query} (hq : q.IsWritable) (hback : q.ReadsBack)
    (hscoped : q.IsScoped) (hsubs : ∀ s ∈ q.subs, SubReads s s.readInside) {ts : List Text}
    (hwords : ∀ t ∈ ts, Token.IsWord t) (hts : ts.any Criteria.isPattern = q.hasWildcard) :
    parse (Text.joined [' '] (q.directives ++ ts)) =
      .ok { q.reread with terms := ts, kinds := kindsRead q.toCriteria } := by
  have htvshow : (q.tvshow.map readInside).map forTvshow = q.tvshow.map rereadInside := by
    rw [Option.map_map]
    exact Option.map_congr fun s hs => forTvshow_readInside (hscoped.tvshow s hs)
  have hcredits : (q.credits.map readInside).map forCredits = q.credits.map rereadInside := by
    rw [Option.map_map]
    exact Option.map_congr fun s hs => forCredits_readInside (hscoped.credits s hs)
  have hcast : (q.cast.map readInside).map forCast = q.cast.map rereadInside := by
    rw [Option.map_map]
    exact Option.map_congr fun s hs => forCast_readInside (hscoped.cast s hs)
  rw [parse_joined_directives hscoped.nodup hq hback
    (rel_map_readInside fun s hs => hsubs s (mem_subs.mpr (.inl hs)))
    (rel_map_readInside fun s hs => hsubs s (mem_subs.mpr (.inr (.inl hs))))
    (rel_map_readInside fun s hs => hsubs s (mem_subs.mpr (.inr (.inr hs)))) hwords hts,
    htvshow, hcredits, hcast]
  rfl

/-- What the text of a query needs in order to be read. -/
structure IsReadable (q : Query) : Prop where
  /-- The criteria can be written. -/
  isWritable : q.IsWritable
  /-- The least similarity is read back. -/
  readsBack : q.ReadsBack
  /-- The kinds fit their roles. -/
  isScoped : q.IsScoped

/-- The directives of a query have their braces closed, and nothing of them is trimmed. -/
theorem forall_mem_directives {q : Query} (hq : q.IsReadable)
    (hsubs : ∀ s ∈ q.subs, SubReads s s.readInside) :
    ∀ p ∈ q.directives, Token.Balanced p ∧ Text.IsTight p := by
  have hreads := reads_directives hq.isWritable hq.readsBack
    (rel_map_readInside fun s hs => hsubs s (mem_subs.mpr (.inl hs)))
    (rel_map_readInside fun s hs => hsubs s (mem_subs.mpr (.inr (.inl hs))))
    (rel_map_readInside fun s hs => hsubs s (mem_subs.mpr (.inr (.inr hs))))
  have hboth : List.Forall₂
      (fun p c => (Token.Balanced p ∧ Text.IsTight p) ∧ ReadsInside p c) _ _ :=
    hreads.imp fun _ _ h => ⟨⟨h.balanced, h.isTight⟩, h⟩
  exact ((List.forall₂_and_left _ _).mp hboth).1

/-- A query with kinds starts with a directive. -/
theorem directives_ne_nil {q : Query} (h : q.kinds ≠ []) : q.directives ≠ [] := by
  obtain ⟨k, ks, hks⟩ := List.exists_cons_of_ne_nil h
  simp [directives, leadingPieces, hks]

/-- The role of a sub-query sees to it that it has kinds. -/
theorem IsScoped.kinds_ne_nil {q s : Query} (h : q.IsScoped) (hs : s ∈ q.subs) : s.kinds ≠ [] := by
  rcases mem_subs.mp hs with hs | hs | hs
  · simp [h.tvshow s hs]
  · exact (h.credits s hs).1
  · simp [h.cast s hs]

/-- The text of a sub-query is read as the query is reread: the kinds come first, so it is trimmed
at its end only, where the terms are. -/
theorem subReads_readInside {s : Query}
    (hlevels : ∀ p, s.Contains p → p.IsReadable ∧ p.IsClosed) (hkinds : s.kinds ≠ []) :
    SubReads s s.readInside := by
  induction s using induction with
  | h s ih =>
    obtain ⟨⟨hs, hclosed⟩, hbelow⟩ := forall_contains_iff.mp hlevels
    have hsubs : ∀ p ∈ s.subs, SubReads p p.readInside := fun p hp =>
      ih p hp (hbelow p hp) (hs.isScoped.kinds_ne_nil hp)
    have hdirectives := forall_mem_directives hs hsubs
    have hne := directives_ne_nil hkinds
    have htight : Text.IsTight (Text.joined [' '] s.directives) :=
      Text.isTight_joined hne fun p hp => (hdirectives p hp).2
    have hterms : ∀ t ∈ s.terms, Token.Balanced t := fun t ht =>
      Token.balanced_of_forall fun c hc => ⟨((hs.isWritable.words t ht).chars c hc).1, by
        rintro rfl
        exact hclosed t ht hc⟩
    -- the directives neither start nor end in white space, so only the terms are trimmed
    have htrim : s.print.trim =
        Text.joined [' '] (s.directives ++ Text.trimWords s.terms) := by
      rw [print_eq, Text.joined_append hne, Text.trim_append_spread htight,
        Text.joined_append hne]
    refine ⟨?_, ?_, ?_⟩
    · rw [print_eq]
      exact Token.balanced_joined (List.forall_mem_append.mpr
        ⟨fun p hp => (hdirectives p hp).1, hterms⟩)
    · rw [htrim, Text.joined_append hne]
      exact List.append_ne_nil_of_left_ne_nil htight.ne_nil _
    · rw [htrim, parse_joined_directives_of_subs hs.isWritable hs.readsBack hs.isScoped hsubs
        (fun t => isWord_of_mem_trimWords hs.isWritable.words)
        (any_isPattern_trimWords s.terms), readInside, rereadInside_eq]
      rfl

/-- What the text of a query is read as. -/
theorem parse_print_eq_reread {q : Query} (hlevels : ∀ p, q.Contains p → p.IsReadable)
    (hclosed : ∀ p, q.Below p → p.IsClosed) (hkeeps : q.KeepsEpisode) :
    parse q.print = .ok q.reread := by
  obtain ⟨hq, hbelow⟩ := forall_contains_iff.mp hlevels
  have hsubs : ∀ s ∈ q.subs, SubReads s s.readInside := fun s hs =>
    subReads_readInside (fun p hp => ⟨hbelow s hs p hp, hclosed p ⟨s, hs, hp⟩⟩)
      (hq.isScoped.kinds_ne_nil hs)
  rw [print_eq, parse_joined_directives_of_subs hq.isWritable hq.readsBack hq.isScoped hsubs
    hq.isWritable.words rfl, kindsRead_eq hkeeps]
  rfl

/-! ### What is lost -/

/-- The options of a query do not depend on white space in its terms. -/
theorem optionPieces_trimmed (c : Criteria) : optionPieces c.trimmed = optionPieces c := by
  have hwildcard : c.trimmed.hasWildcard = c.hasWildcard := any_isPattern_trimWords c.terms
  rw [optionPieces, optionPieces, hwildcard]
  rfl

theorem le_of_eq_or_lt {α : Type} (f : α → Nat) {a b : α} (h : a = b ∨ f a < f b) : f a ≤ f b := by
  rcases h with rfl | h
  · exact Nat.le_refl _
  · exact Nat.le_of_lt h

theorem length_print {q : Query} (h : q.directives ≠ []) :
    q.print.length + 1 = (Text.spread q.directives).length + (Text.spread q.terms).length := by
  rw [print_eq, Text.length_joined (List.append_ne_nil_of_left_ne_nil h _), Text.spread_append,
    List.length_append]

theorem directives_rereadInside (q : Query) : q.rereadInside.directives = q.reread.directives := by
  rw [rereadInside_eq, directives, directives, optionPieces_trimmed]
  rfl

/-- A sub-query that is trimmed is written with fewer characters. -/
theorem map_rereadInside_eq_or_length_lt {d : Directive} {o : Option Query}
    (h : ∀ s, o = some s → s.rereadInside = s ∨ s.rereadInside.print.length < s.print.length) :
    o.map rereadInside = o ∨ (Text.spread (subPieces d (o.map rereadInside))).length <
      (Text.spread (subPieces d o)).length := by
  cases o with
  | none => exact .inl rfl
  | some s =>
    rcases h s rfl with heq | hlt
    · exact .inl (congrArg some heq)
    · right
      simpa [subPieces, directiveText, Directive.braced] using hlt

theorem reread_eq_or_length_directives_lt {q : Query}
    (h : ∀ s ∈ q.subs, s.rereadInside = s ∨ s.rereadInside.print.length < s.print.length) :
    q.reread = q ∨
      (Text.spread q.reread.directives).length < (Text.spread q.directives).length := by
  have hsum : ∀ p : Query, (Text.spread p.directives).length =
      (Text.spread (leadingPieces p.toCriteria)).length +
        (Text.spread (subPieces .show p.tvshow)).length +
        (Text.spread (subPieces .credits p.credits)).length +
        (Text.spread (subPieces .cast p.cast)).length +
        (Text.spread (optionPieces p.toCriteria)).length := fun p => by
    simp only [directives, Text.spread_append, List.length_append]
  obtain ⟨c, tvshow, credits, cast⟩ := q
  have htvshow := @map_rereadInside_eq_or_length_lt .show tvshow fun s hs =>
    h s (mem_subs.mpr (.inl hs))
  have hcredits := @map_rereadInside_eq_or_length_lt .credits credits fun s hs =>
    h s (mem_subs.mpr (.inr (.inl hs)))
  have hcast := @map_rereadInside_eq_or_length_lt .cast cast fun s hs =>
    h s (mem_subs.mpr (.inr (.inr hs)))
  rw [hsum, hsum]
  simp only [reread, Query.mk.injEq, true_and]
  have htvshow' := le_of_eq_or_lt (fun o => (Text.spread (subPieces .show o)).length) htvshow
  have hcredits' := le_of_eq_or_lt (fun o => (Text.spread (subPieces .credits o)).length) hcredits
  have hcast' := le_of_eq_or_lt (fun o => (Text.spread (subPieces .cast o)).length) hcast
  -- if no character is lost in all, none is lost in any of the sub-queries
  refine or_iff_not_imp_right.mpr fun hlen => ⟨htvshow.resolve_right ?_,
    hcredits.resolve_right ?_, hcast.resolve_right ?_⟩
  · omega
  · omega
  · omega

/-- A query is written with fewer characters when it is read from the text of a sub-query, unless it
is read back. -/
theorem rereadInside_eq_or_length_lt {s : Query} (hscoped : ∀ p, s.Contains p → p.IsScoped)
    (hkinds : s.kinds ≠ []) :
    s.rereadInside = s ∨ s.rereadInside.print.length < s.print.length := by
  induction s using induction with
  | h s ih =>
    obtain ⟨hs, hbelow⟩ := forall_contains_iff.mp hscoped
    have hdirectives := reread_eq_or_length_directives_lt fun p hp =>
      ih p hp (hbelow p hp) (hs.kinds_ne_nil hp)
    have hterms := Text.trimWords_eq_or_length_lt s.terms
    have hkinds' : s.rereadInside.kinds ≠ [] := by rwa [rereadInside_eq]
    have hterms' : s.rereadInside.terms = Text.trimWords s.terms := by
      rw [rereadInside_eq]
      rfl
    have hlen := length_print (directives_ne_nil hkinds)
    have hlen' := length_print (directives_ne_nil hkinds')
    rw [directives_rereadInside, hterms'] at hlen'
    have hdirectivesLe := le_of_eq_or_lt (fun q => (Text.spread (directives q)).length) hdirectives
    have htermsLe := le_of_eq_or_lt (fun ts => (Text.spread ts).length) hterms
    refine or_iff_not_imp_right.mpr fun hlt => rereadInside_eq_self_iff.mpr ⟨?_, ?_⟩
    · rw [Criteria.trimmed, hterms.resolve_right (by omega)]
    · exact hdirectives.resolve_right (by omega)

/-- There are as many directives as before. -/
theorem length_directives_reread (q : Query) :
    q.reread.directives.length = q.directives.length := by
  have hsub : ∀ (d : Directive) (o : Option Query),
      (subPieces d (o.map rereadInside)).length = (subPieces d o).length := by
    intro d o
    cases o <;> rfl
  obtain ⟨c, tvshow, credits, cast⟩ := q
  simp [directives, reread, hsub]

/-- A query is written with fewer characters when it has been read from its text, unless it is read
back. -/
theorem reread_eq_or_length_lt {q : Query} (hscoped : ∀ p, q.Contains p → p.IsScoped) :
    q.reread = q ∨ q.reread.print.length < q.print.length := by
  obtain ⟨hq, hbelow⟩ := forall_contains_iff.mp hscoped
  have hdirectives := reread_eq_or_length_directives_lt fun s hs =>
    rereadInside_eq_or_length_lt (hbelow s hs) (hq.kinds_ne_nil hs)
  -- the terms of the query itself are not trimmed
  refine hdirectives.imp_right fun hlt => ?_
  have hne : q.directives ≠ [] := by
    intro hnil
    rw [hnil, Text.spread_nil] at hlt
    exact Nat.not_lt_zero _ hlt
  have hne' : q.reread.directives ≠ [] := by
    rw [← List.length_pos_iff, length_directives_reread]
    exact List.length_pos_iff.mpr hne
  have hterms : q.reread.terms = q.terms := rfl
  have hlen := length_print hne
  have hlen' := length_print hne'
  rw [hterms] at hlen'
  omega

/-- **A built query is read back from its text.** -/
theorem parse_print_of_built {q : Query} (hbuilt : q.Built)
    (hlevels : ∀ p, q.Contains p → p.IsWritable ∧ p.ReadsBack)
    (hbelow : ∀ p, q.Below p → p.IsClosed ∧ p.EndsTight) : parse q.print = .ok q := by
  have hscoped := hbuilt.isScoped
  have hwords : ∀ p, q.Contains p → ∀ t ∈ p.terms, t ≠ [] := fun p hp t ht =>
    ((hlevels p hp).1.words t ht).ne_nil
  rw [parse_print_eq_reread (fun p hp => ⟨(hlevels p hp).1, (hlevels p hp).2, hscoped p hp⟩)
    (fun p hp => (hbelow p hp).1) hbuilt.keepsEpisode,
    (reread_eq_self_iff hwords).mpr fun p hp => (hbelow p hp).2]

/-- A query with a sub-query, which is written as
`{episode} {seasons:1-} {show:{tvshow} {nocase} a%} {limit:-1} b}`. -/
def nested : Query :=
  empty.applyAll [.seasons ⟨some 1, none⟩, .text ['b', '}'], .unlimited,
    .tvshow (empty.applyAll [.text ['a', '%'], .ignoreCase true])]

theorem parse_print_nested :
    nested.Built ∧ (∀ p, nested.Contains p → p.IsWritable ∧ p.ReadsBack) ∧
      (∀ p, nested.Below p → p.IsClosed ∧ p.EndsTight) ∧ parse nested.print = .ok nested := by
  have hbuilt : nested.Built := by
    have hsub : (empty.applyAll [.text ['a', '%'], .ignoreCase true]).Built :=
      .applyAll .empty (by simp [Call.sub?])
    exact .applyAll .empty (by simpa [Call.sub?] using hsub)
  have hlow : (0.0 : Float) ≤ 0.3 := by decide +kernel
  have hhigh : (0.3 : Float) ≤ 1.0 := by decide +kernel
  have hb : Token.IsWord ['b', '}'] := ⟨List.cons_ne_nil _ _, by simp [Token.isBlank]⟩
  have ha : Token.IsWord ['a', '%'] := ⟨List.cons_ne_nil _ _, by simp [Token.isBlank]⟩
  have hlevels : ∀ p, nested.Contains p → p.IsWritable ∧ p.ReadsBack := by
    refine forall_contains_iff.mpr ⟨⟨⟨?_, ?_, hlow, hhigh, rfl, ?_⟩, Criteria.readsBack_empty⟩,
      List.forall_mem_singleton.mpr (forall_contains_iff.mpr
        ⟨⟨⟨?_, ?_, hlow, hhigh, rfl, fun _ => rfl⟩, Criteria.readsBack_empty⟩,
          List.forall_mem_nil _⟩)⟩
    · exact List.forall_mem_singleton.mpr hb
    · rintro n ⟨⟩
    · rintro ⟨⟩
    · exact List.forall_mem_singleton.mpr ha
    · rintro n ⟨⟩
      decide
  have hbelow : ∀ p, nested.Below p → p.IsClosed ∧ p.EndsTight := by
    refine forall_below_iff.mpr (List.forall_mem_singleton.mpr (forall_contains_iff.mpr
      ⟨⟨?_, ?_⟩, List.forall_mem_nil _⟩))
    · exact List.forall_mem_singleton.mpr (by decide)
    · rintro t ⟨⟩ x ⟨⟩
      rfl
  exact ⟨hbuilt, hlevels, hbelow, parse_print_of_built hbuilt hlevels hbelow⟩

end Query

end Filmography
