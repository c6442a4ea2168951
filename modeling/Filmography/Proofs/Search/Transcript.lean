import Filmography.Proofs.Search.Visits

/-!
# Transcripts of searches

A search comes to the sub-queries of the query in the order of `Query.walk`, and stops where a
question is refused or where a sub-query cannot be searched. Its **transcript** is the list of its
visits. The transcript tells which questions were asked, and it tells the end of the search.

A transcript of a query consists of those of its sub-queries, each followed by the visit of the
sub-query itself. What is below one sub-query tells nothing about what is below another, because
their paths start with different roles.

* `IsTranscript`: what a transcript is;
* `Ends`: how a search ends, by its transcript;
* `Dialogue.Follows.bind`: dialogues that go on;
* `Query.exists_transcript`: whoever chooses, preparing a query has a transcript and ends by it.
-/

namespace Filmography

variable {σ ν α β : Type} [Score ν]

/-- Visits are the transcript of a dialogue that comes to the sub-queries at given sites. It is held
with a chooser, asks these questions, and leaves the chooser with that memory. -/
structure IsTranscript (s : Store ν) (choose : Chooser σ ν) (threshold : ν) (sites : List (Site ν))
    (memory : σ) (vs : List (Visit ν)) (questions : List (Question ν)) (after : σ) : Prop where
  /-- It comes to the sites in order, and may stop before it has come to all. -/
  order : vs.map (·.toSite) <+: sites
  /-- Candidates are all hits of the sub-query. -/
  candidates : ∀ v ∈ vs, Visit.hitsAt s vs v.toSite = .ok v.candidates
  /-- It is asked about a sub-query if and only if there is need for a choice. -/
  asked : ∀ v ∈ vs, v.answer.isSome = true ↔ NeedsChoice threshold v.candidates
  /-- Nothing else is asked. -/
  asks : questions = vs.filterMap (·.question?)
  /-- The answers are those of the chooser. -/
  answers : choose.replay questions memory = (vs.filterMap (·.answer), after)

/-- How a dialogue ends that comes to the sub-queries at given sites, by its transcript. -/
inductive Ends (s : Store ν) (sites : List (Site ν)) (vs : List (Visit ν)) (P : α → Prop) :
    Except Error α → Prop
  /-- It came to all sites, and has a result. -/
  | complete {a : α} (hall : vs.map (·.toSite) = sites) (hvs : ∀ v ∈ vs, ¬v.IsRefused) (ha : P a) :
      Ends s sites vs P (.ok a)
  /-- The last choice was refused. -/
  | refused {before : List (Visit ν)} {v : Visit ν} {e : Error} (hvs : vs = before ++ [v])
      (hbefore : ∀ u ∈ before, ¬u.IsRefused) (hv : v.answer = some (.error e)) :
      Ends s sites vs P (.error (e.within v.above))
  /-- The next sub-query cannot be searched. -/
  | failed {next : Site ν} {e : Error} (hnext : vs.map (·.toSite) ++ [next] <+: sites)
      (hvs : ∀ v ∈ vs, ¬v.IsRefused) (he : Visit.hitsAt s vs next = .error e) :
      Ends s sites vs P (.error (e.within next.path))

section

variable {s : Store ν} {choose : Chooser σ ν} {threshold : ν} {sites sites' : List (Site ν)}
  {m m' m'' : σ} {vs vs' : List (Visit ν)} {qs qs' : List (Question ν)}

namespace IsTranscript

/-- At first there is nothing to tell. -/
theorem nil : IsTranscript s choose threshold sites m [] [] m :=
  ⟨List.nil_prefix, by simp, by simp, rfl, rfl⟩

/-- A dialogue that has stopped does not come to further sites. -/
theorem extend (h : IsTranscript s choose threshold sites m vs qs m') (more : List (Site ν)) :
    IsTranscript s choose threshold (sites ++ more) m vs qs m' :=
  { h with order := h.order.trans (List.prefix_append _ _) }

/-- Two transcripts one after the other, of sub-queries that are not below each other. -/
theorem append (h : IsTranscript s choose threshold sites m vs qs m')
    (hall : vs.map (·.toSite) = sites)
    (h' : IsTranscript s choose threshold sites' m' vs' qs' m'')
    (hapart : ∀ p ∈ sites, ∀ p' ∈ sites', p.path.head? ≠ p'.path.head?) :
    IsTranscript s choose threshold (sites ++ sites') m (vs ++ vs') (qs ++ qs') m'' where
  order := by
    rw [List.map_append, hall]
    exact (List.prefix_append_right_inj _).mpr h'.order
  candidates := by
    have hmem : ∀ v ∈ vs, v.toSite ∈ sites := fun v hv => hall ▸ List.mem_map_of_mem hv
    have hmem' : ∀ v ∈ vs', v.toSite ∈ sites' :=
      fun v hv => h'.order.subset (List.mem_map_of_mem hv)
    intro v hv
    rcases List.mem_append.mp hv with hv | hv
    · rw [Visit.hitsAt_append_left fun u hu => (hapart _ (hmem v hv) _ (hmem' u hu)).symm]
      exact h.candidates v hv
    · rw [Visit.hitsAt_append_right fun u hu => hapart _ (hmem u hu) _ (hmem' v hv)]
      exact h'.candidates v hv
  asked := by
    intro v hv
    rcases List.mem_append.mp hv with hv | hv
    · exact h.asked v hv
    · exact h'.asked v hv
  asks := by rw [h.asks, h'.asks, List.filterMap_append]
  answers := by
    rw [List.filterMap_append]
    exact Chooser.replay_append h.answers h'.answers

/-- The transcript of a sub-query, as the query sees it. -/
theorem under {q : Query ν} (h : IsTranscript s choose threshold q.walk m vs qs m') (role : Role) :
    IsTranscript s choose threshold (Query.stretch role (some q)) m (vs.map (Visit.under role)) qs
      m' where
  order := by
    rw [Visit.map_toSite_under, Query.stretch]
    exact (h.order.map (Site.under role)).trans (List.prefix_append _ _)
  candidates := by
    intro v hv
    obtain ⟨u, hu, rfl⟩ := List.mem_map.mp hv
    exact Visit.hitsAt_under.trans (h.candidates u hu)
  asked := by
    intro v hv
    obtain ⟨u, hu, rfl⟩ := List.mem_map.mp hv
    exact h.asked u hu
  asks := by
    rw [h.asks, List.filterMap_map]
    rfl
  answers := by
    rw [h.answers, List.filterMap_map]
    rfl

/-- Visits below a sub-query, followed by the visit of that. -/
theorem snoc {q : Query ν} {role : Role} {v : Visit ν}
    (h : IsTranscript s choose threshold q.walk m vs qs m') (hall : vs.map (·.toSite) = q.walk)
    (hsite : v.toSite = ⟨[], role, q⟩)
    (hcandidates : (q.compile (Visit.resolutionsAt vs []) s.fuzzy).hits s.engine s.catalog =
      .ok v.candidates)
    (hasked : v.answer.isSome = true ↔ NeedsChoice threshold v.candidates)
    (hanswer : choose.replay v.question?.toList m' = (v.answer.toList, m'')) :
    IsTranscript s choose threshold (Query.stretch role (some q)) m
      (vs.map (Visit.under role) ++ [v]) (qs ++ v.question?.toList) m'' where
  order := by
    rw [List.map_append, Visit.map_toSite_under, hall, List.map_singleton, hsite]
    exact List.prefix_rfl
  candidates := by
    -- the path of the last visit is shorter than those of what is below a sub-query
    have hlast : ∀ p : Site ν, Visit.hitsAt s (vs.map (Visit.under role) ++ [v]) p =
        Visit.hitsAt s (vs.map (Visit.under role)) p := by
      intro p
      rw [Visit.hitsAt, Visit.resolutionsAt_append_left]
      · rfl
      · intro u hu role' hpath
        rw [List.mem_singleton.mp hu, hsite] at hpath
        exact p.path_ne_nil (List.append_inj_left' hpath rfl).symm
    intro u hu
    rw [hlast]
    rcases List.mem_append.mp hu with hu | hu
    · exact (h.under role).candidates u hu
    · rw [List.mem_singleton.mp hu, hsite, ← hcandidates, ← Visit.resolutionsAt_under]
      rfl
  asked := by
    intro u hu
    rcases List.mem_append.mp hu with hu | hu
    · exact (h.under role).asked u hu
    · rw [List.mem_singleton.mp hu]
      exact hasked
  asks := by
    rw [(h.under role).asks, List.filterMap_append]
    cases hq : v.question? <;> simp [hq]
  answers := by
    have hone : [v].filterMap (·.answer) = v.answer.toList := by
      cases ha : v.answer <;> simp [ha]
    rw [List.filterMap_append, hone]
    exact Chooser.replay_append (h.under role).answers hanswer

end IsTranscript

namespace Ends

variable {P : α → Prop} {Q : β → Prop} {result : Except Error α}

/-- What ends a dialogue before it has a result ends it also if there are further sites. -/
theorem of_error {e : Error} (h : Ends s sites vs P (.error e)) (more : List (Site ν)) :
    Ends s (sites ++ more) vs Q (.error e) := by
  cases h with
  | refused hvs hbefore hv => exact .refused hvs hbefore hv
  | failed hnext hvs he => exact .failed (hnext.trans (List.prefix_append _ _)) hvs he

/-- After a dialogue that came to its sites, another ends the two. -/
theorem append (hall : vs.map (·.toSite) = sites) (hvs : ∀ v ∈ vs, ¬v.IsRefused)
    (hapart : ∀ p ∈ sites, ∀ p' ∈ sites', p.path.head? ≠ p'.path.head?)
    (h : Ends s sites' vs' P result) : Ends s (sites ++ sites') (vs ++ vs') P result := by
  have hmem : ∀ v ∈ vs, v.toSite ∈ sites := fun v hv => hall ▸ List.mem_map_of_mem hv
  cases h with
  | complete hall' hvs' ha =>
    refine .complete (by rw [List.map_append, hall, hall']) ?_ ha
    exact fun v hv => (List.mem_append.mp hv).elim (hvs v) (hvs' v)
  | @refused before v e hvs' hbefore hv =>
    have hlast : vs ++ vs' = (vs ++ before) ++ [v] := by rw [hvs', List.append_assoc]
    exact .refused hlast (fun u hu => (List.mem_append.mp hu).elim (hvs u) (hbefore u)) hv
  | @failed next e hnext hvs' he =>
    refine .failed ?_ (fun v hv => (List.mem_append.mp hv).elim (hvs v) (hvs' v)) ?_
    · rw [List.map_append, hall, List.append_assoc]
      exact (List.prefix_append_right_inj _).mpr hnext
    · rw [Visit.hitsAt_append_right fun v hv =>
        hapart _ (hmem v hv) _ (Site.mem_of_prefix hnext)]
      exact he

/-- What ends the search of a sub-query ends that of the query. -/
theorem under {q : Query ν} {e : Error} (h : Ends s q.walk vs P (.error e)) (role : Role) :
    Ends s (Query.stretch role (some q)) (vs.map (Visit.under role)) Q
      (.error (.subSearch role e)) := by
  cases h with
  | @refused before v e hvs hbefore hv =>
    have hlast : vs.map (Visit.under role) = before.map (Visit.under role) ++ [v.under role] := by
      rw [hvs, List.map_append, List.map_singleton]
    exact .refused hlast (Visit.not_isRefused_under hbefore role) hv
  | @failed next e hnext hvs he =>
    have hsites : (vs.map (Visit.under role)).map (·.toSite) ++ [next.under role] <+:
        Query.stretch role (some q) := by
      rw [Visit.map_toSite_under, Query.stretch]
      have hmapped := hnext.map (Site.under role)
      rw [List.map_append] at hmapped
      exact hmapped.trans (List.prefix_append _ _)
    exact .failed hsites (Visit.not_isRefused_under hvs role) (Visit.hitsAt_under.trans he)

end Ends

/-- A dialogue is told by a transcript, whatever the chooser remembers. `P` says which results it
can have, given the visits. -/
def Dialogue.Follows (s : Store ν) (choose : Chooser σ ν) (threshold : ν) (sites : List (Site ν))
    (P : List (Visit ν) → α → Prop) (d : Dialogue ν α) : Prop :=
  ∀ m, ∃ vs, IsTranscript s choose threshold sites m vs (d.hold choose m).questions
    (d.hold choose m).memory ∧ Ends s sites vs (P vs) (d.hold choose m).result

/-- A dialogue that goes on with the result of another is told by both transcripts. -/
theorem Dialogue.Follows.bind {d : Dialogue ν α} {f : α → Dialogue ν β}
    {P : List (Visit ν) → α → Prop} {Q : List (Visit ν) → β → Prop}
    (hd : d.Follows s choose threshold sites P)
    (hf : ∀ vs a, vs.map (·.toSite) = sites → P vs a →
      (f a).Follows s choose threshold sites' fun vs' => Q (vs ++ vs'))
    (hapart : ∀ p ∈ sites, ∀ p' ∈ sites', p.path.head? ≠ p'.path.head?) :
    (d.bind f).Follows s choose threshold (sites ++ sites') Q := by
  intro m
  obtain ⟨vs, htranscript, hends⟩ := hd m
  cases hresult : (d.hold choose m).result with
  | error e =>
    rw [hold_bind_error choose hresult]
    rw [hresult] at hends
    exact ⟨vs, htranscript.extend _, hends.of_error _⟩
  | ok a =>
    rw [hold_bind_ok choose hresult]
    rw [hresult] at hends
    cases hends with
    | complete hall hvs ha =>
      obtain ⟨vs', htranscript', hends'⟩ := hf vs a hall ha (d.hold choose m).memory
      exact ⟨vs ++ vs', htranscript.append hall htranscript' hapart, hends'.append hall hvs hapart⟩

/-- Picking among candidates, as a visit tells it. -/
theorem exists_visit_pick (choose : Chooser σ ν) (threshold : ν) (site : Site ν)
    (candidates : List (Hit ν)) (m : σ) :
    ∃ v : Visit ν, v.toSite = site ∧ v.candidates = candidates ∧
      (v.answer.isSome = true ↔ NeedsChoice threshold v.candidates) ∧ ∃ m',
        (pick site.role threshold candidates).hold choose m =
          ⟨v.picked, m', v.question?.toList⟩ ∧
        choose.replay v.question?.toList m = (v.answer.toList, m') := by
  by_cases h : NeedsChoice threshold candidates
  · let question : Question ν := ⟨site.role, candidates⟩
    refine ⟨⟨site, candidates, some (choose question m).1⟩, rfl, rfl, ?_,
      (choose question m).2, ?_, rfl⟩
    · simpa using h
    · rw [pick_of_needsChoice h]
      rfl
  · refine ⟨⟨site, candidates, none⟩, rfl, rfl, ?_, m, ?_, rfl⟩
    · simpa using h
    · rw [pick_of_not_needsChoice h]
      rfl

namespace Query

/-- Running a query asks nothing that preparing it does not ask. -/
theorem hold_searchWithin (q : Query ν) (debug : Bool) (m : σ) :
    (q.searchWithin s threshold debug).hold choose m =
      ⟨((q.prepareWithin s threshold debug).hold choose m).result.bind (·.hits s.engine s.catalog),
        ((q.prepareWithin s threshold debug).hold choose m).memory,
        ((q.prepareWithin s threshold debug).hold choose m).questions⟩ :=
  Dialogue.hold_bind_done choose _ _ m

/-- Picking one of the candidates of a sub-query adds its visit to those of what is below it. -/
theorem exists_isTranscript_pick {q : Query ν} {role : Role} {candidates : List (Hit ν)}
    {event : Option (Hit ν) → Event ν} (h : IsTranscript s choose threshold q.walk m vs qs m')
    (hall : vs.map (·.toSite) = q.walk) (hvs : ∀ v ∈ vs, ¬v.IsRefused)
    (hcandidates : (q.compile (Visit.resolutionsAt vs []) s.fuzzy).hits s.engine s.catalog =
      .ok candidates) :
    let d : Dialogue ν Resolution := (pick role threshold candidates).bind fun hit =>
      .report (event hit) (.done (.ok (.ofPicked hit)))
    ∃ us, IsTranscript s choose threshold (stretch role (some q)) m us
        (qs ++ (d.hold choose m').questions) (d.hold choose m').memory ∧
      Ends s (stretch role (some q)) us
        (fun resolution => resolution = Visit.resolutionAt us [role])
        (d.hold choose m').result := by
  intro d
  obtain ⟨v, hsite, rfl, hasked, m'', hpick, hanswer⟩ :=
    exists_visit_pick choose threshold ⟨[], role, q⟩ candidates m'
  have hnone := Visit.not_isRefused_under hvs role
  have htranscript := h.snoc hall hsite hcandidates hasked hanswer
  refine ⟨vs.map (Visit.under role) ++ [v], ?_⟩
  cases hpicked : v.picked with
  | error e =>
    rw [hpicked] at hpick
    have hheld : d.hold choose m' = ⟨.error e, m'', v.question?.toList⟩ := by
      rw [Dialogue.hold_bind_error choose (congrArg Held.result hpick), hpick]
    rw [hheld]
    refine ⟨htranscript, ?_⟩
    have hwithin : e = e.within v.above := by
      rw [hsite]
      rfl
    rw [hwithin]
    exact .refused rfl hnone (Visit.answer_of_picked_eq_error hpicked)
  | ok hit =>
    rw [hpicked] at hpick
    have hheld : d.hold choose m' = ⟨.ok (.ofPicked hit), m'', v.question?.toList⟩ := by
      rw [Dialogue.hold_bind_ok choose (congrArg Held.result hpick), hpick]
      simp only [Dialogue.hold, List.append_nil]
    rw [hheld]
    refine ⟨htranscript, .complete ?_ ?_ ?_⟩
    · rw [List.map_append, Visit.map_toSite_under, hall, List.map_singleton, hsite]
      rfl
    · intro u hu
      rcases List.mem_append.mp hu with hu | hu
      · exact hnone u hu
      · rw [List.mem_singleton.mp hu]
        exact Visit.not_isRefused_of_picked hpicked
    · have hpath : v.path = [role] := congrArg Site.path hsite
      rw [Visit.resolutionAt_concat hpath, Visit.resolution, hpicked]

/-- If the preparation of a sub-query is told by a transcript, so is its settling. -/
theorem follows_settle? {q : Query ν} {debug : Bool} (role : Role)
    (h : (q.prepareWithin s threshold debug).Follows s choose threshold q.walk fun vs statement =>
      statement = q.compile (Visit.resolutionsAt vs []) s.fuzzy) :
    (settle? s threshold debug role (some q)).Follows s choose threshold (stretch role (some q))
      fun vs resolution => resolution = Visit.resolutionAt vs [role] := by
  intro m
  obtain ⟨vs, htranscript, hends⟩ := h m
  have hsearched : ∀ result, ((q.prepareWithin s threshold debug).hold choose m).result.bind
      (·.hits s.engine s.catalog) = result →
      ((q.searchWithin s threshold debug).mapError (Error.subSearch role)).hold choose m =
        ⟨result.mapError (Error.subSearch role),
          ((q.prepareWithin s threshold debug).hold choose m).memory,
          ((q.prepareWithin s threshold debug).hold choose m).questions⟩ := by
    rintro _ rfl
    rw [Dialogue.hold_mapError, hold_searchWithin]
  let site : Site ν := ⟨[], role, q⟩
  have hpath : site.path = [role] := rfl
  rw [settle?_some]
  cases hprepared : ((q.prepareWithin s threshold debug).hold choose m).result with
  | error e =>
    have hheld := hsearched (.error e) (by rw [hprepared]; rfl)
    rw [Dialogue.hold_bind_error choose (congrArg Held.result hheld), hheld]
    rw [hprepared] at hends
    exact ⟨vs.map (Visit.under role), htranscript.under role, hends.under role⟩
  | ok statement =>
    rw [hprepared] at hends
    cases hends with
    | complete hall hvs hstatement =>
    cases hhits : (q.compile (Visit.resolutionsAt vs []) s.fuzzy).hits s.engine s.catalog with
    | error e =>
      have hheld := hsearched (.error e) (by rw [hprepared, hstatement]; exact hhits)
      rw [Dialogue.hold_bind_error choose (congrArg Held.result hheld), hheld]
      have hsites : (vs.map (Visit.under role)).map (·.toSite) ++ [site] <+:
          stretch role (some q) := by
        rw [Visit.map_toSite_under, hall]
        exact List.prefix_rfl
      have hfails : Visit.hitsAt s (vs.map (Visit.under role)) site = .error e := by
        rw [Visit.hitsAt, hpath, Visit.resolutionsAt_under]
        exact hhits
      exact ⟨vs.map (Visit.under role), htranscript.under role,
        .failed hsites (Visit.not_isRefused_under hvs role) hfails⟩
    | ok candidates =>
      have hheld := hsearched (.ok candidates) (by rw [hprepared, hstatement]; exact hhits)
      rw [Dialogue.hold_bind_ok choose (congrArg Held.result hheld), hheld]
      exact exists_isTranscript_pick htranscript hall hvs hhits

/-- Whether there is a sub-query or not, its settling is told by a transcript. -/
theorem follows_settle?_of_forall {sub : Option (Query ν)} {debug : Bool} (role : Role)
    (h : ∀ q, sub = some q → (q.prepareWithin s threshold debug).Follows s choose threshold q.walk
      fun vs statement => statement = q.compile (Visit.resolutionsAt vs []) s.fuzzy) :
    (settle? s threshold debug role sub).Follows s choose threshold (stretch role sub)
      fun vs resolution => resolution = Visit.resolutionAt vs [role] := by
  cases sub with
  | none => exact fun m => ⟨[], .nil, .complete rfl (by simp) rfl⟩
  | some q => exact follows_settle? role (h q rfl)

/-- Preparing a query is told by a transcript. -/
theorem follows_prepareWithin (s : Store ν) (choose : Chooser σ ν) (threshold : ν) (q : Query ν)
    (debug : Bool) :
    (q.prepareWithin s threshold debug).Follows s choose threshold q.walk fun vs statement =>
      statement = q.compile (Visit.resolutionsAt vs []) s.fuzzy := by
  induction q using Query.induction generalizing debug with
  | h q ih =>
    have hsub : ∀ role sub, (∀ p, sub = some p → p ∈ q.subs) →
        (settle? s threshold (q.debug || debug) role sub).Follows s choose threshold
          (stretch role sub) fun vs resolution => resolution = Visit.resolutionAt vs [role] :=
      fun role sub hsub => follows_settle?_of_forall role fun p hp => ih p (hsub p hp) _
    have htvshow := hsub .tvshow q.tvshow fun p hp => mem_subs.mpr (.inl hp)
    have hcredits := hsub .credits q.credits fun p hp => mem_subs.mpr (.inr (.inl hp))
    have hcast := hsub .cast q.cast fun p hp => mem_subs.mpr (.inr (.inr hp))
    rw [prepareWithin_eq, walk_eq]
    refine htvshow.bind (fun vs tvshow hvs htvshow => ?_) ?_
    · refine hcredits.bind (fun us credits hus hcredits => ?_) ?_
      · rw [← List.append_nil (stretch .cast q.cast)]
        refine hcast.bind (fun ws cast hws hcast m => ⟨[], .nil, .complete rfl (by simp) ?_⟩) ?_
        · subst htvshow hcredits hcast
          rw [← Visit.resolutionsAt_of_stretches hvs hus hws]
        · exact fun p _ p' hp' => absurd hp' List.not_mem_nil
      · exact fun p hp p' hp' => path_ne_of_mem_stretch (by decide) hp hp'
    · intro p hp p' hp'
      rcases List.mem_append.mp hp' with hp' | hp'
      · exact path_ne_of_mem_stretch (by decide) hp hp'
      · exact path_ne_of_mem_stretch (by decide) hp hp'

/-- **Transcript.** Whoever chooses, a search comes to the sub-queries in the order of the walk and
to each of them once. It asks about those for which there is need for a choice, by the threshold of
the query as a whole, and shows all candidates. Only a refusal, or a sub-query that cannot be
searched, keeps it from coming to the rest. Running the query asks nothing more than preparing
it. -/
theorem exists_transcript (s : Store ν) (choose : Chooser σ ν) (q : Query ν) (memory : σ) :
    let prepared := (q.prepare s).hold choose memory
    let searched := (q.search s).hold choose memory
    (∃ vs : List (Visit ν),
      IsTranscript s choose q.goodThreshold q.walk memory vs prepared.questions prepared.memory ∧
      (vs.map (·.path)).Nodup ∧
      ((vs.filter (·.answer.isSome)).map (·.toSite)).Sublist q.walk ∧
      Ends s q.walk vs (fun statement => statement = q.compile (Visit.resolutionsAt vs []) s.fuzzy)
        prepared.result) ∧
    searched.questions = prepared.questions ∧ searched.memory = prepared.memory ∧
      searched.result =
        prepared.result.bind fun statement => statement.hits s.engine s.catalog := by
  intro prepared searched
  obtain ⟨vs, htranscript, hends⟩ :=
    follows_prepareWithin s choose q.goodThreshold q false memory
  have hsearched : searched =
      ⟨prepared.result.bind fun statement => statement.hits s.engine s.catalog, prepared.memory,
        prepared.questions⟩ := hold_searchWithin q false memory
  refine ⟨⟨vs, htranscript, ?_, ?_, hends⟩, ?_⟩
  · have hprefix := htranscript.order.sublist.map Site.path
    rw [List.map_map] at hprefix
    exact q.nodup_walk.sublist hprefix
  · exact (List.filter_sublist.map _).trans htranscript.order.sublist
  · rw [hsearched]
    exact ⟨rfl, rfl, rfl⟩

end Query

end

end Filmography
