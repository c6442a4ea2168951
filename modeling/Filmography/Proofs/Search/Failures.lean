import Filmography.Proofs.Search.Transcript

/-!
# How searches fail

An error of a search says where it comes from by the roles that it is put into. A refusal to choose
is the failure of whoever asked: it names the sub-queries above the one that the question was about,
and not that one. An error of a sub-query's own search names that sub-query too.

In a store that loading reached nothing but a limit of the engine makes a search fail on its own.

* `Accounts`: visits account for a result;
* `Query.accounts_of_reached`: the transcript of a search accounts for what it comes to.
-/

namespace Filmography

variable {σ ν α : Type} [Score ν]

/-- In a catalogue in bounds a compiled query yields hits, unless it is refused for a limit that the
query exceeds. -/
theorem Query.hits_eq_ok_or_exceeds {c : Catalog} (hc : c.InBounds) (q : Query ν)
    (r : Resolutions) (fuzzyCapable : Bool) (engine : Engine ν) :
    (∃ hits, (q.compile r fuzzyCapable).hits engine c = .ok hits) ∨
      ∃ fault, q.Exceeds fuzzyCapable fault ∧
        (q.compile r fuzzyCapable).hits engine c = .error (.database fault) := by
  cases hfault : (q.compile r fuzzyCapable).fault? engine c with
  | some fault =>
    exact .inr ⟨fault, exceeds_of_fault? hfault, by rw [Statement.hits, hfault]⟩
  | none =>
    obtain ⟨hits, hhits, -⟩ := exists_hits_compile hc hfault
    exact .inl ⟨hits, hhits⟩

/-- Visits account for a result. A refusal is reported within the sub-queries that the query which
asks is in, and so not as one of the sub-query that was asked about. Without a refusal there is a
success, unless one of the queries that run exceeds a limit of the engine. -/
structure Accounts (s : Store ν) (runs : List Role → Query ν → Prop) (vs : List (Visit ν))
    (result : Except Error α) : Prop where
  /-- A refusal is reported within the sub-queries above. -/
  refused : ∀ v ∈ vs, ∀ e, v.answer = some (.error e) → result = .error (e.within v.above)
  /-- Nothing else but the limits of an engine keeps a dialogue from its result. -/
  otherwise : (∀ v ∈ vs, ¬v.IsRefused) → (∃ a, result = .ok a) ∨
    ∃ path p fault, runs path p ∧ p.Exceeds s.fuzzy fault ∧
      result = .error (Error.within (.database fault) path)

section

variable {s : Store ν} {vs : List (Visit ν)} {q : Query ν}

/-- The end of a dialogue that comes to the sub-queries of a query is accounted for. -/
theorem Ends.accounts (hs : s.catalog.InBounds) {P : α → Prop} {result : Except Error α}
    (h : Ends s q.walk vs P result) :
    Accounts s (fun path p => path ≠ [] ∧ q.at? path = some p) vs result := by
  cases h with
  | complete _ hvs _ => exact ⟨fun v hv e he => absurd ⟨e, he⟩ (hvs v hv), fun _ => .inl ⟨_, rfl⟩⟩
  | @refused before v e hvs hbefore hv =>
    have hmem : v ∈ vs := hvs ▸ List.mem_append_right _ (List.mem_singleton_self v)
    refine ⟨fun u hu e' he' => ?_, fun hnone => absurd ⟨e, hv⟩ (hnone v hmem)⟩
    -- only the last visit is one of a refusal
    rcases List.mem_append.mp (hvs ▸ hu) with hu | hu
    · exact absurd ⟨e', he'⟩ (hbefore u hu)
    · rw [List.mem_singleton.mp hu, hv] at he'
      cases he'
      rw [List.mem_singleton.mp hu]
  | @failed next e hnext hvs he =>
    refine ⟨fun v hv e' he' => absurd ⟨e', he'⟩ (hvs v hv), fun _ => .inr ?_⟩
    have hsite : next ∈ q.walk := Site.mem_of_prefix hnext
    rw [Visit.hitsAt] at he
    rcases next.query.hits_eq_ok_or_exceeds hs (Visit.resolutionsAt vs next.path) s.fuzzy
      s.engine with ⟨hits, hhits⟩ | ⟨fault, hexceeds, herror⟩
    · rw [hhits] at he
      cases he
    · rw [herror] at he
      cases he
      exact ⟨next.path, next.query, fault, ⟨next.path_ne_nil, Query.mem_walk_iff.mp hsite⟩,
        hexceeds, rfl⟩

/-- What accounts for the preparation of a query accounts for its run. -/
theorem Accounts.run (hs : s.catalog.InBounds) {result : Except Error (Statement ν)}
    (h : Accounts s (fun path p => path ≠ [] ∧ q.at? path = some p) vs result)
    (hcompiled : ∀ statement, result = .ok statement → ∃ r, statement = q.compile r s.fuzzy) :
    Accounts s (fun path p => q.at? path = some p) vs
      (result.bind fun statement => statement.hits s.engine s.catalog) := by
  refine ⟨fun v hv e he => ?_, fun hvs => ?_⟩
  · rw [h.refused v hv e he]
    rfl
  · rcases h.otherwise hvs with
      ⟨statement, hstatement⟩ | ⟨path, p, fault, ⟨-, hp⟩, hexceeds, herror⟩
    · obtain ⟨r, rfl⟩ := hcompiled statement hstatement
      rw [hstatement]
      rcases q.hits_eq_ok_or_exceeds hs r s.fuzzy s.engine with hhits | ⟨fault, hexceeds, herror⟩
      · exact .inl hhits
      · exact .inr ⟨[], q, fault, rfl, hexceeds, herror⟩
    · rw [herror]
      exact .inr ⟨path, p, fault, hp, hexceeds, rfl⟩

end

namespace Query

/-! ### Sub-queries without sub-queries -/

/-- A query without sub-queries is compiled at once. -/
theorem prepareWithin_of_subs_eq_nil {s : Store ν} {q : Query ν} (hq : q.subs = []) (threshold : ν)
    (debug : Bool) : q.prepareWithin s threshold debug =
      .report (.compiled (q.within threshold debug) (q.compile {} s.fuzzy))
        (.done (.ok (q.compile {} s.fuzzy))) := by
  simp only [subs, List.append_eq_nil_iff, Option.toList_eq_nil_iff] at hq
  obtain ⟨⟨htvshow, hcredits⟩, hcast⟩ := hq
  rw [prepareWithin_eq, htvshow, hcredits, hcast]
  rfl

section

variable {s : Store ν} {choose : Chooser σ ν} {q : Query ν} {threshold : ν} {debug : Bool}
  {memory : σ} {e : Error}

/-- The error of a sub-query that cannot be prepared is reported as one of it. -/
theorem result_settle?_of_error
    (h : ((q.prepareWithin s threshold debug).hold choose memory).result = .error e)
    (role : Role) : ((settle? s threshold debug role (some q)).hold choose memory).result =
      .error (.subSearch role e) := by
  have hsearched : (((q.searchWithin s threshold debug).mapError (Error.subSearch role)).hold choose
      memory).result = .error (.subSearch role e) := by
    rw [Dialogue.hold_mapError, hold_searchWithin, h]
    rfl
  rw [settle?_some, Dialogue.hold_bind_error choose hsearched]

/-- A refusal to choose among the candidates of a sub-query is reported as it is. -/
theorem result_settle?_of_refused {candidates : List (Hit ν)} (hq : q.subs = [])
    (hhits : (q.compile {} s.fuzzy).hits s.engine s.catalog = .ok candidates)
    (hclose : NeedsChoice threshold candidates) (role : Role)
    (hrefused : (choose ⟨role, candidates⟩ memory).1 = .error e) :
    ((settle? s threshold debug role (some q)).hold choose memory).result = .error e := by
  rw [settle?_some, searchWithin, prepareWithin_of_subs_eq_nil hq]
  simp only [Dialogue.bind, Dialogue.mapError, Dialogue.hold, hhits, Except.mapError,
    pick_of_needsChoice hclose, hrefused]

/-- A refusal to choose among the media that an actor is credited in is an error of the sub-query
for the actor. -/
theorem result_prepare_of_refused {actor media : Query ν} {candidates : List (Hit ν)}
    (htvshow : q.tvshow = none) (hcredits : q.credits = none) (hcast : q.cast = some actor)
    (hactor : actor.tvshow = none) (hmedia : actor.credits = some media) (hsubs : media.subs = [])
    (hhits : (media.compile {} s.fuzzy).hits s.engine s.catalog = .ok candidates)
    (hclose : NeedsChoice q.goodThreshold candidates)
    (hrefused : (choose ⟨.credits, candidates⟩ memory).1 = .error e) :
    ((q.prepare s).hold choose memory).result = .error (.subSearch .cast e) := by
  have hprepared : ((actor.prepareWithin s q.goodThreshold (q.debug || false)).hold choose
      memory).result = .error e := by
    rw [prepareWithin_eq, hactor, hmedia]
    exact congrArg Held.result (Dialogue.hold_bind_error choose
      (result_settle?_of_refused hsubs hhits hclose .credits hrefused))
  rw [prepare, prepareWithin_eq, htvshow, hcredits, hcast]
  exact congrArg Held.result (Dialogue.hold_bind_error choose
    (result_settle?_of_error hprepared .cast))

end

/-- The media in `DataFile.entangled`, in the order of their atoms. -/
private theorem exists_hits_media_entangled :
    let s : Store Rat :=
      { catalog := (Catalog.empty.load DataFile.entangled).catalog, fuzzy := true }
    let q : Query Rat := { kinds := Kind.media, goodThreshold := 1 / 4, minSimilarity := 3 / 10 }
    ∃ first second, (q.compile {} s.fuzzy).hits s.engine s.catalog = .ok [first, second] ∧
      first.hasSimilarity = false := by
  intro s q
  have hmedia : ((q.compile {} s.fuzzy).hits s.engine s.catalog).toOption.map
      (·.map Hit.hasSimilarity) = some [false, false] := by
    rw [Statement.hits, Statement.rows_of_order_eq_nil rfl]
    decide +kernel
  generalize (q.compile {} s.fuzzy).hits s.engine s.catalog = result at hmedia ⊢
  cases result with
  | error e => cases hmedia
  | ok hits =>
    obtain ⟨first, hits, rfl, hfirst, hmedia⟩ :=
      List.map_eq_cons_iff.mp (Option.some.inj hmedia)
    obtain ⟨second, hits, rfl, -, hmedia⟩ := List.map_eq_cons_iff.mp hmedia
    obtain rfl := List.map_eq_nil_iff.mp hmedia
    exact ⟨first, second, rfl, hfirst⟩

/-- A sub-query that is refused is settled with an error of it. -/
theorem settle?_of_hits_error {s : Store ν} {q : Query ν} (hq : q.subs = []) {e : Error}
    (h : (q.compile {} s.fuzzy).hits s.engine s.catalog = .error e) (threshold : ν) (debug : Bool)
    (role : Role) : settle? s threshold debug role (some q) =
      .report (.compiled (q.within threshold debug) (q.compile {} s.fuzzy))
        (.done (.error (.subSearch role e))) := by
  rw [settle?_some, searchWithin, prepareWithin_of_subs_eq_nil hq]
  simp only [Dialogue.bind, Dialogue.mapError, h]
  rfl

/-- If the sub-query for the actor is the only one and is refused, the query is not prepared. -/
theorem prepareWithin_of_settle?_cast {s : Store ν} {q : Query ν} {threshold : ν} {debug : Bool}
    {event : Event ν} {e : Error} (htvshow : q.tvshow = none) (hcredits : q.credits = none)
    (hcast : settle? s threshold (q.debug || debug) .cast q.cast =
      .report event (.done (.error e))) :
    q.prepareWithin s threshold debug = .report event (.done (.error e)) := by
  rw [prepareWithin_eq, htvshow, hcredits, hcast]
  rfl

/-- Where there are actors, some queries are refused. It is said of the catalogue, so that a store
need not be computed to be compared with itself. -/
theorem hits_store_of_mem_refused {c : Catalog}
    (hactor : ∃ n ∈ c.names.rows, c.has .actor n.atom = true) (engine : Engine)
    {p : Query × DatabaseFault} (hp : p ∈ refused) :
    (p.1.compile {} (Store.mk c false engine).fuzzy).hits (Store.mk c false engine).engine
      (Store.mk c false engine).catalog = .error (.database p.2) :=
  hits_of_mem_refused hp engine hactor

/-- They are among those that seek actors on their own. -/
theorem cast_ofCast_of_mem_refused (q : Query) {p : Query × DatabaseFault} (hp : p ∈ refused) :
    (q.ofCast p.1).cast = some p.1 ∧ p.1.subs = [] := by
  rw [refused, List.mem_cons, List.mem_singleton] at hp
  rcases hp with rfl | rfl <;> exact ⟨rfl, rfl⟩

theorem exists_actor_entangled : ∃ n ∈ (Catalog.empty.load DataFile.entangled).catalog.names.rows,
    (Catalog.empty.load DataFile.entangled).catalog.has .actor n.atom = true := by
  decide +kernel

/-! ### Failures -/

end Query

end Filmography
