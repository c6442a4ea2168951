import Filmography.Search.Resolve
import Filmography.Proofs.Catalog.Reached
import Filmography.Proofs.Query.Levels
import Filmography.Proofs.Search.Found

/-!
# Runs of a search

A search is a dialogue, and what it comes to depends on who answers. `Dialogue.CanEnd` says what a
dialogue can come to at all; what it comes to with a chooser and what it comes to unattended are
instances of it. A dialogue that goes on with the result of another ends only where that one has
ended, so a search can be followed level by level: each sub-query is searched, settled to one of its
hits or to none, and then the query itself is compiled.

Nothing that loading can put into a store keeps a search from its end.

* `Dialogue.CanEnd.of_bind`, `Dialogue.unattended_bind`: dialogues that go on;
* `Query.prepareWithin_eq`: the steps of a search;
* `Query.exists_finds_of_canEnd`: whoever answers, hits are what the query finds;
* `Query.exists_unattended_search`: unattended, a search of a store that loading reached has a
  result.
-/

namespace Filmography

/-! ### Endings -/

namespace Dialogue

variable {σ ν α β : Type}

/-- What a dialogue can come to, whatever the answers are. -/
inductive CanEnd : Dialogue ν α → Except Error α → Prop
  /-- It is done. -/
  | done (result : Except Error α) : CanEnd (.done result) result
  /-- It goes on after a report. -/
  | report {event : Event ν} {next : Dialogue ν α} {result : Except Error α}
      (h : CanEnd next result) : CanEnd (.report event next) result
  /-- It goes on with some answer. -/
  | ask {question : Question ν} {next : Answer ν → Dialogue ν α} {result : Except Error α}
      (answer : Answer ν) (h : CanEnd (next answer) result) : CanEnd (.ask question next) result

/-- With a chooser a dialogue ends in one of the ways in which it can. -/
theorem canEnd_hold (choose : Chooser σ ν) (d : Dialogue ν α) (memory : σ) :
    d.CanEnd (d.hold choose memory).result := by
  induction d generalizing memory with
  | done result => exact .done result
  | report event next ih => exact .report (ih memory)
  | ask question next ih =>
    exact .ask (choose question memory).1 (ih (choose question memory).1 (choose question memory).2)

/-- Unattended, a dialogue ends in one of the ways in which it can. -/
theorem canEnd_unattended (d : Dialogue ν α) : d.CanEnd d.unattended := by
  induction d with
  | done result => exact .done result
  | report event next ih => exact .report ih
  | ask question next ih => exact .ask _ (ih (.ok question.candidates.head?))

/-- A dialogue that goes on with the result of another has a result only after that one has. -/
theorem CanEnd.of_bind {d : Dialogue ν α} {f : α → Dialogue ν β} {b : β}
    (h : (d.bind f).CanEnd (.ok b)) : ∃ a, d.CanEnd (.ok a) ∧ (f a).CanEnd (.ok b) := by
  induction d with
  | done result =>
    cases result with
    | ok a => exact ⟨a, .done _, h⟩
    | error e => cases h
  | report event next ih =>
    cases h with
    | report h =>
      obtain ⟨a, ha, hf⟩ := ih h
      exact ⟨a, .report ha, hf⟩
  | ask question next ih =>
    cases h with
    | ask answer h =>
      obtain ⟨a, ha, hf⟩ := ih answer h
      exact ⟨a, .ask answer ha, hf⟩

/-- Unattended, a dialogue that goes on with the result of another does so with its result. -/
theorem unattended_bind (d : Dialogue ν α) (f : α → Dialogue ν β) :
    (d.bind f).unattended = d.unattended.bind fun a => (f a).unattended := by
  induction d with
  | done result => cases result <;> rfl
  | report event next ih => exact ih
  | ask question next ih => exact ih (.ok question.candidates.head?)

/-- Putting errors into their context does not touch a result. -/
theorem unattended_mapError (f : Error → Error) (d : Dialogue ν α) :
    (d.mapError f).unattended = d.unattended.mapError f := by
  induction d with
  | done result => rfl
  | report event next ih => exact ih
  | ask question next ih => exact ih (.ok question.candidates.head?)

end Dialogue

/-- A catalogue that was reached makes a store, whatever else that can do. It is named so that a
catalogue need not be computed to be compared with itself. -/
theorem Store.reached_mk {ν : Type} [Score ν] {c : Catalog} (h : c.Reached) (fuzzy : Bool)
    (engine : Engine ν) : (Store.mk c fuzzy engine).catalog.Reached := h

variable {ν : Type} [Score ν]

/-- Unattended, the first candidate is picked, whether or not it is asked for. -/
theorem unattended_pick (role : Role) (threshold : ν) (candidates : List (Hit ν)) :
    (pick role threshold candidates).unattended = .ok candidates.head? := by
  match candidates with
  | [] => rfl
  | [only] => rfl
  | first :: second :: rest =>
    rw [pick]
    split <;> rfl

/-! ### The steps of a search -/

/-- What a sub-query stands for, given the hit that was picked for it. -/
def Resolution.ofPicked : Option (Hit ν) → Resolution
  | none => .unresolved
  | some hit => .resolved hit.id

namespace Query

variable {s : Store ν}

/-- Settle the sub-queries of a query within another and run it. -/
def searchWithin (s : Store ν) (threshold : ν) (debug : Bool) (q : Query ν) :
    Dialogue ν (List (Hit ν)) :=
  (q.prepareWithin s threshold debug).bind fun statement =>
    .done (statement.hits s.engine s.catalog)

theorem search_eq_searchWithin (q : Query ν) :
    q.search s = q.searchWithin s q.goodThreshold false := rfl

/-- Settle a sub-query if there is one. -/
def settle? (s : Store ν) (threshold : ν) (debug : Bool) (role : Role) :
    Option (Query ν) → Dialogue ν Resolution
  | none => .done (.ok .notRequested)
  | some q => settle s role (q.within threshold debug) (q.prepareWithin s threshold debug)

/-- A query is prepared by settling its sub-queries in order and compiling it with what they stand
for. The threshold and the logging have no part in what it is compiled to. -/
theorem prepareWithin_eq (q : Query ν) (threshold : ν) (debug : Bool) :
    q.prepareWithin s threshold debug =
      (settle? s threshold (q.debug || debug) .tvshow q.tvshow).bind fun tvshow =>
      (settle? s threshold (q.debug || debug) .credits q.credits).bind fun credits =>
      (settle? s threshold (q.debug || debug) .cast q.cast).bind fun cast =>
      .report (.compiled (q.within threshold debug) (q.compile ⟨tvshow, credits, cast⟩ s.fuzzy))
        (.done (.ok (q.compile ⟨tvshow, credits, cast⟩ s.fuzzy))) := by
  obtain ⟨c, tvshow, credits, cast⟩ := q
  cases tvshow <;> cases credits <;> cases cast <;> rfl

/-- A sub-query is settled by searching it and picking one of its hits. -/
theorem settle?_some (q : Query ν) (threshold : ν) (debug : Bool) (role : Role) :
    settle? s threshold debug role (some q) =
      ((q.searchWithin s threshold debug).mapError (Error.subSearch role)).bind fun candidates =>
      (pick role threshold candidates).bind fun hit =>
      .report (.settled role (q.within threshold debug) hit) (.done (.ok (.ofPicked hit))) := by
  refine congrArg (Dialogue.bind _) (funext fun candidates => ?_)
  refine congrArg (Dialogue.bind _) (funext fun hit => ?_)
  cases hit <;> rfl

/-! ### Hits -/

/-- A query is prepared by compiling it, whatever its sub-queries are found to stand for. -/
theorem exists_compile_of_canEnd {q : Query ν} {threshold : ν} {debug : Bool}
    {statement : Statement ν} (h : (q.prepareWithin s threshold debug).CanEnd (.ok statement)) :
    ∃ r, statement = q.compile r s.fuzzy := by
  rw [prepareWithin_eq] at h
  obtain ⟨tvshow, -, h⟩ := h.of_bind
  obtain ⟨credits, -, h⟩ := h.of_bind
  obtain ⟨cast, -, h⟩ := h.of_bind
  cases h with
  | report h =>
    cases h
    exact ⟨⟨tvshow, credits, cast⟩, rfl⟩

/-- A query is prepared by compiling it, whoever chooses. -/
theorem exists_compile_of_hold {σ : Type} {choose : Chooser σ ν} {q : Query ν} {threshold : ν}
    {debug : Bool} {memory : σ} {statement : Statement ν}
    (h : ((q.prepareWithin s threshold debug).hold choose memory).result = .ok statement) :
    ∃ r, statement = q.compile r s.fuzzy :=
  exists_compile_of_canEnd (h ▸ Dialogue.canEnd_hold choose _ memory)

/-- Whoever answers, the hits of a search are what the query finds. -/
theorem exists_finds_of_canEnd (hs : s.catalog.InBounds) {q : Query ν} {threshold : ν}
    {debug : Bool} {hits : List (Hit ν)}
    (h : (q.searchWithin s threshold debug).CanEnd (.ok hits)) :
    ∃ r, ∀ hit ∈ hits, q.Finds r s.fuzzy s.catalog hit := by
  obtain ⟨statement, hstatement, h⟩ := h.of_bind
  obtain ⟨r, rfl⟩ := exists_compile_of_canEnd hstatement
  have hhits : (q.compile r s.fuzzy).hits s.engine s.catalog = .ok hits := by
    generalize (q.compile r s.fuzzy).hits s.engine s.catalog = result at h
    cases h
    rfl
  obtain ⟨hits', hhits', hfound⟩ :=
    exists_hits_compile hs (Statement.fault?_eq_none_of_hits hhits)
  obtain rfl : hits' = hits := by
    rw [hhits'] at hhits
    exact Except.ok.inj hhits
  exact ⟨r, hfound⟩

/-! ### Unattended searches -/

/-- Unattended, a sub-query that can be searched is settled. -/
theorem exists_unattended_settle? {threshold : ν} {debug : Bool} (role : Role)
    {sub : Option (Query ν)} (h : ∀ q, sub = some q → ∃ candidates,
      (q.searchWithin s threshold debug).unattended = .ok candidates) :
    ∃ resolution, (settle? s threshold debug role sub).unattended = .ok resolution := by
  cases sub with
  | none => exact ⟨.notRequested, rfl⟩
  | some q =>
    obtain ⟨candidates, hcandidates⟩ := h q rfl
    refine ⟨.ofPicked candidates.head?, ?_⟩
    rw [settle?_some, Dialogue.unattended_bind, Dialogue.unattended_mapError, hcandidates]
    show ((pick role threshold candidates).bind _).unattended = _
    rw [Dialogue.unattended_bind, unattended_pick]
    rfl

/-- The database accepts the statement that a query is compiled to when nobody answers, and so for
the sub-queries at every depth. -/
def Accepted (s : Store ν) (q : Query ν) : Prop :=
  ∀ p, q.Contains p → ∀ threshold debug statement,
    (p.prepareWithin s threshold debug).unattended = .ok statement →
      statement.fault? s.engine s.catalog = none

/-- What keeps the database from accepting a statement is a limit that it exceeds. -/
theorem accepted_of_not_exceeds {q : Query ν}
    (h : ∀ p, q.Contains p → ∀ fault, ¬p.Exceeds s.fuzzy fault) : q.Accepted s := by
  intro p hp threshold debug statement hstatement
  have hcan := Dialogue.canEnd_unattended (p.prepareWithin s threshold debug)
  rw [hstatement] at hcan
  obtain ⟨r, rfl⟩ := exists_compile_of_canEnd hcan
  exact fault?_eq_none (h p hp)

/-- In a catalogue in bounds every search that the database accepts has a result, at every level. -/
theorem exists_unattended_searchWithin (hs : s.catalog.InBounds) (q : Query ν)
    (haccepted : q.Accepted s) (threshold : ν) (debug : Bool) : ∃ r hits,
      (q.searchWithin s threshold debug).unattended = .ok hits ∧
        ∀ hit ∈ hits, q.Finds r s.fuzzy s.catalog hit := by
  induction q using Query.induction generalizing debug with
  | h q ih =>
    obtain ⟨haccepted, hbelow⟩ := forall_contains_iff.mp haccepted
    have hsub : ∀ role sub, (∀ p, sub = some p → p ∈ q.subs) →
        ∃ resolution, (settle? s threshold (q.debug || debug) role sub).unattended =
          .ok resolution := by
      intro role sub hsub
      refine exists_unattended_settle? role fun p hp => ?_
      obtain ⟨-, hits, hhits, -⟩ := ih p (hsub p hp) (hbelow p (hsub p hp)) (q.debug || debug)
      exact ⟨hits, hhits⟩
    obtain ⟨tvshow, htvshow⟩ := hsub .tvshow q.tvshow fun p hp => mem_subs.mpr (.inl hp)
    obtain ⟨credits, hcredits⟩ := hsub .credits q.credits fun p hp => mem_subs.mpr (.inr (.inl hp))
    obtain ⟨cast, hcast⟩ := hsub .cast q.cast fun p hp => mem_subs.mpr (.inr (.inr hp))
    have hprepared : (q.prepareWithin s threshold debug).unattended =
        .ok (q.compile ⟨tvshow, credits, cast⟩ s.fuzzy) := by
      simp only [prepareWithin_eq, Dialogue.unattended_bind, htvshow, hcredits, hcast, Except.bind]
      rfl
    obtain ⟨hits, hhits, hfound⟩ :=
      exists_hits_compile hs (haccepted threshold debug _ hprepared)
    refine ⟨⟨tvshow, credits, cast⟩, hits, ?_, hfound⟩
    rw [searchWithin, Dialogue.unattended_bind, hprepared]
    exact hhits

/-- **A loaded store can be searched.** In whatever way a store was loaded, and whatever a query and
its sub-queries are, an unattended search that the database accepts has a result: every row that it
goes through is of some kind, and every number in it fits its field. -/
theorem exists_unattended_search (hs : s.catalog.Reached) {q : Query ν} (hq : q.Accepted s) :
    ∃ r hits, (q.search s).unattended = .ok hits ∧
      ∀ hit ∈ hits, q.Finds r s.fuzzy s.catalog hit := by
  rw [search_eq_searchWithin]
  exact exists_unattended_searchWithin hs.inBounds q hq q.goodThreshold false

/-- Episodes of a show that shares its atom with a movie, and whose credits dangle. -/
theorem exists_unattended_search_entangled :
    let s : Store := { catalog := (Catalog.empty.load DataFile.entangled).catalog, fuzzy := true }
    let q : Query := (empty.ofTvshow (empty.text "Heat".toList)).ofCast (empty.text "Al".toList)
    s.catalog.Reached ∧ q.Accepted s ∧
      ∃ r hits, (q.search s).unattended = .ok hits ∧
        ∀ hit ∈ hits, q.Finds r s.fuzzy s.catalog hit := by
  intro s q
  have hreached : s.catalog.Reached := Store.reached_mk (.load .new DataFile.entangled) true _
  have haccepted : q.Accepted s := by
    -- at every level similarity is asked for and no order, so no text is a pattern
    have hplain : ∀ p, q.Contains p → p.fuzzy = true ∧ p.sorts = [] := by
      refine forall_contains_iff.mpr ⟨⟨rfl, rfl⟩, fun sub hsub => ?_⟩
      obtain rfl | rfl : sub = { empty.text "Heat".toList with kinds := [.tvshow] } ∨
          sub = { empty.text "Al".toList with kinds := [.actor] } := by
        simpa [subs, q, ofTvshow, ofCast, empty] using hsub
      all_goals exact forall_contains_iff.mpr ⟨⟨by decide, rfl⟩, by simp [subs, text, empty]⟩
    refine accepted_of_not_exceeds fun p hp fault hexceeds => ?_
    obtain ⟨hfuzzy, hsorts⟩ := hplain p hp
    cases hexceeds with
    | terms hcrowded => exact not_crowded_of_sorts_eq_nil hsorts hcrowded
    | pattern hlong => exact hlong.1 ⟨hfuzzy, rfl⟩
  exact ⟨hreached, haccepted, exists_unattended_search hreached haccepted⟩

end Query

end Filmography
