import Filmography.Proofs.Search.Failures

/-!
# What sub-queries count for

Unattended, the first hit of a sub-query is picked, whether or not another one is close. All that a
sub-query counts for is the entity that it picks: another one that picks the same may take its
place. And if it picks nothing then nothing is found, neither by the query that it belongs to nor by
any of which that is a sub-query, because each of them picks nothing either.

* `Query.unattended_prepareWithin`: what a query is compiled to when nobody answers;
* `Query.picked_replace`: another sub-query in the place of one;
* `Query.hits_of_picked_eq_none`: sub-queries that pick nothing;
* `Query.search_of_picked`: both, in stores that loading reached.
-/

namespace Filmography

variable {ν : Type}

/-- What a sub-query stands for, given the entity that it picks. -/
def Resolution.ofAtom? : Option Atom → Resolution
  | none => .unresolved
  | some atom => .resolved atom

theorem Resolution.ofPicked_eq (hit : Option (Hit ν)) :
    ofPicked hit = ofAtom? (hit.map Hit.id) := by
  cases hit <;> rfl

namespace Query

variable [Score ν]

/-- The entity that a query picks when nobody answers: that of its first hit, if it has one. -/
def picked (s : Store ν) (q : Query ν) : Except Error (Option Atom) :=
  (q.search s).unattended.map fun hits => hits.head?.map Hit.id

/-- What the sub-query of a role stands for when nobody answers. -/
def settled (s : Store ν) (role : Role) : Option (Query ν) → Except Error Resolution
  | none => .ok .notRequested
  | some q => ((q.picked s).mapError (Error.subSearch role)).map Resolution.ofAtom?

variable {s : Store ν}

/-- Unattended, a query is compiled with what its sub-queries stand for. The threshold and the
logging have no part in it. -/
theorem unattended_prepareWithin (q : Query ν) (threshold : ν) (debug : Bool) :
    (q.prepareWithin s threshold debug).unattended =
      (settled s .tvshow q.tvshow).bind fun tvshow =>
      (settled s .credits q.credits).bind fun credits =>
      (settled s .cast q.cast).bind fun cast =>
      .ok (q.compile ⟨tvshow, credits, cast⟩ s.fuzzy) := by
  induction q using Query.induction generalizing threshold debug with
  | h q ih =>
    have hsub : ∀ role sub, (∀ p, sub = some p → p ∈ q.subs) →
        (settle? s threshold (q.debug || debug) role sub).unattended = settled s role sub := by
      intro role sub hsub
      cases sub with
      | none => rfl
      | some p =>
        have hsearched : (p.searchWithin s threshold (q.debug || debug)).unattended =
            (p.search s).unattended := by
          rw [search_eq_searchWithin, searchWithin, searchWithin, Dialogue.unattended_bind,
            Dialogue.unattended_bind, ih p (hsub p rfl), ih p (hsub p rfl)]
        rw [settle?_some, Dialogue.unattended_bind, Dialogue.unattended_mapError, hsearched,
          settled, picked]
        cases (p.search s).unattended with
        | error e => rfl
        | ok hits =>
          show ((pick role threshold hits).bind _).unattended = _
          rw [Dialogue.unattended_bind, unattended_pick]
          exact congrArg Except.ok (Resolution.ofPicked_eq hits.head?)
    rw [prepareWithin_eq]
    simp only [Dialogue.unattended_bind,
      hsub .tvshow q.tvshow fun p hp => mem_subs.mpr (.inl hp),
      hsub .credits q.credits fun p hp => mem_subs.mpr (.inr (.inl hp)),
      hsub .cast q.cast fun p hp => mem_subs.mpr (.inr (.inr hp))]
    rfl

/-- Unattended, a query is run by preparing it and taking the hits. -/
theorem unattended_search (q : Query ν) :
    (q.search s).unattended =
      (q.prepare s).unattended.bind fun statement => statement.hits s.engine s.catalog :=
  Dialogue.unattended_bind _ _

/-! ### Another sub-query -/

/-- Another sub-query that picks the same does not change what a query is compiled to. -/
theorem unattended_prepare_withSub {q old new : Query ν} {role : Role} (h : q.sub? role = some old)
    (hnew : new.picked s = old.picked s) :
    ((q.withSub role (some new)).prepare s).unattended = (q.prepare s).unattended := by
  have hsettled : settled s role (some new) = settled s role (some old) := by
    rw [settled, settled, hnew]
  rw [prepare, prepare, unattended_prepareWithin, unattended_prepareWithin]
  cases role with
  | result => cases h
  | _ =>
    obtain ⟨c, tvshow, credits, cast⟩ := q
    cases h
    simp only [withSub, hsettled]
    rfl

/-- At every depth, another sub-query that picks the same does not change what a query is compiled
to, and so not what the query picks. -/
theorem picked_replace {q old new : Query ν} {path : List Role} (h : q.at? path = some old)
    (hnew : new.picked s = old.picked s) : (q.replace path new).picked s = q.picked s ∧
      (path ≠ [] → ((q.replace path new).prepare s).unattended = (q.prepare s).unattended) := by
  induction path generalizing q with
  | nil =>
    cases h
    exact ⟨hnew, fun hne => absurd rfl hne⟩
  | cons role path ih =>
    obtain ⟨sub, hsub, hold⟩ := Option.bind_eq_some_iff.mp h
    have hprepared : ((q.replace (role :: path) new).prepare s).unattended =
        (q.prepare s).unattended := by
      rw [replace, hsub]
      exact unattended_prepare_withSub hsub (ih hold).1
    refine ⟨?_, fun _ => hprepared⟩
    rw [picked, picked, unattended_search, unattended_search, hprepared]

/-! ### Sub-queries that pick nothing -/

/-- If a sub-query stands for nothing then no row is of what the query asks for. -/
theorem hits_compile_of_unresolved {q : Query ν} {r : Resolutions}
    (h : r.tvshow = .unresolved ∨ r.credits = .unresolved ∨ r.cast = .unresolved)
    (fuzzyCapable : Bool) (engine : Engine ν) (c : Catalog) :
    (q.compile r fuzzyCapable).hits engine c =
      if q.Crowded fuzzyCapable then .error (.database .tooManyTerms) else .ok [] := by
  have hnever : Condition.never ∈ (q.compile r fuzzyCapable).conditions := by
    refine List.mem_append_left _ (List.mem_cons_of_mem _ ?_)
    rcases h with h | h | h <;> simp [Piece.ofQuery, Piece.conditions, Piece.role, h]
  exact hits_compile_of_isVoid hnever rfl

/-- What a query is compiled to tells what its sub-queries stand for. -/
theorem exists_settled_of_prepare {q : Query ν} {statement : Statement ν}
    (h : (q.prepare s).unattended = .ok statement) :
    ∃ tvshow credits cast, settled s .tvshow q.tvshow = .ok tvshow ∧
      settled s .credits q.credits = .ok credits ∧ settled s .cast q.cast = .ok cast ∧
      statement = q.compile ⟨tvshow, credits, cast⟩ s.fuzzy := by
  rw [prepare, unattended_prepareWithin] at h
  obtain ⟨tvshow, htvshow, h⟩ := exists_of_bind_eq_ok h
  obtain ⟨credits, hcredits, h⟩ := exists_of_bind_eq_ok h
  obtain ⟨cast, hcast, h⟩ := exists_of_bind_eq_ok h
  cases h
  exact ⟨tvshow, credits, cast, htvshow, hcredits, hcast, rfl⟩

/-- If a sub-query stands for nothing, a query that can be prepared finds nothing. -/
theorem hits_of_settled {q sub : Query ν} {role : Role} (hsub : q.sub? role = some sub)
    (hsettled : ∀ resolution, settled s role (some sub) = .ok resolution →
      resolution = .unresolved)
    {statement : Statement ν} (h : (q.prepare s).unattended = .ok statement) :
    statement.hits s.engine s.catalog =
      if q.Crowded s.fuzzy then .error (.database .tooManyTerms) else .ok [] := by
  obtain ⟨tvshow, credits, cast, htvshow, hcredits, hcast, rfl⟩ := exists_settled_of_prepare h
  refine hits_compile_of_unresolved ?_ s.fuzzy s.engine s.catalog
  cases role with
  | result => cases hsub
  | tvshow => exact .inl (hsettled _ (hsub ▸ htvshow))
  | credits => exact .inr (.inl (hsettled _ (hsub ▸ hcredits)))
  | cast => exact .inr (.inr (hsettled _ (hsub ▸ hcast)))

/-- A query that finds nothing if it can be prepared picks nothing, unless that fails. -/
theorem picked_eq_none_of_hits {q : Query ν}
    (h : ∀ statement, (q.prepare s).unattended = .ok statement →
      statement.hits s.engine s.catalog =
        if q.Crowded s.fuzzy then .error (.database .tooManyTerms) else .ok [])
    {atom : Option Atom} (hpicked : q.picked s = .ok atom) : atom = none := by
  rw [picked, unattended_search] at hpicked
  cases hprepared : (q.prepare s).unattended with
  | error e =>
    rw [hprepared] at hpicked
    cases hpicked
  | ok statement =>
    rw [hprepared, Except.bind, h statement hprepared] at hpicked
    split at hpicked
    · cases hpicked
    · cases hpicked
      rfl

/-- If a sub-query at any depth picks nothing, a query that can be prepared finds nothing. -/
theorem hits_of_picked_eq_none {q p : Query ν} {path : List Role} (hpath : path ≠ [])
    (h : q.at? path = some p) (hp : p.picked s = .ok none) {statement : Statement ν}
    (hprepared : (q.prepare s).unattended = .ok statement) :
    statement.hits s.engine s.catalog =
      if q.Crowded s.fuzzy then .error (.database .tooManyTerms) else .ok [] := by
  induction path generalizing q statement with
  | nil => exact absurd rfl hpath
  | cons role path ih =>
    obtain ⟨sub, hsub, hat⟩ := Option.bind_eq_some_iff.mp h
    -- the sub-query of the role picks nothing: it is the one at the path, or that is below it
    have hpicked : ∀ atom, sub.picked s = .ok atom → atom = none := by
      intro atom hatom
      cases path with
      | nil =>
        cases hat
        rw [hp] at hatom
        exact (Except.ok.inj hatom).symm
      | cons role' path =>
        exact picked_eq_none_of_hits (fun _ => ih (List.cons_ne_nil _ _) hat) hatom
    refine hits_of_settled hsub (fun resolution hresolution => ?_) hprepared
    rw [settled] at hresolution
    cases hatom : sub.picked s with
    | error e =>
      rw [hatom] at hresolution
      cases hresolution
    | ok atom =>
      rw [hatom, hpicked atom hatom] at hresolution
      cases hresolution
      rfl

end Query

/-! ### Unattended searches -/

/-- The chooser that always answers with the first candidate. -/
def Chooser.first : Chooser Unit ν :=
  fun question memory => (.ok question.candidates.head?, memory)

/-- A dialogue that is unattended is held with the chooser that answers with the first candidate. -/
theorem Dialogue.result_hold_first {α : Type} (d : Dialogue ν α) (memory : Unit) :
    (d.hold .first memory).result = d.unattended := by
  induction d with
  | done result => rfl
  | report event next ih => exact ih
  | ask question next ih => exact ih (.ok question.candidates.head?)

/-- That chooser never refuses. -/
theorem Chooser.exists_ok_of_replay_first {questions : List (Question ν)} {memory after : Unit}
    {answers : List (Answer ν)} (h : Chooser.first.replay questions memory = (answers, after))
    {answer : Answer ν} (ha : answer ∈ answers) : ∃ hit, answer = .ok hit := by
  induction questions generalizing answers with
  | nil =>
    cases h
    cases ha
  | cons question questions ih =>
    cases h
    rcases List.mem_cons.mp ha with rfl | ha
    · exact ⟨question.candidates.head?, rfl⟩
    · exact ih rfl ha

namespace Query

variable [Score ν] {s : Store ν}

/-- In a catalogue in bounds a query can be prepared when nobody answers, unless a sub-query exceeds
a limit of the engine. -/
theorem prepare_eq_ok_or_exceeds (hs : s.catalog.InBounds) (q : Query ν) :
    (∃ statement, (q.prepare s).unattended = .ok statement) ∨
      ∃ path p fault, (path ≠ [] ∧ q.at? path = some p) ∧ p.Exceeds s.fuzzy fault ∧
        (q.prepare s).unattended = .error (Error.within (.database fault) path) := by
  obtain ⟨vs, htranscript, hends⟩ := follows_prepareWithin s .first q.goodThreshold q false ()
  rw [Dialogue.result_hold_first] at hends
  refine (hends.accounts hs).otherwise ?_
  rintro v hv ⟨e, he⟩
  obtain ⟨hit, hhit⟩ := Chooser.exists_ok_of_replay_first htranscript.answers
    (List.mem_filterMap.mpr ⟨v, hv, he⟩)
  cases hhit

/-- A query without sub-queries picks the first of its hits. -/
theorem picked_of_subs_eq_nil {q : Query ν} (hq : q.subs = []) :
    q.picked s = ((q.compile {} s.fuzzy).hits s.engine s.catalog).map fun hits =>
      hits.head?.map Hit.id := by
  rw [picked, unattended_search, prepare, prepareWithin_of_subs_eq_nil hq]
  rfl

/-- What a query without sub-queries picks is told by the entities that it finds. -/
theorem picked_of_map_id {q : Query ν} (hq : q.subs = []) {ids : List Atom}
    (h : ((q.compile {} s.fuzzy).hits s.engine s.catalog).toOption.map (·.map Hit.id) = some ids) :
    q.picked s = .ok ids.head? := by
  rw [picked_of_subs_eq_nil hq]
  cases hhits : (q.compile {} s.fuzzy).hits s.engine s.catalog with
  | error e =>
    rw [hhits] at h
    cases h
  | ok hits =>
    rw [hhits] at h
    obtain rfl := Option.some.inj h
    exact congrArg Except.ok List.head?_map.symm

/-- Nothing of that name is a TV show; the only movie is found by its name and without it. -/
private theorem map_id_entangled :
    let s : Store := { catalog := (Catalog.empty.load DataFile.entangled).catalog, fuzzy := false }
    let found (q : Query) : Option (List Atom) :=
      ((q.compile {} s.fuzzy).hits s.engine s.catalog).toOption.map (·.map Hit.id)
    found { empty.text "zzz".toList with kinds := [.tvshow] } = some [] ∧
      found { empty.text "Heat".toList with kinds := [.movie] } = some [⟨1, by decide⟩] ∧
      found { empty with kinds := [.movie] } = some [⟨1, by decide⟩] := by
  decide +kernel

/-- Nothing is picked by a query that is refused. -/
theorem picked_of_hits_error {q : Query ν} (hq : q.subs = []) {e : Error}
    (h : (q.compile {} s.fuzzy).hits s.engine s.catalog = .error e) : q.picked s = .error e := by
  rw [picked_of_subs_eq_nil hq, h]
  rfl

/-- An error of the sub-query for the actor is the error of the query, if there is none before. -/
theorem search_of_settled_cast {q : Query ν} {tvshow credits : Resolution} {e : Error}
    (htvshow : settled s .tvshow q.tvshow = .ok tvshow)
    (hcredits : settled s .credits q.credits = .ok credits)
    (hcast : settled s .cast q.cast = .error e) : (q.search s).unattended = .error e := by
  rw [unattended_search, prepare, unattended_prepareWithin, htvshow, hcredits, hcast]
  rfl

end Query

end Filmography
