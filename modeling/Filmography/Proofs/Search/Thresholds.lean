import Filmography.Proofs.Search.Picks

/-!
# Thresholds and logging of sub-queries

A query may carry a threshold and a wish to be logged, and so may each of its sub-queries. Only the
threshold of the query as a whole counts, and logging is for whoever listens: whoever answers hears
nothing of it. So queries that differ in nothing else cannot be told apart by a chooser, nor by what
they find. Unattended, no threshold counts, because the first candidate is picked anyway.

Two runs are compared by what is left of a dialogue once its reports are taken out. That is the same
dialogue for both queries, and it is held like the one with the reports.

* `Dialogue.silent`: a dialogue without its reports;
* `Query.Alike`: queries that differ in thresholds and logging only;
* `Query.silent_prepareWithin`: their preparations are the same dialogue without its reports;
* `Query.hold_search_of_alike`: they come to the same, whoever answers.
-/

namespace Filmography

variable {σ ν α β : Type}

/-! ### Dialogues without reports -/

namespace Dialogue

/-- The dialogue as whoever answers comes to know it: nothing is reported. -/
def silent : Dialogue ν α → Dialogue ν α
  | done result => done result
  | report _ next => next.silent
  | ask question next => ask question fun answer => (next answer).silent

/-- A chooser does not hear the reports. -/
theorem hold_silent (choose : Chooser σ ν) (d : Dialogue ν α) (memory : σ) :
    d.silent.hold choose memory = d.hold choose memory := by
  induction d generalizing memory with
  | done result => rfl
  | report event next ih => exact ih memory
  | ask question next ih =>
    simp only [silent, hold]
    rw [ih]

/-- Unattended, reports make no difference. -/
theorem unattended_silent (d : Dialogue ν α) : d.silent.unattended = d.unattended := by
  induction d with
  | done result => rfl
  | report event next ih => exact ih
  | ask question next ih => exact ih (.ok question.candidates.head?)

theorem silent_bind (d : Dialogue ν α) (f : α → Dialogue ν β) :
    (d.bind f).silent = d.silent.bind fun a => (f a).silent := by
  induction d with
  | done result => cases result <;> rfl
  | report event next ih => exact ih
  | ask question next ih => exact congrArg (ask question) (funext ih)

theorem silent_mapError (f : Error → Error) (d : Dialogue ν α) :
    (d.mapError f).silent = d.silent.mapError f := by
  induction d with
  | done result => rfl
  | report event next ih => exact ih
  | ask question next ih => exact congrArg (ask question) (funext ih)

end Dialogue

namespace Query

/-! ### Queries that differ in thresholds and logging -/

/-- Two queries are alike if they differ in nothing but thresholds and logging, at every level. -/
inductive Alike : Query ν → Query ν → Prop
  /-- The other conditions are the same, and the sub-queries of each role are alike. -/
  | mk {q q' : Query ν} {threshold : ν} {debug : Bool}
      (hcriteria : q'.toCriteria =
        { q.toCriteria with goodThreshold := threshold, debug := debug })
      (hsubs : ∀ role, Option.Rel Alike (q.sub? role) (q'.sub? role)) : Alike q q'

theorem mem_subs_of_sub? {q p : Query ν} {role : Role} (h : q.sub? role = some p) : p ∈ q.subs := by
  cases role with
  | tvshow => exact mem_subs.mpr (.inl h)
  | credits => exact mem_subs.mpr (.inr (.inl h))
  | cast => exact mem_subs.mpr (.inr (.inr h))
  | result => cases h

/-- Neither threshold nor logging has a part in what a query is compiled to. -/
theorem Alike.compile_eq {q q' : Query ν} (h : q.Alike q') (r : Resolutions) (fuzzyCapable : Bool) :
    q.compile r fuzzyCapable = q'.compile r fuzzyCapable := by
  obtain ⟨hcriteria, -⟩ := h
  obtain ⟨c', tvshow', credits', cast'⟩ := q'
  cases hcriteria
  rfl

variable [Score ν] {s : Store ν} {threshold : ν}

/-- If sub-queries are prepared in the same way but for reports, they are settled so. -/
theorem silent_settle? {debug debug' : Bool} {sub sub' : Option (Query ν)} (role : Role)
    (h : Option.Rel (fun q q' => (q.prepareWithin s threshold debug).silent =
      (q'.prepareWithin s threshold debug').silent) sub sub') :
    (settle? s threshold debug role sub).silent =
      (settle? s threshold debug' role sub').silent := by
  cases h with
  | none => rfl
  | @some q q' hprepared =>
    have hsearched : (q.searchWithin s threshold debug).silent =
        (q'.searchWithin s threshold debug').silent := by
      rw [searchWithin, searchWithin, Dialogue.silent_bind, Dialogue.silent_bind, hprepared]
    rw [settle?_some, settle?_some, Dialogue.silent_bind, Dialogue.silent_bind,
      Dialogue.silent_mapError, Dialogue.silent_mapError, hsearched]
    -- what is reported of the pick is all that differs
    refine congrArg (Dialogue.bind _) (funext fun candidates => ?_)
    rw [Dialogue.silent_bind, Dialogue.silent_bind]
    rfl

/-- Within a query with a given threshold, queries that are alike are prepared in the same way but
for reports. -/
theorem silent_prepareWithin {q q' : Query ν} (h : q.Alike q') (debug debug' : Bool) :
    (q.prepareWithin s threshold debug).silent = (q'.prepareWithin s threshold debug').silent := by
  induction q using Query.induction generalizing q' debug debug' with
  | h q ih =>
    have hsub : ∀ role,
        (settle? s threshold (q.debug || debug) role (q.sub? role)).silent =
          (settle? s threshold (q'.debug || debug') role (q'.sub? role)).silent := by
      intro role
      have hrole : Option.Rel Alike (q.sub? role) (q'.sub? role) := by
        obtain ⟨-, hsubs⟩ := h
        exact hsubs role
      have hmem : ∀ p, q.sub? role = some p → p ∈ q.subs := fun _ => mem_subs_of_sub?
      generalize q.sub? role = sub, q'.sub? role = sub' at hrole hmem ⊢
      refine silent_settle? role ?_
      cases hrole with
      | none => exact .none
      | @some p p' hp => exact .some (ih p (hmem p rfl) hp _ _)
    have htvshow := hsub .tvshow
    have hcredits := hsub .credits
    have hcast := hsub .cast
    simp only [sub?] at htvshow hcredits hcast
    rw [prepareWithin_eq q, prepareWithin_eq q']
    simp only [Dialogue.silent_bind, htvshow, hcredits, hcast, h.compile_eq]
    rfl

/-- **Thresholds.** Queries that are alike come to the same with every chooser if the queries as a
whole have the same threshold: the same questions with the same candidates are asked in the same
order, and the results, or the errors, are the same. Unattended they come to the same whatever
thresholds they have. -/
theorem hold_search_of_alike (s : Store ν) (choose : Chooser σ ν) {q q' : Query ν} (h : q.Alike q')
    (memory : σ) :
    (q.goodThreshold = q'.goodThreshold →
      (q.search s).hold choose memory = (q'.search s).hold choose memory ∧
      (q.prepare s).hold choose memory = (q'.prepare s).hold choose memory) ∧
    (q.search s).unattended = (q'.search s).unattended ∧
    (q.prepare s).unattended = (q'.prepare s).unattended := by
  have hprepared (threshold : ν) : (q.prepareWithin s threshold false).silent =
      (q'.prepareWithin s threshold false).silent := silent_prepareWithin h false false
  have hsearched (threshold : ν) : (q.searchWithin s threshold false).silent =
      (q'.searchWithin s threshold false).silent := by
    rw [searchWithin, searchWithin, Dialogue.silent_bind, Dialogue.silent_bind, hprepared]
  have hunattended : (q.prepare s).unattended = (q'.prepare s).unattended := by
    calc (q.prepare s).unattended
        = (q.prepareWithin s q'.goodThreshold false).unattended := by
          rw [prepare, unattended_prepareWithin, unattended_prepareWithin]
      _ = (q'.prepare s).unattended := by
          rw [← Dialogue.unattended_silent, hprepared, Dialogue.unattended_silent, prepare]
  refine ⟨fun hthreshold => ⟨?_, ?_⟩, ?_, hunattended⟩
  · rw [search_eq_searchWithin, search_eq_searchWithin, ← hthreshold,
      ← Dialogue.hold_silent choose, hsearched, Dialogue.hold_silent]
  · rw [prepare, prepare, ← hthreshold, ← Dialogue.hold_silent choose, hprepared,
      Dialogue.hold_silent]
  · rw [unattended_search, unattended_search, hunattended]

/-- An actor is sought who is credited in some media. The sub-query for the media, two levels down,
has a threshold that every lead reaches in the one query and none in the other. -/
theorem hold_search_of_alike_entangled :
    let s : Store := { catalog := (Catalog.empty.load DataFile.entangled).catalog, fuzzy := true }
    let choose : Chooser Nat := fun question n => (.ok question.candidates.getLast?, n + 1)
    let media (threshold : Float) : Query :=
      { empty with kinds := Kind.media, goodThreshold := threshold }
    let actor (threshold : Float) (debug : Bool) : Query :=
      { empty with kinds := [.actor], credits := some (media threshold), debug := debug }
    let q : Query := { empty with cast := some (actor 0 false) }
    let q' : Query := { empty with cast := some (actor 2 true), debug := true }
    q.Alike q' ∧ q.goodThreshold = q'.goodThreshold ∧
      ((q.search s).hold choose 0 = (q'.search s).hold choose 0 ∧
        (q.prepare s).hold choose 0 = (q'.prepare s).hold choose 0) ∧
      (q.search s).unattended = (q'.search s).unattended ∧
      (q.prepare s).unattended = (q'.prepare s).unattended := by
  intro s choose media actor q q'
  have hmedia : (media 0).Alike (media 2) := .mk rfl fun role => by cases role <;> exact .none
  have hactor : (actor 0 false).Alike (actor 2 true) := .mk rfl fun role => by
    cases role with
    | credits => exact .some hmedia
    | _ => exact .none
  have hq : q.Alike q' := .mk rfl fun role => by
    cases role with
    | cast => exact .some hactor
    | _ => exact .none
  have hsame := hold_search_of_alike s choose hq 0
  exact ⟨hq, rfl, hsame.1 rfl, hsame.2⟩

end Query

end Filmography
