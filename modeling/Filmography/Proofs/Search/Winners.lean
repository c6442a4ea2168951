import Mathlib.Tactic.Linarith
import Filmography.Proofs.Search.Ranking
import Filmography.Proofs.Search.Transcript

/-!
# Clear winners

Among several hits one is picked without a question if it leads the second by a threshold. That
looks at the first two hits only, and yet the one that is picked leads all others: where names are
compared by similarity, hits come in the order of their similarities before any other sort key
counts, and where they are not, no hit has a similarity and there is no lead.

Similarities and thresholds are exact here. Nothing is assumed of a threshold: if it is negative,
then every hit leads the next one by it, and what is said of the one that is picked says less.

* `Query.pairwise_similarity`: hits are in the order of their similarities;
* `Query.similarity_of_measured?_eq_none`: hits without a similarity;
* `Query.picksClearly`: what a pick among the hits of a query comes to;
* `Query.picksClearly_search`: so it is for a search, at every level.
-/

namespace Filmography

/-- An exact similarity is known if it is not the mark for none. -/
theorem Hit.hasSimilarity_iff {h : Hit Rat} : h.hasSimilarity = true ↔ -1 < h.similarity :=
  decide_eq_true_iff

namespace Query

variable {σ : Type} {q : Query Rat} {r : Resolutions} {fuzzyCapable : Bool} {engine : Engine Rat}
  {c : Catalog} {hits : List (Hit Rat)}

/-! ### The similarities of hits -/

/-- Where names are compared by similarity, no hit is less similar than one after it, whatever sort
keys there are. -/
theorem pairwise_similarity (hmeasured : (q.measured? fuzzyCapable).isSome = true)
    (h : (q.compile r fuzzyCapable).hits engine c = .ok hits) :
    hits.Pairwise fun hit hit' => hit'.similarity ≤ hit.similarity := by
  obtain ⟨t, ht⟩ := Option.isSome_iff_exists.mp hmeasured
  obtain ⟨accepted, returned, hranks, hdecoded⟩ := exists_decoded_of_hits h
  have hsimilarities : returned.map (fun p => similarity p.1.name t) =
      hits.map Hit.similarity := by
    rw [← List.forall₂_eq_eq_eq, List.forall₂_map_left_iff, List.forall₂_map_right_iff]
    refine hdecoded.imp fun p hit hp => ?_
    rw [hp.2.similarity, ht]
    rfl
  rw [← List.pairwise_map (R := fun x y => y ≤ x), ← hsimilarities, List.pairwise_map]
  -- similarity is the first sort key, so a more similar pair never comes after a less similar one
  exact hranks.ordered.imp fun hnot => not_lt.mp fun hlt => hnot (precedes_of_similarity_lt ht hlt)

/-- Where names are not compared by similarity, every hit carries the mark for none. -/
theorem similarity_of_measured?_eq_none (hmeasured : ¬(q.measured? fuzzyCapable).isSome = true)
    (h : (q.compile r fuzzyCapable).hits engine c = .ok hits) :
    ∀ hit ∈ hits, hit.similarity = -1 := by
  obtain ⟨accepted, returned, -, hdecoded⟩ := exists_decoded_of_hits h
  rw [Bool.not_eq_true, Option.isSome_eq_false_iff, Option.isNone_iff_eq_none] at hmeasured
  refine forall_mem_of_forall₂ (hdecoded.imp fun p hit hp => ?_)
  rw [hp.2.similarity, hmeasured]
  rfl

/-! ### Picks -/

/-- What a pick among candidates for a query comes to: whether it is asked which one is meant, and
which one is picked. -/
structure PicksClearly (q : Query Rat) (fuzzyCapable : Bool) (threshold : Rat)
    (candidates : List (Hit Rat)) (asked : Prop) (picked : Answer Rat) : Prop where
  /-- If it is not asked although there are at least two, then names are compared with a text by
  similarity, and the first one is picked and leads all others by the threshold. -/
  clear : 2 ≤ candidates.length → ¬asked →
    (Strategy.ofQuery q fuzzyCapable = .similarity ∧ q.terms ≠ []) ∧
      ∃ first rest, candidates = first :: rest ∧ picked = .ok (some first) ∧
        ∀ hit ∈ rest, hit.similarity ≤ first.similarity - threshold
  /-- If names are not compared with a text by similarity, then no candidate has one, and it is
  asked if there are at least two. -/
  unmeasured : ¬(Strategy.ofQuery q fuzzyCapable = .similarity ∧ q.terms ≠ []) →
    (∀ hit ∈ candidates, hit.similarity = -1) ∧ (2 ≤ candidates.length → asked)

/-- A pick that asks where there is need for a choice, and else takes the first hit of a query, is
clear. -/
theorem picksClearly {threshold : Rat} {asked : Prop} {picked : Answer Rat}
    (h : (q.compile r fuzzyCapable).hits engine c = .ok hits)
    (hasked : asked ↔ NeedsChoice threshold hits) (hpicked : ¬asked → picked = .ok hits.head?) :
    q.PicksClearly fuzzyCapable threshold hits asked picked := by
  constructor
  · intro hlength hnot
    obtain ⟨first, second, rest, rfl⟩ : ∃ first second rest, hits = first :: second :: rest := by
      match hits, hlength with
      | first :: second :: rest, _ => exact ⟨first, second, rest, rfl⟩
    have hleads : first.hasSimilarity = true ∧ second.hasSimilarity = true ∧
        Score.reaches (Score.lead first.similarity second.similarity) threshold = true := by
      by_contra hclose
      exact hnot (hasked.mpr ⟨first, second, rest, rfl, hclose⟩)
    have hlead : threshold ≤ first.similarity - second.similarity :=
      decide_eq_true_iff.mp hleads.2.2
    have hmeasured : (q.measured? fuzzyCapable).isSome = true := by
      by_contra hnone
      have hfirst := similarity_of_measured?_eq_none hnone h first (List.mem_cons_self ..)
      exact absurd (Hit.hasSimilarity_iff.mp hleads.1) (by rw [hfirst]; exact lt_irrefl _)
    refine ⟨isSome_measured?_iff.mp hmeasured, first, second :: rest, rfl, hpicked hnot, ?_⟩
    -- the second hit is the most similar of the others
    have hordered := (List.pairwise_cons.mp (pairwise_similarity hmeasured h)).2
    intro hit hmem
    have hsecond : hit.similarity ≤ second.similarity := by
      rcases List.mem_cons.mp hmem with rfl | hrest
      · exact le_rfl
      · exact (List.pairwise_cons.mp hordered).1 hit hrest
    linarith
  · intro hunmeasured
    rw [← isSome_measured?_iff] at hunmeasured
    have hnone := similarity_of_measured?_eq_none hunmeasured h
    refine ⟨hnone, fun hlength => hasked.mpr ?_⟩
    match hits, hlength with
    | first :: second :: rest, _ =>
      refine ⟨first, second, rest, rfl, fun hleads => ?_⟩
      have hfirst := Hit.hasSimilarity_iff.mp hleads.1
      rw [hnone first (List.mem_cons_self ..)] at hfirst
      exact lt_irrefl _ hfirst

/-- A pick among the hits of a query that is held with a chooser is clear. -/
theorem picksClearly_hold (h : (q.compile r fuzzyCapable).hits engine c = .ok hits) (role : Role)
    (threshold : Rat) (choose : Chooser σ Rat) (memory : σ) :
    q.PicksClearly fuzzyCapable threshold hits
      (((pick role threshold hits).hold choose memory).questions = [⟨role, hits⟩])
      ((pick role threshold hits).hold choose memory).result := by
  by_cases hneeds : NeedsChoice threshold hits
  · have hquestions : ((pick role threshold hits).hold choose memory).questions =
        [⟨role, hits⟩] := by
      rw [pick_of_needsChoice hneeds]
      rfl
    exact picksClearly h (iff_of_true hquestions hneeds) fun hnot => absurd hquestions hnot
  · have hheld : (pick role threshold hits).hold choose memory = ⟨.ok hits.head?, memory, []⟩ := by
      rw [pick_of_not_needsChoice hneeds]
      rfl
    rw [hheld]
    exact picksClearly h (iff_of_false (by simp) hneeds) fun _ => rfl

/-- A pick on a visit of a sub-query is clear. -/
theorem picksClearly_visit {s : Store Rat} {choose : Chooser σ Rat} {threshold : Rat}
    {sites : List (Site Rat)} {m m' : σ} {vs : List (Visit Rat)} {questions : List (Question Rat)}
    (h : IsTranscript s choose threshold sites m vs questions m') {v : Visit Rat} (hv : v ∈ vs) :
    v.query.PicksClearly s.fuzzy threshold v.candidates (v.answer.isSome = true) v.picked := by
  refine picksClearly (h.candidates v hv) (h.asked v hv) fun hnot => ?_
  rw [Bool.not_eq_true, Option.isSome_eq_false_iff, Option.isNone_iff_eq_none] at hnot
  rw [Visit.picked, hnot]
  rfl

/-- The hits of a search are those of the query, compiled with what its sub-queries stand for. -/
theorem exists_hits_compile_of_hold {s : Store Rat} {choose : Chooser σ Rat} {memory : σ}
    (h : ((q.search s).hold choose memory).result = .ok hits) :
    ∃ r, (q.compile r s.fuzzy).hits s.engine s.catalog = .ok hits := by
  rw [search_eq_searchWithin, hold_searchWithin] at h
  obtain ⟨statement, hstatement, hhits⟩ := exists_of_bind_eq_ok h
  obtain ⟨r, rfl⟩ := exists_compile_of_hold hstatement
  exact ⟨r, hhits⟩

/-- **Clear winners.** Whoever chooses, a pick among the results of a search, by whatever threshold,
is clear, and so is the pick among the candidates of each sub-query that the search comes to. Where
nobody chooses, the first of any candidates is picked. -/
theorem picksClearly_search (s : Store Rat) (choose : Chooser σ Rat) (q : Query Rat) (memory : σ) :
    let prepared := (q.prepare s).hold choose memory
    let searched := (q.search s).hold choose memory
    (∀ hits, searched.result = .ok hits → ∀ (role : Role) (threshold : Rat) (later : σ),
      let held := (pick role threshold hits).hold choose later
      q.PicksClearly s.fuzzy threshold hits (held.questions = [⟨role, hits⟩]) held.result) ∧
    (∃ vs : List (Visit Rat),
      IsTranscript s choose q.goodThreshold q.walk memory vs prepared.questions prepared.memory ∧
      Ends s q.walk vs (fun statement => statement = q.compile (Visit.resolutionsAt vs []) s.fuzzy)
        prepared.result ∧
      ∀ v ∈ vs, v.query.PicksClearly s.fuzzy q.goodThreshold v.candidates
        (v.answer.isSome = true) v.picked) ∧
    ∀ (role : Role) (threshold : Rat) (first : Hit Rat) (rest : List (Hit Rat)),
      (pick role threshold (first :: rest)).unattended = .ok (some first) := by
  intro prepared searched
  refine ⟨fun hits hhits role threshold later => ?_, ?_, fun role threshold first rest => ?_⟩
  · obtain ⟨r, hr⟩ := exists_hits_compile_of_hold hhits
    exact picksClearly_hold hr role threshold choose later
  · obtain ⟨vs, htranscript, hends⟩ :=
      follows_prepareWithin s choose q.goodThreshold q false memory
    exact ⟨vs, htranscript, hends, fun v hv => picksClearly_visit htranscript hv⟩
  · exact unattended_pick role threshold (first :: rest)

/-- The only name that shares a trigram with the text, picked before two others. -/
theorem picksClearly_search_tangled :
    let s : Store Rat := { catalog := .tangled, fuzzy := true }
    let q : Query Rat := { terms := ["heat".toList], goodThreshold := 1 / 4, minSimilarity := 0 }
    let choose : Chooser Unit Rat := fun _ memory => (.ok none, memory)
    ∃ hits, ((q.search s).hold choose ()).result = .ok hits ∧
      hits.map Hit.similarity = [1, 0, 0] ∧
      let held := (pick .result q.goodThreshold hits).hold choose ()
      (2 ≤ hits.length ∧ held.questions ≠ [⟨.result, hits⟩]) ∧
        ∃ first rest, hits = first :: rest ∧ held.result = .ok (some first) ∧
          ∀ hit ∈ rest, hit.similarity ≤ first.similarity - 1 / 4 := by
  intro s q choose
  have hsimilarities : ((q.compile {} true).hits .indexed .tangled).toOption.map
      (·.map Hit.similarity) = some [1, 0, 0] := by
    -- the rows are found in the order that they are sorted into
    rw [Statement.hits, Statement.rows, List.mergeSort_of_pairwise (by decide +kernel)]
    decide +kernel
  have hsearched : ((q.search s).hold choose ()).result =
      (q.compile {} true).hits .indexed .tangled := rfl
  cases hhits : (q.compile {} true).hits .indexed .tangled with
  | error e =>
    rw [hhits] at hsimilarities
    cases hsimilarities
  | ok hits =>
    rw [hhits] at hsimilarities
    have hresult := hsearched.trans hhits
    obtain ⟨first, hits, rfl, hfirst, hrest⟩ :=
      List.map_eq_cons_iff.mp (Option.some.inj hsimilarities)
    obtain ⟨second, hits, rfl, hsecond, hrest⟩ := List.map_eq_cons_iff.mp hrest
    have hleads : first.leads (1 / 4) second = true := by
      rw [Hit.leads, Hit.hasSimilarity, Hit.hasSimilarity, hfirst, hsecond]
      decide +kernel
    have hquestions : ((pick .result q.goodThreshold (first :: second :: hits)).hold choose
        ()).questions ≠ [⟨.result, first :: second :: hits⟩] := by
      rw [pick, if_pos hleads]
      exact (List.cons_ne_nil _ _).symm
    have hlength : 2 ≤ (first :: second :: hits).length := by simp
    refine ⟨_, hresult, Option.some.inj hsimilarities, ⟨hlength, hquestions⟩, ?_⟩
    exact (((picksClearly_search s choose q ()).1 _ hresult .result q.goodThreshold ()).clear
      hlength hquestions).2

end Query

end Filmography
