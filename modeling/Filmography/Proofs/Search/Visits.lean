import Filmography.Proofs.Query.Paths
import Filmography.Proofs.Search.Runs

/-!
# Visits of sub-queries

A search that is held with a chooser comes to the sub-queries of the query one after the other. A
**visit** tells what became of one of them: where it stands, what its candidates were, and what was
answered if it was asked which of them is meant. From the visits below a sub-query it can be told
what its own sub-queries stand for, and so what its candidates are.

* `Dialogue.hold_bind_ok`, `Dialogue.hold_bind_error`: holding dialogues that go on;
* `Visit.resolutionsAt`, `Visit.hitsAt`: what visits tell about the other sub-queries;
* `NeedsChoice`: when it is asked which candidate is meant.
-/

namespace Filmography

variable {σ ν α β : Type}

/-! ### Holding dialogues -/

/-- What a chooser answers to questions that are asked one after the other, and what it remembers
then. -/
def Chooser.replay (choose : Chooser σ ν) : List (Question ν) → σ → List (Answer ν) × σ
  | [], memory => ([], memory)
  | question :: questions, memory =>
    let later := replay choose questions (choose question memory).2
    ((choose question memory).1 :: later.1, later.2)

theorem Chooser.replay_append {choose : Chooser σ ν} {qs qs' : List (Question ν)}
    {answers answers' : List (Answer ν)} {m m' m'' : σ}
    (h : replay choose qs m = (answers, m')) (h' : replay choose qs' m' = (answers', m'')) :
    replay choose (qs ++ qs') m = (answers ++ answers', m'') := by
  induction qs generalizing m answers with
  | nil =>
    cases h
    exact h'
  | cons q qs ih =>
    cases h
    rw [List.cons_append, replay, ih rfl]
    rfl

namespace Dialogue

variable (choose : Chooser σ ν)

/-- A dialogue that goes on with the result of another is held after that one. -/
theorem hold_bind_ok {d : Dialogue ν α} {f : α → Dialogue ν β} {m : σ} {a : α}
    (h : (d.hold choose m).result = .ok a) :
    (d.bind f).hold choose m =
      { (f a).hold choose (d.hold choose m).memory with
        questions := (d.hold choose m).questions ++
          ((f a).hold choose (d.hold choose m).memory).questions } := by
  induction d generalizing m with
  | done result =>
    cases h
    rfl
  | report event next ih => exact ih h
  | ask question next ih =>
    simp only [bind, hold]
    rw [ih _ h]
    rfl

/-- A dialogue that cannot go on ends as it is. -/
theorem hold_bind_error {d : Dialogue ν α} {f : α → Dialogue ν β} {m : σ} {e : Error}
    (h : (d.hold choose m).result = .error e) :
    (d.bind f).hold choose m =
      ⟨.error e, (d.hold choose m).memory, (d.hold choose m).questions⟩ := by
  induction d generalizing m with
  | done result =>
    cases h
    rfl
  | report event next ih => exact ih h
  | ask question next ih =>
    simp only [bind, hold]
    rw [ih _ h]

/-- To do something with the result of a dialogue takes no more questions. -/
theorem hold_bind_done (d : Dialogue ν α) (f : α → Except Error β) (m : σ) :
    (d.bind fun a => .done (f a)).hold choose m =
      ⟨(d.hold choose m).result.bind f, (d.hold choose m).memory,
        (d.hold choose m).questions⟩ := by
  induction d generalizing m with
  | done result => cases result <;> rfl
  | report event next ih => exact ih m
  | ask question next ih =>
    simp only [bind, hold]
    rw [ih]

/-- Putting errors into their context changes nothing else. -/
theorem hold_mapError (f : Error → Error) (d : Dialogue ν α) (m : σ) :
    (d.mapError f).hold choose m =
      ⟨(d.hold choose m).result.mapError f, (d.hold choose m).memory,
        (d.hold choose m).questions⟩ := by
  induction d generalizing m with
  | done result => rfl
  | report event next ih => exact ih m
  | ask question next ih =>
    simp only [mapError, hold]
    rw [ih]

end Dialogue

/-! ### Visits -/

/-- What became of a sub-query that a search came to. -/
structure Visit (ν : Type) extends Site ν where
  /-- Its candidates, the best one first. -/
  candidates : List (Hit ν)
  /-- The answer, if it was asked which candidate is meant. -/
  answer : Option (Answer ν)

/-- The site that a dialogue comes to next is one of those that it can come to. -/
theorem Site.mem_of_prefix {vs : List (Visit ν)} {next : Site ν} {sites : List (Site ν)}
    (h : vs.map (·.toSite) ++ [next] <+: sites) : next ∈ sites :=
  h.subset (List.mem_append_right _ (List.mem_singleton_self next))

namespace Visit

/-- What was picked: what the answer says, and the first candidate if nothing was asked. -/
def picked (v : Visit ν) : Answer ν :=
  v.answer.getD (.ok v.candidates.head?)

/-- What the sub-query stands for. -/
def resolution (v : Visit ν) : Resolution :=
  match v.picked with
  | .ok hit => .ofPicked hit
  | .error _ => .unresolved

/-- What was asked, if anything was. -/
def question? (v : Visit ν) : Option (Question ν) :=
  v.answer.map fun _ => ⟨v.role, v.candidates⟩

/-- A choice was refused. -/
def IsRefused (v : Visit ν) : Prop :=
  ∃ e, v.answer = some (.error e)

/-- The same visit, seen from the query of which this is below the sub-query of a role. -/
def under (role : Role) (v : Visit ν) : Visit ν :=
  { v with toSite := v.toSite.under role }

theorem answer_of_picked_eq_error {v : Visit ν} {e : Error} (h : v.picked = .error e) :
    v.answer = some (.error e) := by
  rw [picked] at h
  cases ha : v.answer with
  | none =>
    rw [ha] at h
    cases h
  | some answer =>
    rw [ha] at h
    exact congrArg some h

theorem not_isRefused_of_picked {v : Visit ν} {hit : Option (Hit ν)} (h : v.picked = .ok hit) :
    ¬v.IsRefused := by
  rintro ⟨e, he⟩
  rw [picked, he] at h
  cases h

/-- What the sub-query at a path stands for. -/
def resolutionAt (vs : List (Visit ν)) (path : List Role) : Resolution :=
  match vs.find? fun v => v.path = path with
  | none => .notRequested
  | some v => v.resolution

/-- What the sub-queries of the query at a path stand for. -/
def resolutionsAt (vs : List (Visit ν)) (path : List Role) : Resolutions :=
  ⟨resolutionAt vs (path ++ [.tvshow]), resolutionAt vs (path ++ [.credits]),
    resolutionAt vs (path ++ [.cast])⟩

/-- Visits of other sub-queries tell nothing about one. -/
theorem resolutionAt_append_left {vs vs' : List (Visit ν)} {path : List Role}
    (h : ∀ v ∈ vs', v.path ≠ path) : resolutionAt (vs ++ vs') path = resolutionAt vs path := by
  have hnone : vs'.find? (fun v => decide (v.path = path)) = none :=
    List.find?_eq_none.mpr fun v hv => by simpa using h v hv
  rw [resolutionAt, List.find?_append, hnone, Option.or_none]
  rfl

theorem resolutionAt_append_right {vs vs' : List (Visit ν)} {path : List Role}
    (h : ∀ v ∈ vs, v.path ≠ path) : resolutionAt (vs ++ vs') path = resolutionAt vs' path := by
  have hnone : vs.find? (fun v => decide (v.path = path)) = none :=
    List.find?_eq_none.mpr fun v hv => by simpa using h v hv
  rw [resolutionAt, List.find?_append, hnone, Option.none_or]
  rfl

theorem resolutionAt_under {vs : List (Visit ν)} {role : Role} {path : List Role} :
    resolutionAt (vs.map (under role)) (role :: path) = resolutionAt vs path := by
  have hpath : ∀ v : Visit ν, decide ((v.under role).path = role :: path) =
      decide (v.path = path) := by
    intro v
    show decide (role :: v.path = role :: path) = _
    simp
  rw [resolutionAt, List.find?_map]
  simp only [Function.comp_def, hpath, resolutionAt]
  cases vs.find? fun v => decide (v.path = path) <;> rfl

theorem resolutionsAt_append_left {vs vs' : List (Visit ν)} {path : List Role}
    (h : ∀ v ∈ vs', ∀ role, v.path ≠ path ++ [role]) :
    resolutionsAt (vs ++ vs') path = resolutionsAt vs path := by
  simp only [resolutionsAt, resolutionAt_append_left fun v hv => h v hv _]

theorem resolutionsAt_append_right {vs vs' : List (Visit ν)} {path : List Role}
    (h : ∀ v ∈ vs, ∀ role, v.path ≠ path ++ [role]) :
    resolutionsAt (vs ++ vs') path = resolutionsAt vs' path := by
  simp only [resolutionsAt, resolutionAt_append_right fun v hv => h v hv _]

theorem resolutionsAt_under {vs : List (Visit ν)} {role : Role} {path : List Role} :
    resolutionsAt (vs.map (under role)) (role :: path) = resolutionsAt vs path := by
  simp only [resolutionsAt, List.cons_append, resolutionAt_under]

/-- The visit of a sub-query tells what that stands for. -/
theorem resolutionAt_concat {vs : List (Visit ν)} {role : Role} {v : Visit ν}
    (hv : v.path = [role]) :
    resolutionAt (vs.map (under role) ++ [v]) [role] = v.resolution := by
  rw [resolutionAt_append_right]
  · simp [resolutionAt, hv]
  · -- the others are below the sub-query
    intro u hu hpath
    obtain ⟨u, -, rfl⟩ := List.mem_map.mp hu
    exact u.path_ne_nil (List.cons.inj hpath).2

theorem not_isRefused_under {vs : List (Visit ν)} (h : ∀ v ∈ vs, ¬v.IsRefused) (role : Role) :
    ∀ v ∈ vs.map (under role), ¬v.IsRefused := by
  intro v hv
  obtain ⟨u, hu, rfl⟩ := List.mem_map.mp hv
  exact h u hu

theorem map_toSite_under {vs : List (Visit ν)} {role : Role} :
    (vs.map (under role)).map (·.toSite) = (vs.map (·.toSite)).map (Site.under role) := by
  simp only [List.map_map]
  rfl

/-- In the stretch of one role there is no sub-query of another. -/
theorem path_ne_of_stretch {vs : List (Visit ν)} {role role' : Role} {sub : Option (Query ν)}
    (h : vs.map (·.toSite) = Query.stretch role sub) (hne : role ≠ role') :
    ∀ v ∈ vs, v.path ≠ [role'] := by
  intro v hv hpath
  have hmem : v.toSite ∈ Query.stretch role sub := h ▸ List.mem_map_of_mem hv
  have hhead := Query.head?_path_of_mem_stretch hmem
  rw [hpath] at hhead
  exact hne (Option.some.inj hhead).symm

/-- What a sub-query stands for is told by the stretch of its role. -/
theorem resolutionsAt_of_stretches {vs us ws : List (Visit ν)} {q : Query ν}
    (hvs : vs.map (·.toSite) = Query.stretch .tvshow q.tvshow)
    (hus : us.map (·.toSite) = Query.stretch .credits q.credits)
    (hws : ws.map (·.toSite) = Query.stretch .cast q.cast) :
    resolutionsAt (vs ++ (us ++ (ws ++ []))) [] =
      ⟨resolutionAt vs [.tvshow], resolutionAt us [.credits], resolutionAt ws [.cast]⟩ := by
  have htvshow : resolutionAt (vs ++ (us ++ ws)) [.tvshow] = resolutionAt vs [.tvshow] :=
    resolutionAt_append_left fun v hv => (List.mem_append.mp hv).elim
      (path_ne_of_stretch hus (by decide) v) (path_ne_of_stretch hws (by decide) v)
  have hcredits : resolutionAt (vs ++ (us ++ ws)) [.credits] = resolutionAt us [.credits] := by
    rw [resolutionAt_append_right (path_ne_of_stretch hvs (by decide)),
      resolutionAt_append_left (path_ne_of_stretch hws (by decide))]
  have hcast : resolutionAt (vs ++ (us ++ ws)) [.cast] = resolutionAt ws [.cast] := by
    rw [resolutionAt_append_right (path_ne_of_stretch hvs (by decide)),
      resolutionAt_append_right (path_ne_of_stretch hus (by decide))]
  rw [List.append_nil, resolutionsAt]
  exact congr (congr (congrArg Resolutions.mk htvshow) hcredits) hcast

end Visit

/-! ### Choices -/

variable [Score ν]

/-- Whether it has to be asked which of some candidates is meant: there are at least two, and not so
that both similarities of the first two are known and differ by the threshold or more. -/
def NeedsChoice (threshold : ν) (candidates : List (Hit ν)) : Prop :=
  ∃ first second rest, candidates = first :: second :: rest ∧
    ¬(first.hasSimilarity = true ∧ second.hasSimilarity = true ∧
      Score.reaches (Score.lead first.similarity second.similarity) threshold = true)

/-- Without a need for a choice the first candidate is picked. -/
theorem pick_of_not_needsChoice {role : Role} {threshold : ν} {candidates : List (Hit ν)}
    (h : ¬NeedsChoice threshold candidates) :
    pick role threshold candidates = .done (.ok candidates.head?) := by
  match candidates with
  | [] => rfl
  | [only] => rfl
  | first :: second :: rest =>
    have hleads : first.leads threshold second = true := by
      by_contra hleads
      refine h ⟨first, second, rest, rfl, fun ⟨hfirst, hsecond, hreaches⟩ => hleads ?_⟩
      rw [Hit.leads, hfirst, hsecond, hreaches]
      rfl
    rw [pick, if_pos hleads]
    rfl

/-- If there is need for a choice, all candidates are shown. -/
theorem pick_of_needsChoice {role : Role} {threshold : ν} {candidates : List (Hit ν)}
    (h : NeedsChoice threshold candidates) :
    pick role threshold candidates = .ask ⟨role, candidates⟩ .done := by
  obtain ⟨first, second, rest, rfl, hclose⟩ := h
  have hleads : ¬first.leads threshold second = true := by
    intro hleads
    rw [Hit.leads, Bool.and_eq_true, Bool.and_eq_true, and_assoc] at hleads
    exact hclose hleads
  rw [pick, if_neg hleads]

/-! ### Hits -/

/-- The hits of a sub-query, given what became of those below it. -/
def Visit.hitsAt (s : Store ν) (vs : List (Visit ν)) (p : Site ν) : Except Error (List (Hit ν)) :=
  (p.query.compile (resolutionsAt vs p.path) s.fuzzy).hits s.engine s.catalog

theorem Visit.hitsAt_under {s : Store ν} {vs : List (Visit ν)} {role : Role} {p : Site ν} :
    hitsAt s (vs.map (under role)) (p.under role) = hitsAt s vs p := by
  rw [hitsAt, Site.path_under, resolutionsAt_under]
  rfl

/-- What is below other sub-queries of the query does not change the hits of one. -/
theorem Visit.hitsAt_append_left {s : Store ν} {vs vs' : List (Visit ν)} {p : Site ν}
    (h : ∀ v ∈ vs', v.path.head? ≠ p.path.head?) : hitsAt s (vs ++ vs') p = hitsAt s vs p := by
  rw [hitsAt, resolutionsAt_append_left fun v hv role hpath => h v hv ?_]
  · rfl
  · rw [hpath, p.head?_path_append]

theorem Visit.hitsAt_append_right {s : Store ν} {vs vs' : List (Visit ν)} {p : Site ν}
    (h : ∀ v ∈ vs, v.path.head? ≠ p.path.head?) : hitsAt s (vs ++ vs') p = hitsAt s vs' p := by
  rw [hitsAt, resolutionsAt_append_right fun v hv role hpath => h v hv ?_]
  · rfl
  · rw [hpath, p.head?_path_append]

end Filmography
