import Filmography.Proofs.Search.Runs

/-!
# The kinds of hits

A query that lists kinds asks for atoms in the tables of these kinds. What a hit is shown as is
another matter: it is the first kind whose table holds the atom. The two agree unless an atom is
shared by the tables of two kinds, and nothing keeps data files from sharing one. So a search for TV
shows may yield what is shown as a movie, but then the atom is a movie's as well.

* `Query.isAmong_of_canEnd`: a hit is among the kinds of the query, whoever answers;
* `Query.isAmong_search`: so it is of one of these kinds, or its atom is shared; and so are the
  candidates for TV shows and for actors at every level;
* `Query.not_mem_kinds_entangled`: data files with a shared atom, and a hit of a kind that was not
  asked for.
-/

namespace Filmography

/-- An atom is shared if the tables of two kinds hold it. -/
def Catalog.IsShared (c : Catalog) (atom : Int) : Prop :=
  ∃ k k', k ≠ k' ∧ c.has k atom = true ∧ c.has k' atom = true

namespace Hit

variable {ν : Type}

/-- A hit is among some kinds if its atom is one of theirs. It is shown as the first kind whose
table holds the atom. -/
structure IsAmong (h : Hit ν) (c : Catalog) (kinds : List Kind) : Prop where
  /-- The atom is in the table of one of the kinds. -/
  sought : ∃ k ∈ kinds, c.has k h.id.toInt = true
  /-- The atom is in the table of the kind that is shown. -/
  kind : c.has h.kind h.id.toInt = true
  /-- No table of an earlier kind holds it. -/
  first : ∀ k, c.has k h.id.toInt = true → h.kind.rank ≤ k.rank

variable {h : Hit ν} {c : Catalog}

/-- A hit among some kinds is of one of them, or shares its atom with one of them. -/
theorem IsAmong.mem_or_isShared {kinds : List Kind} (hk : h.IsAmong c kinds) :
    h.kind ∈ kinds ∨ c.IsShared h.id.toInt := by
  obtain ⟨k, hmem, hhas⟩ := hk.sought
  by_cases heq : h.kind = k
  · exact .inl (heq ▸ hmem)
  · exact .inr ⟨h.kind, k, heq, hk.kind, hhas⟩

/-- A hit among TV shows is a TV show, or a movie that shares its atom with one. -/
theorem IsAmong.tvshow (hk : h.IsAmong c [.tvshow]) :
    h.kind = .tvshow ∨ (h.kind = .movie ∧ c.IsShared h.id.toInt) := by
  obtain hmem | hshared := hk.mem_or_isShared
  · exact .inl (List.mem_singleton.mp hmem)
  · obtain ⟨k, hmem, hhas⟩ := hk.sought
    obtain rfl := List.mem_singleton.mp hmem
    have hfirst : h.kind.rank ≤ 1 := hk.first .tvshow hhas
    cases hkind : h.kind with
    | movie => exact .inr ⟨rfl, hshared⟩
    | tvshow => exact .inl rfl
    | episode => simp [hkind, Kind.rank] at hfirst
    | actor => simp [hkind, Kind.rank] at hfirst

/-- A hit among actors is an actor, or shares its atom with one. -/
theorem IsAmong.actor (hk : h.IsAmong c [.actor]) :
    h.kind = .actor ∨ c.IsShared h.id.toInt :=
  hk.mem_or_isShared.imp_left List.mem_singleton.mp

end Hit

namespace Query

/-- What a query that lists kinds finds is among these kinds. -/
theorem Finds.isAmong {ν : Type} [Score ν] {q : Query ν} {r : Resolutions} {fuzzyCapable : Bool}
    {c : Catalog} {h : Hit ν} (hfinds : q.Finds r fuzzyCapable c h) (hkinds : q.kinds ≠ []) :
    h.IsAmong c q.kinds := by
  obtain ⟨n, -, credit, -, haccepts, hdescribes⟩ := hfinds
  obtain ⟨k, hnone | hmem, hhas⟩ := haccepts.kind
  · exact absurd hnone hkinds
  · rw [← hdescribes.id] at hhas
    refine ⟨⟨k, hmem, hhas⟩, ?_, ?_⟩
    · rw [hdescribes.id]
      exact hdescribes.kind
    · rw [hdescribes.id]
      exact hdescribes.first

/-- Whoever answers, the hits of a search for some kinds are among them. -/
theorem isAmong_of_canEnd {ν : Type} [Score ν] {s : Store ν} (hs : s.catalog.Reached) {q : Query ν}
    (hkinds : q.kinds ≠ []) {threshold : ν} {debug : Bool} {hits : List (Hit ν)}
    (h : (q.searchWithin s threshold debug).CanEnd (.ok hits)) :
    ∀ hit ∈ hits, hit.IsAmong s.catalog q.kinds := by
  obtain ⟨r, hfound⟩ := exists_finds_of_canEnd hs.inBounds h
  exact fun hit hhit => (hfound hit hhit).isAmong hkinds

/-- **Kinds.** A hit is of one of the kinds that a query lists, or its atom is shared. So a
candidate for a TV show is one, or is a movie that shares its atom with one; and a candidate for an
actor is one, or shares its atom with one. -/
theorem isAmong_search {s : Store} (hs : s.catalog.Reached) (q : Query) :
    (q.kinds ≠ [] → ∀ hits, (q.search s).CanEnd (.ok hits) → ∀ hit ∈ hits,
      hit.IsAmong s.catalog q.kinds ∧
        (hit.kind ∈ q.kinds ∨ s.catalog.IsShared hit.id.toInt)) ∧
    (q.Built → ∀ p, q.Contains p → ∀ sub threshold debug candidates,
      (sub.searchWithin s threshold debug).CanEnd (.ok candidates) → ∀ hit ∈ candidates,
        (p.tvshow = some sub → hit.IsAmong s.catalog [.tvshow] ∧
          (hit.kind = .tvshow ∨ (hit.kind = .movie ∧ s.catalog.IsShared hit.id.toInt))) ∧
        (p.cast = some sub → hit.IsAmong s.catalog [.actor] ∧
          (hit.kind = .actor ∨ s.catalog.IsShared hit.id.toInt))) := by
  constructor
  · intro hkinds hits hend hit hhit
    rw [search_eq_searchWithin] at hend
    have hamong := isAmong_of_canEnd hs hkinds hend hit hhit
    exact ⟨hamong, hamong.mem_or_isShared⟩
  · intro hbuilt p hp sub threshold debug candidates hend hit hhit
    have hscoped := hbuilt.isScoped p hp
    constructor
    · intro hsub
      have hkinds := hscoped.tvshow sub hsub
      have hamong := isAmong_of_canEnd hs (by simp [hkinds]) hend hit hhit
      rw [hkinds] at hamong
      exact ⟨hamong, hamong.tvshow⟩
    · intro hsub
      have hkinds := hscoped.cast sub hsub
      have hamong := isAmong_of_canEnd hs (by simp [hkinds]) hend hit hhit
      rw [hkinds] at hamong
      exact ⟨hamong, hamong.actor⟩

/-- Among TV shows, what is found in `DataFile.entangled` is shown as a movie. -/
private theorem exists_unattended_entangled :
    let s : Store := { catalog := (Catalog.empty.load DataFile.entangled).catalog, fuzzy := true }
    ∃ hits, ((empty.entity .tvshow).search s).unattended = .ok hits ∧
      hits.map (·.kind) = [.movie] := by
  intro s
  have hkinds : (((empty.entity .tvshow).search s).unattended.toOption.getD []).map (·.kind) =
      [.movie] := by
    decide +kernel
  generalize ((empty.entity .tvshow).search s).unattended = result at hkinds ⊢
  cases result with
  | error e => cases hkinds
  | ok hits => exact ⟨hits, rfl, hkinds⟩

/-- A search for TV shows, by itself and as a sub-query. -/
theorem isAmong_search_entangled :
    let s : Store := { catalog := (Catalog.empty.load DataFile.entangled).catalog, fuzzy := true }
    let sub : Query := empty.entity .tvshow
    let q : Query := sub.ofTvshow empty
    s.catalog.Reached ∧ sub.kinds ≠ [] ∧ q.Built ∧ q.tvshow = some sub ∧
      ∃ hits, (sub.search s).CanEnd (.ok hits) ∧ hits ≠ [] ∧ ∀ hit ∈ hits,
        hit.IsAmong s.catalog sub.kinds ∧
          (hit.kind = .tvshow ∨ (hit.kind = .movie ∧ s.catalog.IsShared hit.id.toInt)) := by
  intro s sub q
  have hreached : s.catalog.Reached := Store.reached_mk (.load .new DataFile.entangled) true _
  have hbuilt : q.Built := by
    refine .apply (c := .tvshow empty) (.apply (c := .entity .tvshow) .empty ?_) ?_
    · rintro p ⟨⟩
    · rintro p ⟨⟩
      exact .empty
  obtain ⟨hits, hhits, hkinds⟩ := exists_unattended_entangled
  have hend : (sub.search s).CanEnd (.ok hits) := hhits ▸ Dialogue.canEnd_unattended _
  refine ⟨hreached, List.cons_ne_nil _ _, hbuilt, rfl, hits, hend, ?_, fun hit hhit => ?_⟩
  · rintro rfl
    cases hkinds
  · have hroot := (isAmong_search hreached sub).1 (List.cons_ne_nil _ _) hits hend hit hhit
    have hsub := (isAmong_search hreached q).2 hbuilt q (.self q) sub _ _ hits hend hit hhit
    exact ⟨hroot.1, (hsub.1 rfl).2⟩

/-- All data files are loaded, TV shows are asked for, and there is a hit that is none. -/
theorem not_mem_kinds_entangled :
    let l := Catalog.empty.load DataFile.entangled
    let s : Store := { catalog := l.catalog, fuzzy := true }
    let q : Query := empty.entity .tvshow
    l.error = none ∧ s.catalog.Reached ∧ q.kinds ≠ [] ∧
      ∃ hits, (q.search s).unattended = .ok hits ∧ ∃ hit ∈ hits, hit.kind ∉ q.kinds := by
  intro l s q
  have hreached : s.catalog.Reached := Store.reached_mk (.load .new DataFile.entangled) true _
  obtain ⟨hits, hhits, hkinds⟩ := exists_unattended_entangled
  refine ⟨Catalog.error_load_entangled, hreached, List.cons_ne_nil _ _, hits, hhits, ?_⟩
  obtain ⟨hit, hhit, hkind⟩ : ∃ hit ∈ hits, hit.kind = .movie := by
    have hmem : Kind.movie ∈ hits.map (·.kind) := by simp [hkinds]
    exact List.mem_map.mp hmem
  refine ⟨hit, hhit, ?_⟩
  rw [hkind]
  decide

end Query

end Filmography
