import Mathlib.Data.List.Nodup
import Filmography.Error
import Filmography.Proofs.Query.Levels

/-!
# Paths to sub-queries

A sub-query is found by the roles that lead to it, from the query down. A **site** is such a path
together with what is found there, and the **walk** of a query lists the sites of its sub-queries
in the order in which a search comes to them: what is below a sub-query before the sub-query itself,
and the TV show before the media before the actor.

* `Query.mem_walk_iff`: the walk lists what is found at each path, and nothing else;
* `Query.nodup_walk`: it comes to no path twice.
-/

namespace Filmography

/-- An error as the queries above report it: as one of the sub-query of each role. -/
def Error.within (e : Error) (roles : List Role) : Error :=
  roles.foldr Error.subSearch e

namespace Query

variable {ν : Type}

/-- The sub-query that plays a role. -/
def sub? (q : Query ν) : Role → Option (Query ν)
  | .tvshow => q.tvshow
  | .credits => q.credits
  | .cast => q.cast
  | .result => none

/-- What is found at a path: the query itself if the path is empty, and otherwise what is found
below the sub-query of the first role. -/
def at? (q : Query ν) : List Role → Option (Query ν)
  | [] => some q
  | role :: path => (q.sub? role).bind fun p => p.at? path

end Query

/-- A sub-query and where it stands. -/
structure Site (ν : Type) where
  /-- The roles of the sub-queries that it is below, from the outermost down. -/
  above : List Role
  /-- Its own role. -/
  role : Role
  /-- The sub-query. -/
  query : Query ν

namespace Site

variable {ν : Type}

/-- The path to a site. -/
def path (p : Site ν) : List Role :=
  p.above ++ [p.role]

/-- The same site, seen from the query of which this is below the sub-query of a role. -/
def under (role : Role) (p : Site ν) : Site ν :=
  { p with above := role :: p.above }

@[simp]
theorem path_under (role : Role) (p : Site ν) : (p.under role).path = role :: p.path := rfl

theorem path_ne_nil (p : Site ν) : p.path ≠ [] := by
  simp [path]

/-- What is below a site is below the same sub-query of the query. -/
theorem head?_path_append (p : Site ν) (roles : List Role) :
    (p.path ++ roles).head? = p.path.head? := by
  rw [List.head?_append_of_ne_nil _ p.path_ne_nil]

end Site

namespace Query

variable {ν : Type}

/-- The sites of the sub-queries, each after those below it. -/
def walk : Query ν → List (Site ν)
  | ⟨_, tvshow, credits, cast⟩ =>
    (match tvshow with
      | none => []
      | some q => q.walk.map (Site.under .tvshow) ++ [⟨[], .tvshow, q⟩]) ++
    (match credits with
      | none => []
      | some q => q.walk.map (Site.under .credits) ++ [⟨[], .credits, q⟩]) ++
    (match cast with
      | none => []
      | some q => q.walk.map (Site.under .cast) ++ [⟨[], .cast, q⟩])
termination_by structural q => q

/-- The part of the walk that is below or at the sub-query of a role. -/
def stretch (role : Role) : Option (Query ν) → List (Site ν)
  | none => []
  | some q => q.walk.map (Site.under role) ++ [⟨[], role, q⟩]

theorem walk_eq (q : Query ν) :
    q.walk = stretch .tvshow q.tvshow ++ (stretch .credits q.credits ++ stretch .cast q.cast) := by
  obtain ⟨c, tvshow, credits, cast⟩ := q
  rw [← List.append_assoc]
  cases tvshow <;> cases credits <;> cases cast <;> rfl

/-- All paths of a stretch start with its role. -/
theorem head?_path_of_mem_stretch {role : Role} {o : Option (Query ν)} {p : Site ν}
    (h : p ∈ stretch role o) : p.path.head? = some role := by
  cases o with
  | none => cases h
  | some q =>
    rcases List.mem_append.mp h with h | h
    · obtain ⟨p', -, rfl⟩ := List.mem_map.mp h
      rfl
    · rw [List.mem_singleton.mp h]
      rfl

theorem mem_walk_iff_stretch {q : Query ν} {p : Site ν} :
    p ∈ q.walk ↔ ∃ role, p ∈ stretch role (q.sub? role) := by
  rw [walk_eq, List.mem_append, List.mem_append]
  constructor
  · rintro (h | h | h)
    · exact ⟨.tvshow, h⟩
    · exact ⟨.credits, h⟩
    · exact ⟨.cast, h⟩
  · rintro ⟨role, h⟩
    cases role with
    | tvshow => exact .inl h
    | credits => exact .inr (.inl h)
    | cast => exact .inr (.inr h)
    | result => cases h

/-- The last site of a stretch is that of its role, and those before it are below. -/
theorem mem_stretch_iff {first role : Role} {above : List Role} {query : Query ν}
    {o : Option (Query ν)} :
    ⟨above, role, query⟩ ∈ stretch first o ↔ ∃ q, o = some q ∧
      ((∃ rest, above = first :: rest ∧ ⟨rest, role, query⟩ ∈ q.walk) ∨
        above = [] ∧ role = first ∧ query = q) := by
  cases o with
  | none => simp [stretch]
  | some q =>
    simp only [stretch, List.mem_append, List.mem_map, List.mem_singleton, Option.some.injEq,
      exists_eq_left', Site.mk.injEq]
    refine or_congr_left ⟨?_, ?_⟩
    · rintro ⟨p, hp, h⟩
      cases h
      exact ⟨p.above, rfl, hp⟩
    · rintro ⟨rest, rfl, hp⟩
      exact ⟨⟨rest, role, query⟩, hp, rfl⟩

/-- The walk lists what is found at each path, and nothing else. -/
theorem mem_walk_iff {q : Query ν} {p : Site ν} :
    p ∈ q.walk ↔ q.at? p.path = some p.query := by
  obtain ⟨above, role, query⟩ := p
  induction above generalizing q with
  | nil =>
    rw [mem_walk_iff_stretch]
    simp only [mem_stretch_iff, Site.path, List.nil_append, at?]
    constructor
    · rintro ⟨first, p, hp, ⟨rest, h, -⟩ | ⟨-, rfl, rfl⟩⟩
      · cases h
      · rw [hp, Option.bind_some]
    · intro h
      obtain ⟨p, hp, h⟩ := Option.bind_eq_some_iff.mp h
      cases h
      exact ⟨role, query, hp, by simp⟩
  | cons first above ih =>
    rw [mem_walk_iff_stretch]
    simp only [mem_stretch_iff, Site.path, List.cons_append, at?]
    constructor
    · rintro ⟨first', p, hp, ⟨rest, h, hmem⟩ | ⟨h, -⟩⟩
      · cases h
        rw [hp, Option.bind_some]
        exact ih.mp hmem
      · cases h
    · intro h
      obtain ⟨p, hp, h⟩ := Option.bind_eq_some_iff.mp h
      exact ⟨first, p, hp, .inl ⟨above, rfl, ih.mpr h⟩⟩

/-- Stretches of different roles have no path in common. -/
theorem path_ne_of_mem_stretch {role role' : Role} (hne : role ≠ role') {o o' : Option (Query ν)}
    {p p' : Site ν} (h : p ∈ stretch role o) (h' : p' ∈ stretch role' o') :
    p.path.head? ≠ p'.path.head? := by
  rw [head?_path_of_mem_stretch h, head?_path_of_mem_stretch h']
  exact fun heq => hne (Option.some.inj heq)

/-- The walk comes to no path twice. -/
theorem nodup_walk (q : Query ν) : (q.walk.map Site.path).Nodup := by
  induction q using Query.induction with
  | h q ih =>
    have hstretch : ∀ role o, (∀ p, o = some p → p ∈ q.subs) →
        ((stretch role o).map Site.path).Nodup := by
      intro role o ho
      cases o with
      | none => exact List.nodup_nil
      | some p =>
        have hbelow : ((p.walk.map (Site.under role)).map Site.path).Nodup := by
          rw [List.map_map]
          have h := (ih p (ho p rfl)).map (List.cons_injective (a := role))
          rwa [List.map_map] at h
        rw [stretch, List.map_append, List.nodup_append]
        refine ⟨hbelow, List.nodup_singleton _, fun a ha b hb hab => ?_⟩
        -- what is below has a longer path
        simp only [List.map_map, List.mem_map, Function.comp_apply, Site.path_under] at ha
        obtain ⟨p', -, rfl⟩ := ha
        rw [List.map_singleton, List.mem_singleton] at hb
        rw [hb] at hab
        exact p'.path_ne_nil (List.cons.inj hab).2
    have hapart : ∀ role role' (o o' : Option (Query ν)), role ≠ role' →
        ∀ a ∈ (stretch role o).map Site.path, ∀ b ∈ (stretch role' o').map Site.path, a ≠ b := by
      intro role role' o o' hne a ha b hb hab
      obtain ⟨p, hp, rfl⟩ := List.mem_map.mp ha
      obtain ⟨p', hp', rfl⟩ := List.mem_map.mp hb
      exact path_ne_of_mem_stretch hne hp hp' (congrArg _ hab)
    rw [walk_eq, List.map_append, List.map_append, List.nodup_append, List.nodup_append]
    refine ⟨hstretch _ _ ?_, ⟨hstretch _ _ ?_, hstretch _ _ ?_, hapart _ _ _ _ (by decide)⟩, ?_⟩
    · exact fun p hp => mem_subs.mpr (.inl hp)
    · exact fun p hp => mem_subs.mpr (.inr (.inl hp))
    · exact fun p hp => mem_subs.mpr (.inr (.inr hp))
    · intro a ha b hb
      rcases List.mem_append.mp hb with hb | hb
      · exact hapart _ _ _ _ (by decide) a ha b hb
      · exact hapart _ _ _ _ (by decide) a ha b hb

/-! ### Putting another sub-query at a path -/

/-- The query with another sub-query for a role. -/
def withSub (q : Query ν) (role : Role) (p : Option (Query ν)) : Query ν :=
  match role with
  | .tvshow => { q with tvshow := p }
  | .credits => { q with credits := p }
  | .cast => { q with cast := p }
  | .result => q

/-- The query with another one at a path. Where there is no sub-query, none is put. -/
def replace (q : Query ν) (path : List Role) (p : Query ν) : Query ν :=
  match path with
  | [] => p
  | role :: path => q.withSub role ((q.sub? role).map fun sub => sub.replace path p)

end Query

end Filmography
