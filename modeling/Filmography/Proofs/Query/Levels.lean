import Filmography.Query.Call

/-!
# Queries and their sub-queries

A query carries up to three sub-queries, which are queries again. What holds of a query at every
level is said by quantifying over the queries it contains, and proved by induction on sub-queries
(`Query.induction`).

Calls keep two promises. At every level the kinds are listed once each and those of a sub-query are
as its role asks for; and a query that restricts seasons or episodes lists episodes among its kinds,
unless its role has said otherwise.

* `Query.Contains`, `Query.Below`: the queries in a query, with and without itself;
* `Query.Built`: the queries that calls build from the empty one;
* `Query.Built.isScoped`, `Query.Built.keepsEpisode`: what calls promise.
-/

namespace Filmography

namespace Query

variable {ν : Type}

/-! ### Levels -/

/-- The sub-queries of a query. -/
def subs (q : Query ν) : List (Query ν) :=
  q.tvshow.toList ++ q.credits.toList ++ q.cast.toList

theorem mem_subs {q s : Query ν} :
    s ∈ q.subs ↔ q.tvshow = some s ∨ q.credits = some s ∨ q.cast = some s := by
  simp [subs]

/-- What holds of a query when it holds of its sub-queries holds of every query. -/
theorem induction {P : Query ν → Prop} (h : ∀ q : Query ν, (∀ s ∈ q.subs, P s) → P q)
    (q : Query ν) : P q := by
  refine @Query.rec ν P (fun o => ∀ s, o = some s → P s) ?_ ?_ ?_ q
  · intro c tvshow credits cast htvshow hcredits hcast
    refine h _ fun s hs => ?_
    rcases mem_subs.mp hs with hs | hs | hs
    · exact htvshow s hs
    · exact hcredits s hs
    · exact hcast s hs
  · intro s hs
    cases hs
  · rintro q hq s ⟨⟩
    exact hq

/-- A query contains itself and what its sub-queries contain. -/
inductive Contains : Query ν → Query ν → Prop
  /-- Itself. -/
  | self (q : Query ν) : Contains q q
  /-- What a sub-query contains. -/
  | sub {q s p : Query ν} (hs : s ∈ q.subs) (hp : Contains s p) : Contains q p

/-- A query is below another if a sub-query of that contains it. -/
def Below (q p : Query ν) : Prop :=
  ∃ s ∈ q.subs, s.Contains p

theorem Below.contains {q p : Query ν} (h : q.Below p) : q.Contains p := by
  obtain ⟨s, hs, hp⟩ := h
  exact .sub hs hp

theorem contains_iff {q p : Query ν} : q.Contains p ↔ p = q ∨ q.Below p := by
  constructor
  · rintro (- | ⟨hs, hp⟩)
    · exact .inl rfl
    · exact .inr ⟨_, hs, hp⟩
  · rintro (rfl | h)
    · exact .self _
    · exact h.contains

/-- At every level means here and at every level of the sub-queries. -/
theorem forall_contains_iff {P : Query ν → Prop} {q : Query ν} :
    (∀ p, q.Contains p → P p) ↔ P q ∧ ∀ s ∈ q.subs, ∀ p, s.Contains p → P p := by
  constructor
  · exact fun h => ⟨h q (.self q), fun s hs p hp => h p (.sub hs hp)⟩
  · rintro ⟨hq, hsubs⟩ p hp
    rcases contains_iff.mp hp with rfl | ⟨s, hs, hp⟩
    · exact hq
    · exact hsubs s hs p hp

/-- At every level below means at every level of the sub-queries. -/
theorem forall_below_iff {P : Query ν → Prop} {q : Query ν} :
    (∀ p, q.Below p → P p) ↔ ∀ s ∈ q.subs, ∀ p, s.Contains p → P p :=
  ⟨fun h s hs p hp => h p ⟨s, hs, hp⟩, fun h p ⟨s, hs, hp⟩ => h s hs p hp⟩

end Query

/-! ### What a call changes -/

variable {ν : Type}

/-- The sub-query that a call attaches, if it does so. -/
def Call.sub? : Call ν → Option (Query ν)
  | .tvshow sub | .credits sub | .cast sub => some sub
  | _ => none

namespace Criteria

theorem nodup_insertKind {k : Kind} {kinds : List Kind} (h : kinds.Nodup) :
    (insertKind k kinds).Nodup := by
  rw [insertKind]
  split
  · exact h
  · next hk => exact List.nodup_append.mpr ⟨h, by simp, by rintro a ha b hb rfl; simp_all⟩

theorem mem_insertKind {j k : Kind} {kinds : List Kind} :
    j ∈ insertKind k kinds ↔ j = k ∨ j ∈ kinds := by
  rw [insertKind]
  split
  · exact ⟨.inr, by rintro (rfl | h) <;> assumption⟩
  · simp [or_comm]

/-- Seasons and episodes are not restricted unless episodes are sought. -/
def KeepsEpisode (c : Criteria ν) : Prop :=
  c.seasons.isUnconstrained = false ∨ c.episodes.isUnconstrained = false → Kind.episode ∈ c.kinds

end Criteria

namespace Query

/-- A sub-query after a call was one before, or it is the sub-query of the call, with kinds of its
role. -/
theorem mem_subs_apply {q s : Query ν} {c : Call ν} (h : s ∈ (q.apply c).subs) :
    s ∈ q.subs ∨ ∃ sub ks, c.sub? = some sub ∧ s = { sub with kinds := ks } ∧
      (sub.kinds.Nodup → ks.Nodup) := by
  cases c with
  | tvshow sub =>
    rcases mem_subs.mp h with h | h | h
    · cases h
      exact .inr ⟨sub, [.tvshow], rfl, rfl, fun _ => by simp⟩
    · exact .inl (mem_subs.mpr (.inr (.inl h)))
    · exact .inl (mem_subs.mpr (.inr (.inr h)))
  | credits sub =>
    rcases mem_subs.mp h with h | h | h
    · exact .inl (mem_subs.mpr (.inl h))
    · cases h
      refine .inr ⟨sub, _, rfl, rfl, fun hnodup => ?_⟩
      split
      · decide
      · exact hnodup
    · exact .inl (mem_subs.mpr (.inr (.inr h)))
  | cast sub =>
    rcases mem_subs.mp h with h | h | h
    · exact .inl (mem_subs.mpr (.inl h))
    · exact .inl (mem_subs.mpr (.inr (.inl h)))
    · cases h
      exact .inr ⟨sub, [.actor], rfl, rfl, fun _ => by simp⟩
  | _ => exact .inl h

section

variable {P : Query ν → Prop}
  (hkinds : ∀ (s : Query ν) ks, (s.kinds.Nodup → ks.Nodup) → P s → P { s with kinds := ks })

include hkinds

/-- What holds at every level below a query holds below it after a call, if it holds of what the
call attaches and does not depend on which kinds are listed. -/
theorem forall_below_apply {q : Query ν} (hq : ∀ p, q.Below p → P p) {c : Call ν}
    (hsub : ∀ s, c.sub? = some s → ∀ p, s.Contains p → P p) : ∀ p, (q.apply c).Below p → P p := by
  refine forall_below_iff.mpr fun s hs => ?_
  rcases mem_subs_apply hs with hs | ⟨sub, ks, hsub', rfl, hks⟩
  · exact forall_below_iff.mp hq s hs
  · -- only the kinds of the sub-query itself were changed
    have hlevels := forall_contains_iff.mp (hsub sub hsub')
    exact forall_contains_iff.mpr ⟨hkinds sub ks hks hlevels.1, hlevels.2⟩

/-- What holds at every level of a query holds at every level of it after a call, if it also holds
of the outcome. -/
theorem forall_contains_apply {q : Query ν} (hq : ∀ p, q.Contains p → P p) {c : Call ν}
    (hc : P (q.apply c)) (hsub : ∀ s, c.sub? = some s → ∀ p, s.Contains p → P p) :
    ∀ p, (q.apply c).Contains p → P p := by
  have hbelow := forall_below_apply hkinds (fun p hp => hq p hp.contains) hsub
  intro p hp
  rcases contains_iff.mp hp with rfl | hp
  · exact hc
  · exact hbelow p hp

end

/-! ### Patterns -/

/-- A term that is a pattern turns matching by similarity off, and any other term leaves it as it
was. -/
theorem fuzzy_text {q : Query ν} (hq : q.hasWildcard = true → q.fuzzy = false) (term : Text)
    (h : (q.text term).hasWildcard = true) : (q.text term).fuzzy = false := by
  have hany : (q.hasWildcard || Criteria.isPattern term) = true := by
    simpa [text, Criteria.hasWildcard] using h
  show (q.fuzzy && !Criteria.isPattern term) = false
  cases hterm : Criteria.isPattern term with
  | true => simp
  | false =>
    rw [hterm, Bool.or_false] at hany
    simp [hq hany]

/-! ### Queries that are built -/

/-- The queries that are built from the empty one by calls, whose sub-queries are built the same
way. -/
inductive Built : Query → Prop
  /-- The empty query. -/
  | empty : Built empty
  /-- A call. -/
  | apply {q : Query} {c : Call} (hq : Built q) (hsub : ∀ s, c.sub? = some s → Built s) :
      Built (q.apply c)

/-- The kinds of a query are listed once each, and those of its sub-queries are as their roles ask
for. -/
structure IsScoped (q : Query ν) : Prop where
  /-- No kind is listed twice. -/
  nodup : q.kinds.Nodup
  /-- The show whose episodes are sought is a TV show. -/
  tvshow : ∀ s, q.tvshow = some s → s.kinds = [.tvshow]
  /-- What has the cast that is sought is of certain kinds. -/
  credits : ∀ s, q.credits = some s → s.kinds ≠ [] ∧ s.KeepsEpisode
  /-- Whose credits are sought is an actor. -/
  cast : ∀ s, q.cast = some s → s.kinds = [.actor]

/-- A call keeps the promise about seasons and episodes. -/
theorem keepsEpisode_apply {q : Query ν} (hq : q.KeepsEpisode) (c : Call ν) :
    (q.apply c).KeepsEpisode := by
  cases c with
  | entity k => exact fun h => Criteria.mem_insertKind.mpr (.inr (hq h))
  | seasons r => exact fun _ => Criteria.mem_insertKind.mpr (.inl rfl)
  | episodes r => exact fun _ => Criteria.mem_insertKind.mpr (.inl rfl)
  | _ => exact hq

/-- A call keeps the promise about kinds. -/
theorem isScoped_apply {q : Query ν} (hq : q.IsScoped) {c : Call ν}
    (hsub : ∀ s, c.sub? = some s → s.KeepsEpisode) : (q.apply c).IsScoped := by
  obtain ⟨hnodup, htvshow, hcredits, hcast⟩ := hq
  cases c with
  | entity k => exact ⟨Criteria.nodup_insertKind hnodup, htvshow, hcredits, hcast⟩
  | seasons r => exact ⟨Criteria.nodup_insertKind hnodup, htvshow, hcredits, hcast⟩
  | episodes r => exact ⟨Criteria.nodup_insertKind hnodup, htvshow, hcredits, hcast⟩
  | tvshow sub =>
    refine ⟨hnodup, ?_, hcredits, hcast⟩
    rintro s ⟨⟩
    rfl
  | credits sub =>
    refine ⟨hnodup, htvshow, ?_, hcast⟩
    rintro s ⟨⟩
    by_cases hkinds : sub.kinds = []
    · -- all media are sought, episodes among them
      exact ⟨by simp [hkinds, Kind.media], fun _ => by simp [hkinds, Kind.media]⟩
    · exact ⟨by simp [hkinds], fun h => by simpa [hkinds] using hsub sub rfl h⟩
  | cast sub =>
    refine ⟨hnodup, htvshow, hcredits, ?_⟩
    rintro s ⟨⟩
    rfl
  | _ => exact ⟨hnodup, htvshow, hcredits, hcast⟩

/-- Calls see to it that episodes are sought where seasons or episodes are restricted. -/
theorem Built.keepsEpisode {q : Query} (h : q.Built) : q.KeepsEpisode := by
  induction h with
  | empty =>
    rintro (h | h) <;> cases h
  | apply _ _ ih _ => exact keepsEpisode_apply ih _

/-- Calls see to it that kinds are listed once each and fit their roles, at every level. -/
theorem Built.isScoped {q : Query} (h : q.Built) : ∀ p, q.Contains p → p.IsScoped := by
  induction h with
  | empty =>
    refine forall_contains_iff.mpr ⟨⟨List.nodup_nil, ?_, ?_, ?_⟩, fun s hs => ?_⟩
    · rintro s ⟨⟩
    · rintro s ⟨⟩
    · rintro s ⟨⟩
    · cases hs
  | apply hq hsub ih ihsub =>
    refine forall_contains_apply ?_ ih ?_ ihsub
    · rintro s ks hks ⟨hnodup, htvshow, hcredits, hcast⟩
      exact ⟨hks hnodup, htvshow, hcredits, hcast⟩
    · exact isScoped_apply (ih _ (.self _)) fun s hs => (hsub s hs).keepsEpisode

/-- What calls build is built by one call after the other. -/
theorem Built.applyAll {q : Query} (hq : q.Built) {cs : List Call}
    (hcs : ∀ c ∈ cs, ∀ s, c.sub? = some s → Built s) : (q.applyAll cs).Built := by
  induction cs generalizing q with
  | nil => exact hq
  | cons c cs ih =>
    obtain ⟨hc, hcs⟩ := List.forall_mem_cons.mp hcs
    exact ih (.apply hq hc) hcs

end Query

end Filmography
