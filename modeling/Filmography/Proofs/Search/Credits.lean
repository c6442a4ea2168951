import Filmography.Proofs.Search.Picks
import Filmography.Proofs.Search.Ranking

/-!
# The credits of hits

A hit carries a credit if a query has a sub-query for an actor or for media, and then one of the
entities at its ends is the hit and the other is what was picked for the sub-query. One join serves
for both sub-queries: with a sub-query for an actor it is at the end of the media, whether or not
there is another one for media, which then restricts that same end.

Credits are not multiplied. A name is joined with each of its credits once, and with everything else
by the atom, which identifies the rows of every other table. So a hit and its credit are told apart
by the atom, the ends and the character.

* `Row.credited_of_decode`: a hit carries a credit where its row has one;
* `Visit.exists_of_sub?`: what the sub-query of a role stands for was picked on a visit;
* `Hit.IsOf.isCredited`: what a query accepts is credited as its sub-queries say;
* `Query.hits_of_billed`: billing positions without credits;
* `Query.isCredited_search`: the credits of the hits of a search.
-/

namespace Filmography

variable {σ ν : Type}

/-! ### Decoded credits -/

namespace Row

/-- A number that was read is the one that the table holds. -/
theorem map_toNat_of_word? {f : Field} {v : Option Int} {w : Option UInt32}
    (h : word? f v = .ok w) : w.map (fun n => (n.toNat : Int)) = v := by
  cases v with
  | none =>
    cases h
    rfl
  | some n =>
    rw [word?] at h
    obtain ⟨u, hu, hw⟩ := exists_of_bind_eq_ok h
    cases hw
    exact congrArg some (toNat_of_word hu)

/-- The position of a decoded credit is the one that the table holds. -/
theorem position_of_credited {k : CreditRow} {d : Credited} (h : credited k = .ok d) :
    d.position.map (fun n => (n.toNat : Int)) = k.position := by
  rw [credited] at h
  obtain ⟨actorWord, -, h⟩ := exists_of_bind_eq_ok h
  split at h
  · obtain ⟨media, -, h⟩ := exists_of_bind_eq_ok h
    obtain ⟨position, hposition, h⟩ := exists_of_bind_eq_ok h
    cases h
    exact map_toNat_of_word? hposition
  · cases h

variable [Score ν]

/-- A hit carries a credit if and only if its row has one, and then the credit decodes. -/
theorem credited_of_decode {row : Row} {h : Hit ν} (hdecode : row.decode = .ok h) :
    Option.Rel (fun d k => credited k = .ok d) h.credit row.joined.credit := by
  rw [decode] at hdecode
  split at hdecode
  · obtain ⟨id, -, hdecode⟩ := exists_of_bind_eq_ok hdecode
    obtain ⟨year, -, hdecode⟩ := exists_of_bind_eq_ok hdecode
    obtain ⟨votes, -, hdecode⟩ := exists_of_bind_eq_ok hdecode
    obtain ⟨rank, -, hdecode⟩ := exists_of_bind_eq_ok hdecode
    obtain ⟨attributes, -, hdecode⟩ := exists_of_bind_eq_ok hdecode
    cases hcredit : row.joined.credit with
    | none =>
      rw [hcredit] at hdecode
      cases hdecode
      exact .none
    | some k =>
      rw [hcredit] at hdecode
      obtain ⟨credit, hread, hdecode⟩ := exists_of_bind_eq_ok hdecode
      obtain ⟨d, hd, hread⟩ := exists_of_bind_eq_ok hread
      cases hread
      cases hdecode
      exact .some hd
  · cases hdecode

end Row

namespace Hit

/-- A hit is that of a pair of a name and a joined credit if it has the atom of the name and the
credit as it decodes. -/
structure IsOf (h : Hit ν) (n : NameRow) (credit : Option CreditRow) : Prop where
  /-- Its atom. -/
  id : h.id.toInt = n.atom
  /-- Its credit. -/
  credit : Option.Rel (fun d k => Row.credited k = .ok d) h.credit credit

/-- What tells hits of a search apart: the atom, and of the credit the ends and the character. -/
def creditKey (h : Hit ν) : Atom × Option (Atom × Atom × Text) :=
  (h.id, h.credit.map fun d => (d.actor, d.media, d.character))

variable {h : Hit ν} {n : NameRow} {credit : Option CreditRow}

/-- The credit of a hit has the key of the one that the name is joined with. -/
theorem IsOf.map_key (ho : h.IsOf n credit) :
    (h.credit.map fun d => (d.actor.toInt, d.media.toInt, d.character)) =
      credit.map CreditRow.key := by
  obtain ⟨-, hcredit⟩ := ho
  generalize h.credit = decoded at hcredit ⊢
  cases hcredit with
  | none => rfl
  | some hd =>
    have hdescribes := Row.describes_of_credited hd
    simp only [Option.map_some, CreditRow.key, hdescribes.actor, hdescribes.media,
      hdescribes.character]

theorem IsOf.isSome (ho : h.IsOf n credit) : h.credit.isSome = credit.isSome := by
  have hkey := congrArg Option.isSome ho.map_key
  rwa [Option.isSome_map, Option.isSome_map] at hkey

theorem IsOf.exists_describes (ho : h.IsOf n credit) {k : CreditRow} (hk : credit = some k) :
    ∃ d, h.credit = some d ∧ d.Describes k := by
  obtain ⟨-, hcredit⟩ := ho
  subst hk
  generalize h.credit = decoded at hcredit ⊢
  cases hcredit with
  | some hd => exact ⟨_, rfl, Row.describes_of_credited hd⟩

/-- The credit of a hit has the position of the one that the name is joined with. -/
theorem IsOf.position (ho : h.IsOf n credit) :
    (h.credit.bind fun d => d.position.map fun n => (n.toNat : Int)) =
      credit.bind (·.position) := by
  obtain ⟨-, hcredit⟩ := ho
  generalize h.credit = decoded at hcredit ⊢
  cases hcredit with
  | none => rfl
  | some hd => exact Row.position_of_credited hd

end Hit

/-! ### Hits are not multiplied -/

namespace Query

/-- A pair of a name and a joined credit is told by the atom and by the key of the credit. -/
theorem eq_of_keys {c : Catalog} {p p' : NameRow × Option CreditRow}
    (hp : p.1 ∈ c.names.rows ∧ ∀ k ∈ p.2, k ∈ c.credits.rows)
    (hp' : p'.1 ∈ c.names.rows ∧ ∀ k ∈ p'.2, k ∈ c.credits.rows)
    (h : (p.1.atom, p.2.map CreditRow.key) = (p'.1.atom, p'.2.map CreditRow.key)) : p = p' := by
  obtain ⟨n, credit⟩ := p
  obtain ⟨n', credit'⟩ := p'
  obtain ⟨hatom, hkey⟩ := Prod.ext_iff.mp h
  have hname : n = n' := List.inj_on_of_nodup_map c.names.distinct hp.1 hp'.1 hatom
  have hcredit : credit = credit' := by
    cases credit with
    | none =>
      cases credit' with
      | none => rfl
      | some k' => cases hkey
    | some k =>
      cases credit' with
      | none => cases hkey
      | some k' =>
        exact congrArg some (List.inj_on_of_nodup_map c.credits.distinct (hp.2 k rfl)
          (hp'.2 k' rfl) (Option.some.inj hkey))
  rw [hname, hcredit]

/-- The hits of pairs that occur once are told apart by their keys. -/
theorem nodup_creditKey {c : Catalog} {pairs : List (NameRow × Option CreditRow)}
    {hits : List (Hit ν)} (h : List.Forall₂ (fun p hit => hit.IsOf p.1 p.2) pairs hits)
    (hpairs : pairs.Nodup)
    (hmem : ∀ p ∈ pairs, p.1 ∈ c.names.rows ∧ ∀ k ∈ p.2, k ∈ c.credits.rows) :
    (hits.map Hit.creditKey).Nodup := by
  let number (key : Atom × Option (Atom × Atom × Text)) : Int × Option (Int × Int × Text) :=
    (key.1.toInt, key.2.map fun d => (d.1.toInt, d.2.1.toInt, d.2.2))
  have hkeys : (hits.map Hit.creditKey).map number =
      pairs.map fun p => (p.1.atom, p.2.map CreditRow.key) := by
    rw [List.map_map, ← List.forall₂_eq_eq_eq, List.forall₂_map_left_iff,
      List.forall₂_map_right_iff]
    refine h.flip.imp fun hit p ho => ?_
    rw [← ho.map_key, ← ho.id]
    simp only [number, Function.comp_apply, Hit.creditKey, Option.map_map]
    rfl
  refine List.Nodup.of_map number ?_
  rw [hkeys]
  exact hpairs.map_on fun p hp p' hp' => eq_of_keys (hmem p hp) (hmem p' hp')

/-- The hits of a compiled query are, in order, those of pairs that it accepts, each of which occurs
once. -/
theorem exists_isOf_of_hits [Score ν] {q : Query ν} {r : Resolutions} {fuzzyCapable : Bool}
    {engine : Engine ν} {c : Catalog} {hits : List (Hit ν)}
    (h : (q.compile r fuzzyCapable).hits engine c = .ok hits) :
    ∃ pairs : List (NameRow × Option CreditRow), pairs.Nodup ∧
      (∀ p ∈ pairs, p.1 ∈ c.names.rows ∧ r.Joins c p.1 p.2 ∧ q.Accepts r fuzzyCapable c p.1 p.2) ∧
      List.Forall₂ (fun p hit => hit.IsOf p.1 p.2) pairs hits := by
  obtain ⟨accepted, returned, hranks, hdecoded⟩ := exists_decoded_of_hits h
  refine ⟨returned, hranks.nodup, fun p hp => (hranks.mem_accepted p.1 p.2).mp (hranks.subset hp),
    hdecoded.imp fun p hit hp => ⟨hp.2.id, Row.credited_of_decode hp.1⟩⟩

end Query

/-! ### What was picked -/

namespace Visit

/-- The entity that was picked for the sub-query of a role. -/
def IsPicked (vs : List (Visit ν)) (role : Role) (sub : Query ν) (a : Atom) : Prop :=
  ∃ v ∈ vs, v.toSite = ⟨[], role, sub⟩ ∧ ∃ hit, v.picked = .ok (some hit) ∧ hit.id = a

variable {vs : List (Visit ν)} {q sub : Query ν} {role : Role}

/-- Without a sub-query of a role, none was visited. -/
theorem resolutionAt_of_none (hall : vs.map (·.toSite) = q.walk) (hnone : q.sub? role = none) :
    resolutionAt vs [role] = .notRequested := by
  have hfind : vs.find? (fun v => decide (v.path = [role])) = none := by
    refine List.find?_eq_none.mpr fun v hv => ?_
    rw [decide_eq_true_eq]
    intro hpath
    have hat := Query.mem_walk_iff.mp (hall ▸ List.mem_map_of_mem hv : v.toSite ∈ q.walk)
    rw [show v.toSite.path = [role] from hpath, Query.at?, hnone] at hat
    cases hat
  rw [resolutionAt, hfind]

/-- If all sub-queries were visited, that of a role was, and it is told by its visit what it stands
for. -/
theorem exists_of_sub? (hall : vs.map (·.toSite) = q.walk) (hsub : q.sub? role = some sub) :
    ∃ v ∈ vs, v.toSite = ⟨[], role, sub⟩ ∧ resolutionAt vs [role] = v.resolution := by
  have hmem : (⟨[], role, sub⟩ : Site ν) ∈ vs.map (·.toSite) := by
    rw [hall, Query.mem_walk_iff]
    exact (congrArg (fun o => Option.bind o _) hsub)
  obtain ⟨u, hu, husite⟩ := List.mem_map.mp hmem
  have hsome : (vs.find? fun v => decide (v.path = [role])).isSome = true :=
    List.find?_isSome.mpr ⟨u, hu, decide_eq_true (congrArg Site.path husite)⟩
  obtain ⟨v, hv⟩ := Option.isSome_iff_exists.mp hsome
  have hpath : v.toSite.path = [role] := by simpa using List.find?_some hv
  have hvs : v ∈ vs := List.mem_of_find?_eq_some hv
  refine ⟨v, hvs, ?_, by rw [resolutionAt, hv]⟩
  -- a path leads to one sub-query
  have hat := Query.mem_walk_iff.mp (hall ▸ List.mem_map_of_mem hvs : v.toSite ∈ q.walk)
  rw [hpath, Query.at?, hsub] at hat
  obtain ⟨⟨above, role', query⟩, _, _⟩ := v
  obtain ⟨rfl, rfl⟩ : above = [] ∧ role' = role := by
    simpa [Site.path, List.append_eq_singleton_iff] using hpath
  cases hat
  rfl

theorem resolution_ne_notRequested (v : Visit ν) : v.resolution ≠ .notRequested := by
  rw [resolution]
  cases v.picked with
  | error e => exact Resolution.noConfusion
  | ok hit => cases hit <;> exact Resolution.noConfusion

/-- What stands for an entity was picked. -/
theorem exists_picked_of_resolution {v : Visit ν} {a : Atom} (h : v.resolution = .resolved a) :
    ∃ hit, v.picked = .ok (some hit) ∧ hit.id = a := by
  rw [resolution] at h
  cases hpicked : v.picked with
  | error e =>
    rw [hpicked] at h
    cases h
  | ok hit =>
    rw [hpicked] at h
    cases hit with
    | none => cases h
    | some hit =>
      cases h
      exact ⟨hit, rfl, rfl⟩

/-- A role is asked for if and only if there is a sub-query for it. -/
theorem resolutionAt_ne_notRequested_iff (hall : vs.map (·.toSite) = q.walk) :
    resolutionAt vs [role] ≠ .notRequested ↔ (q.sub? role).isSome = true := by
  cases hsub : q.sub? role with
  | none => simp [resolutionAt_of_none hall hsub]
  | some sub =>
    obtain ⟨v, -, -, hv⟩ := exists_of_sub? hall hsub
    simp [hv, v.resolution_ne_notRequested]

/-- What the sub-query of a role admits was picked for it. -/
theorem isPicked_of_admits (role : Role) (hall : vs.map (·.toSite) = q.walk)
    (hsub : q.sub? role = some sub) {a : Atom}
    (h : (resolutionAt vs [role]).Admits (some a.toInt)) : IsPicked vs role sub a := by
  obtain ⟨v, hv, hsite, hresolution⟩ := exists_of_sub? hall hsub
  refine ⟨v, hv, hsite, exists_picked_of_resolution ?_⟩
  rw [← hresolution]
  cases hr : resolutionAt vs [role] with
  | notRequested => exact absurd (hresolution.symm.trans hr) v.resolution_ne_notRequested
  | unresolved =>
    rw [hr] at h
    cases h
  | resolved b =>
    rw [hr] at h
    rw [Atom.toInt_injective (Option.some.inj h)]

/-- Without a sub-query for an actor or for media, no credit is joined. -/
theorem join_of_none (hall : vs.map (·.toSite) = q.walk) (hcast : q.cast = none)
    (hcredits : q.credits = none) : (resolutionsAt vs []).join = none := by
  have hnocast : (resolutionsAt vs []).cast = .notRequested := resolutionAt_of_none hall hcast
  have hnocredits : (resolutionsAt vs []).credits = .notRequested :=
    resolutionAt_of_none hall hcredits
  rw [Resolutions.join, if_neg (not_not_intro hnocast), if_neg (not_not_intro hnocredits)]

end Visit

/-! ### Credits and sub-queries -/

/-- A name is joined with a credit if and only if there is a sub-query for an actor or for media. -/
theorem Resolutions.isSome_of_joins {r : Resolutions} {c : Catalog} {n : NameRow}
    {credit : Option CreditRow} (h : r.Joins c n credit) :
    credit.isSome = true ↔ r.cast ≠ .notRequested ∨ r.credits ≠ .notRequested := by
  cases credit with
  | none => simp [h.1, h.2]
  | some k =>
    refine iff_of_true rfl ?_
    obtain ⟨-, hend⟩ := h
    split at hend
    · next hcast => exact .inl hcast
    · exact .inr hend.1

/-- With a sub-query for an actor, the name is that of the media of the credit. -/
theorem Resolutions.media_of_joins {r : Resolutions} {c : Catalog} {n : NameRow} {k : CreditRow}
    (h : r.Joins c n (some k)) (hcast : r.cast ≠ .notRequested) : k.media = n.atom := by
  have hend := h.2
  rwa [if_pos hcast] at hend

/-- Without one, it is that of the actor. -/
theorem Resolutions.actor_of_joins {r : Resolutions} {c : Catalog} {n : NameRow} {k : CreditRow}
    (h : r.Joins c n (some k)) (hcast : r.cast = .notRequested) : k.actor = n.atom := by
  have hend := h.2
  rw [if_neg (not_not_intro hcast)] at hend
  exact hend.2

namespace Hit

/-- The credit of a hit is as a query asks for, given the visits of its sub-queries. -/
structure IsCredited (h : Hit ν) (q : Query ν) (vs : List (Visit ν)) : Prop where
  /-- There is one if and only if there is a sub-query for an actor or for media. -/
  isSome : h.credit.isSome = true ↔ q.cast.isSome = true ∨ q.credits.isSome = true
  /-- With a sub-query for an actor, it is a credit in the hit of the actor that was picked. -/
  cast : ∀ sub, q.cast = some sub →
    ∃ d, h.credit = some d ∧ d.media = h.id ∧ Visit.IsPicked vs .cast sub d.actor
  /-- With another one for media, the hit is what was picked for that. -/
  both : ∀ sub sub', q.cast = some sub → q.credits = some sub' →
    Visit.IsPicked vs .credits sub' h.id
  /-- With a sub-query for media alone, it is a credit of the hit in what was picked. -/
  credits : q.cast = none → ∀ sub, q.credits = some sub →
    ∃ d, h.credit = some d ∧ d.actor = h.id ∧ Visit.IsPicked vs .credits sub d.media
  /-- Its position is in the range of billing positions. -/
  billed : q.billed.Admits (h.credit.bind fun d => d.position.map fun n => (n.toNat : Int))

/-- What a query accepts is credited as it asks for. -/
theorem IsOf.isCredited [Score ν] {h : Hit ν} {n : NameRow} {credit : Option CreditRow}
    (ho : h.IsOf n credit) {q : Query ν} {vs : List (Visit ν)}
    (hall : vs.map (·.toSite) = q.walk) {fuzzyCapable : Bool} {c : Catalog}
    (hjoins : (Visit.resolutionsAt vs []).Joins c n credit)
    (haccepts : q.Accepts (Visit.resolutionsAt vs []) fuzzyCapable c n credit) :
    h.IsCredited q vs := by
  have hcast : (Visit.resolutionsAt vs []).cast ≠ .notRequested ↔ q.cast.isSome = true :=
    Visit.resolutionAt_ne_notRequested_iff hall
  have hcredits : (Visit.resolutionsAt vs []).credits ≠ .notRequested ↔ q.credits.isSome = true :=
    Visit.resolutionAt_ne_notRequested_iff hall
  have hsome := Resolutions.isSome_of_joins hjoins
  rw [hcast, hcredits] at hsome
  have hjoined : q.cast.isSome = true ∨ q.credits.isSome = true →
      ∃ k d, credit = some k ∧ h.credit = some d ∧ d.Describes k := by
    intro hsub
    obtain ⟨k, hk⟩ := Option.isSome_iff_exists.mp (hsome.mpr hsub)
    obtain ⟨d, hd, hdescribes⟩ := ho.exists_describes hk
    exact ⟨k, d, hk, hd, hdescribes⟩
  refine ⟨?isSome, ?cast, ?both, ?credits, ?billed⟩
  case isSome => rw [ho.isSome, hsome]
  case billed =>
    rw [ho.position]
    exact haccepts.billed
  case cast =>
    intro sub hsub
    have hplayed : q.cast.isSome = true := hsub ▸ rfl
    obtain ⟨k, d, rfl, hd, hdescribes⟩ := hjoined (.inl hplayed)
    have hmedia := Resolutions.media_of_joins hjoins (hcast.mpr hplayed)
    refine ⟨d, hd, Atom.toInt_injective ?_, Visit.isPicked_of_admits .cast hall hsub ?_⟩
    · rw [hdescribes.media, hmedia, ho.id]
    · rw [hdescribes.actor]
      exact haccepts.cast
  case both =>
    intro sub sub' hsub hsub'
    have hplayed : q.cast.isSome = true := hsub ▸ rfl
    obtain ⟨k, d, rfl, hd, hdescribes⟩ := hjoined (.inl hplayed)
    have hmedia := Resolutions.media_of_joins hjoins (hcast.mpr hplayed)
    refine Visit.isPicked_of_admits .credits hall hsub' ?_
    rw [ho.id, ← hmedia]
    exact haccepts.credits
  case credits =>
    intro hnocast sub hsub
    have hplayed : q.credits.isSome = true := hsub ▸ rfl
    obtain ⟨k, d, rfl, hd, hdescribes⟩ := hjoined (.inr hplayed)
    have hactor := Resolutions.actor_of_joins hjoins (Visit.resolutionAt_of_none hall hnocast)
    refine ⟨d, hd, Atom.toInt_injective ?_, Visit.isPicked_of_admits .credits hall hsub ?_⟩
    · rw [hdescribes.actor, hactor, ho.id]
    · rw [hdescribes.media]
      exact haccepts.credits

end Hit

namespace Query

/-- The hits of a compiled query are credited as the query asks for, and told apart by their
keys. -/
theorem isCredited_of_hits [Score ν] {q : Query ν} {vs : List (Visit ν)}
    (hall : vs.map (·.toSite) = q.walk) {fuzzyCapable : Bool} {engine : Engine ν} {c : Catalog}
    {hits : List (Hit ν)}
    (h : (q.compile (Visit.resolutionsAt vs []) fuzzyCapable).hits engine c = .ok hits) :
    (∀ hit ∈ hits, hit.IsCredited q vs) ∧ (hits.map Hit.creditKey).Nodup := by
  obtain ⟨pairs, hnodup, hmem, hof⟩ := exists_isOf_of_hits h
  have hcredited : List.Forall₂ (fun _ hit => hit.IsCredited q vs) pairs hits :=
    ((List.forall₂_and_left _ _).mpr ⟨hmem, hof⟩).imp fun p hit ⟨⟨_, hjoins, haccepts⟩, ho⟩ =>
      ho.isCredited hall hjoins haccepts
  exact ⟨forall_mem_of_forall₂ hcredited, nodup_creditKey hof hnodup fun p hp =>
    ⟨(hmem p hp).1, Resolutions.mem_of_joins (hmem p hp).2.1⟩⟩

/-- A range that restricts billing positions is void where no credit is joined. -/
theorem isVoid_of_billed {r : Range} (hr : r ≠ {}) (i : Nat) :
    ((Piece.range .position r : Piece ν).condition i).isVoid none = true := by
  obtain ⟨low, high⟩ := r
  cases low <;> cases high <;> first | rfl | exact absurd rfl hr

/-- Without credits nothing is found in a restricted range of billing positions. -/
theorem hits_of_billed [Score ν] {q : Query ν} (hbilled : q.billed ≠ {}) {r : Resolutions}
    (hjoin : r.join = none) (fuzzyCapable : Bool) (engine : Engine ν) (c : Catalog) :
    (q.compile r fuzzyCapable).hits engine c =
      if q.Crowded fuzzyCapable then .error (.database .tooManyTerms) else .ok [] := by
  have hpiece : Piece.range .position q.billed ∈ Piece.ofQuery q r := by simp [Piece.ofQuery]
  obtain ⟨i, hi⟩ := Piece.exists_mem_conditions hpiece
    (1 + (Piece.name (Strategy.ofQuery q fuzzyCapable) q).values.length)
  have hcondition : (Piece.range .position q.billed : Piece ν).condition i ∈
      (q.compile r fuzzyCapable).conditions :=
    List.mem_append_left _ (List.mem_cons_of_mem _ hi)
  exact hits_compile_of_isVoid hcondition (hjoin ▸ isVoid_of_billed hbilled i)

/-- **Credits.** Whoever chooses, the hits of a search are credited as the query asks for, by the
visits of its sub-queries, and they are told apart by the atom and the ends and the character of the
credit. Without a sub-query for an actor or for media nothing is found in a restricted range of
billing positions, whatever else the query asks for. -/
theorem isCredited_search [Score ν] (s : Store ν) (choose : Chooser σ ν) (q : Query ν)
    (memory : σ) :
    let prepared := (q.prepare s).hold choose memory
    let searched := (q.search s).hold choose memory
    ∃ vs : List (Visit ν),
      IsTranscript s choose q.goodThreshold q.walk memory vs searched.questions searched.memory ∧
      (∀ hits, searched.result = .ok hits →
        (∀ hit ∈ hits, hit.IsCredited q vs) ∧ (hits.map Hit.creditKey).Nodup) ∧
      (q.billed ≠ {} → q.cast = none → q.credits = none →
        searched.result = prepared.result.bind fun _ =>
          if q.Crowded s.fuzzy then .error (.database .tooManyTerms) else .ok []) := by
  intro prepared searched
  obtain ⟨vs, htranscript, hends⟩ :=
    follows_prepareWithin s choose q.goodThreshold q false memory
  have hsearched : searched =
      ⟨prepared.result.bind fun statement => statement.hits s.engine s.catalog, prepared.memory,
        prepared.questions⟩ := hold_searchWithin q false memory
  have hprepared : (q.prepareWithin s q.goodThreshold false).hold choose memory = prepared := rfl
  rw [hprepared] at htranscript hends
  rw [hsearched]
  refine ⟨vs, htranscript, fun hits hhits => ?_, fun hbilled hcast hcredits => ?_⟩
  · obtain ⟨statement, hresult, hhits⟩ := exists_of_bind_eq_ok hhits
    rw [hresult] at hends
    cases hends with
    | complete hall hvs hstatement =>
    subst hstatement
    exact isCredited_of_hits hall hhits
  · cases hresult : prepared.result with
    | error e => rfl
    | ok statement =>
      rw [hresult] at hends
      cases hends with
      | complete hall hvs hstatement =>
      subst hstatement
      exact hits_of_billed hbilled (Visit.join_of_none hall hcast hcredits) s.fuzzy s.engine
        s.catalog

/-- The movies in which an actor is billed: one of the two credits of the actor is found. -/
theorem isCredited_search_tangled :
    let s : Store := { catalog := .tangled, fuzzy := true }
    let q : Query := { empty with cast := some (empty.entity .actor), billed := .atLeast 1 }
    ∃ vs hits, ((q.search s).hold .first ()).result = .ok hits ∧
      hits.map (·.credit.map (·.character)) = [some "Hanna".toList] ∧
      (∀ hit ∈ hits, hit.IsCredited q vs) ∧ (hits.map Hit.creditKey).Nodup := by
  intro s q
  have hcharacters : ((q.search s).hold .first ()).result.toOption.map
      (·.map (·.credit.map (·.character))) = some [some "Hanna".toList] := by
    decide +kernel
  obtain ⟨vs, -, hcredited, -⟩ := isCredited_search s .first q ()
  cases hresult : ((q.search s).hold .first ()).result with
  | error e =>
    rw [hresult] at hcharacters
    cases hcharacters
  | ok hits =>
    rw [hresult] at hcharacters
    exact ⟨vs, hits, rfl, Option.some.inj hcharacters, hcredited hits hresult⟩

end Query

end Filmography
