import Filmography.Proofs.Search.Found
import Filmography.Proofs.Search.SortOrder

/-!
# The ranking of hits

The hits of a compiled query come in the order of its sort keys, and a limit cuts the list after it
was sorted. So whatever a limit leaves out does not precede what it keeps. Where names are compared
by similarity, that is the first key, whatever sort keys a query has of its own, and the first hit
is as similar as any: the pick among the candidates of a sub-query rests on it.

Nothing is assumed of the catalogue but that its rows decode.

* `Query.Ranks`: how the pairs that are returned stand to all that a query accepts;
* `Query.exists_decoded_of_hits`: the hits are decoded from such pairs, whatever a catalogue holds;
* `Query.exists_ranks_of_hits`: the hits of a search are ranked.
-/

namespace Filmography

/-! ### Limits -/

namespace Statement

/-- A limit keeps the start of a list. -/
theorem exists_cut_eq_take {α : Type} (limit : Option Int) (l : List α) :
    ∃ k, cut limit l = l.take k := by
  cases limit with
  | none => exact ⟨l.length, (List.take_length ..).symm⟩
  | some n =>
    rw [cut]
    split
    · exact ⟨l.length, (List.take_length ..).symm⟩
    · exact ⟨n.toNat, rfl⟩

theorem cut_map {α β : Type} (f : α → β) (limit : Option Int) (l : List α) :
    cut limit (l.map f) = (cut limit l).map f := by
  cases limit with
  | none => rfl
  | some n =>
    rw [cut, cut]
    split
    · rfl
    · rw [List.map_take]

end Statement

/-- A limit that fits into 63 bits is a count. -/
theorem toInt_toInt64 {n : UInt64} (h : n.toNat < 2 ^ 63) : n.toInt64.toInt = n.toNat := by
  have hbits : n.toInt64.toInt = n.toBitVec.toInt := rfl
  rw [hbits, BitVec.toInt_eq_toNat_of_lt]
  · rfl
  · have hnat : n.toBitVec.toNat = n.toNat := rfl
    omega

/-- A greater one is negative. -/
theorem toInt_toInt64_neg {n : UInt64} (h : ¬n.toNat < 2 ^ 63) : n.toInt64.toInt < 0 := by
  have hbits : n.toInt64.toInt = n.toBitVec.toInt := rfl
  have hnat : n.toBitVec.toNat = n.toNat := rfl
  have hlt : n.toNat < 2 ^ 64 := n.toNat_lt
  rw [hbits, BitVec.toInt_eq_toNat_cond, hnat, if_neg (by omega)]
  omega

/-! ### Rankings -/

namespace Query

variable {ν : Type}

/-- A pair of a name and a joined credit precedes another by the sort keys of a query. -/
def Precedes (q : Query ν) (fuzzyCapable : Bool) (c : Catalog)
    (p p' : NameRow × Option CreditRow) : Prop :=
  SortKey.Precedes (q.keys fuzzyCapable) (c.sortCell (q.measured? fuzzyCapable) p.1 p.2)
    (c.sortCell (q.measured? fuzzyCapable) p'.1 p'.2)

/-- How the pairs that a search returns, in order, stand to all that the query accepts. -/
structure Ranks [Score ν] (q : Query ν) (r : Resolutions) (fuzzyCapable : Bool) (c : Catalog)
    (accepted returned : List (NameRow × Option CreditRow)) : Prop where
  /-- The pairs that are accepted are those of a name and a joined credit that satisfy all
  conditions of the query. -/
  mem_accepted : ∀ n credit, (n, credit) ∈ accepted ↔
    n ∈ c.names.rows ∧ r.Joins c n credit ∧ q.Accepts r fuzzyCapable c n credit
  /-- Each is counted once. -/
  nodup_accepted : accepted.Nodup
  /-- What is returned was accepted. -/
  subset : returned ⊆ accepted
  /-- It is returned once. -/
  nodup : returned.Nodup
  /-- It is in order. -/
  ordered : returned.Pairwise fun p p' => ¬q.Precedes fuzzyCapable c p' p
  /-- What is left out does not precede what is returned. -/
  best : ∀ p ∈ accepted, p ∉ returned → ∀ p' ∈ returned, ¬q.Precedes fuzzyCapable c p p'
  /-- Without a limit, or with one beyond 63 bits, everything is returned. -/
  unlimited : (∀ n, q.limit = some n → ¬n.toNat < 2 ^ 63) → accepted ⊆ returned
  /-- With a limit, as much is returned as it allows and as there is. -/
  limited : ∀ n, q.limit = some n → n.toNat < 2 ^ 63 →
    returned.length = min n.toNat accepted.length

/-- The limit of a compiled query is that of the query, read as a signed number. -/
theorem limit_compile (q : Query ν) (r : Resolutions) (fuzzyCapable : Bool) :
    (q.compile r fuzzyCapable).limit? = q.limit.map (·.toInt64.toInt) := by
  rw [Statement.limit?]
  cases hlimit : q.limit with
  | none => simp [compile, hlimit]
  | some n =>
    -- the limit is the last of the parameters
    have hlast := Value.lookup?_append_cons
      ((Piece.name (Strategy.ofQuery q fuzzyCapable) q).values ++
        (Piece.ofQuery q r).flatMap Piece.values) (limitValue n) []
    simp only [compile, hlimit, Option.map_some, Option.bind_some, Option.toList_some,
      List.map_singleton]
    rw [Value.integer?, hlast]
    rfl

variable [Score ν] {q : Query ν} {r : Resolutions} {fuzzyCapable : Bool} {engine : Engine ν}
  {c : Catalog}

/-- The rows of a compiled query are those of ranked pairs. -/
theorem exists_ranks (q : Query ν) (r : Resolutions) (fuzzyCapable : Bool) (engine : Engine ν)
    (c : Catalog) :
    ∃ accepted returned, q.Ranks r fuzzyCapable c accepted returned ∧
      (q.compile r fuzzyCapable).rows engine c =
        returned.map fun p => (q.compile r fuzzyCapable).row (c.joinedName p.1 p.2) := by
  let s := q.compile r fuzzyCapable
  let limit := q.limit.map (·.toInt64.toInt)
  have hrow (p : NameRow × Option CreditRow) : s.row (c.joinedName p.1 p.2) =
      SortKey.rowOf c (q.measured? fuzzyCapable) p.1 p.2 := row_compile ..
  obtain ⟨accepted, hnodup, hmem, hsorted⟩ := exists_pairs_of_perm (s.perm_sorted engine c)
  -- sorted rows are in order, and so are their pairs
  have hordered : accepted.Pairwise fun p p' => ¬q.Precedes fuzzyCapable c p' p := by
    have hrows := SortKey.pairwise_mergeSort s.order (engine.arrange s c (s.matching c))
    rw [hsorted, List.pairwise_map, order_compile] at hrows
    refine hrows.imp_of_mem fun {p p'} hp hp' hnot => ?_
    have hkind {p : NameRow × Option CreditRow} (hp : p ∈ accepted) :
        ∃ k, c.has k p.1.atom = true := by
      obtain ⟨k, -, hk⟩ := ((hmem p.1 p.2).mp hp).2.2.kind
      exact ⟨k, hk⟩
    rwa [hrow, hrow, Ne,
      SortKey.compareAll_rowOf_eq_lt_iff _ _ _ _ (hkind hp') (hkind hp)] at hnot
  obtain ⟨k, hk⟩ := Statement.exists_cut_eq_take limit accepted
  refine ⟨accepted, Statement.cut limit accepted, ?_, ?_⟩
  · have hsplit := hordered
    rw [← List.take_append_drop k accepted] at hsplit
    exact {
      mem_accepted := hmem
      nodup_accepted := hnodup
      subset := hk ▸ List.take_subset k accepted
      nodup := hk ▸ hnodup.sublist (List.take_sublist k accepted)
      ordered := hk ▸ hordered.sublist (List.take_sublist k accepted)
      best := by
        rw [hk]
        intro p hp hout p' hp'
        rw [← List.take_append_drop k accepted, List.mem_append] at hp
        exact (List.pairwise_append.mp hsplit).2.2 p' hp' p (hp.resolve_left hout)
      unlimited := by
        intro hlarge
        have hall : Statement.cut limit accepted = accepted := by
          cases hlimit : q.limit with
          | none => simp [limit, hlimit, Statement.cut]
          | some n => simp [limit, hlimit, Statement.cut, toInt_toInt64_neg (hlarge n hlimit)]
        exact fun p hp => hall.symm ▸ hp
      limited := by
        intro n hlimit hn
        have hnonneg : ¬(n.toNat : Int) < 0 := by omega
        simp [limit, hlimit, Statement.cut, toInt_toInt64 hn, hnonneg] }
  · rw [Statement.rows, limit_compile, hsorted, Statement.cut_map]

omit [Score ν] in
/-- A pair that is more similar to the text precedes one that is less similar. -/
theorem precedes_of_similarity_lt {t : Text} (ht : q.measured? fuzzyCapable = some t)
    {p p' : NameRow × Option CreditRow}
    (h : similarity p'.1.name t < similarity p.1.name t) : q.Precedes fuzzyCapable c p p' := by
  rw [Precedes, keys, ht]
  exact .inl h

/-- The first of the ranked pairs is as similar to the text as any that is accepted. -/
theorem Ranks.first_most_similar {accepted returned : List (NameRow × Option CreditRow)}
    (h : q.Ranks r fuzzyCapable c accepted returned) {t : Text}
    (ht : q.measured? fuzzyCapable = some t) (hlimit : q.limit ≠ some 0) (hne : accepted ≠ []) :
    ∃ first rest, returned = first :: rest ∧
      ∀ p ∈ accepted, similarity p.1.name t ≤ similarity first.1.name t := by
  have hreturned : returned ≠ [] := by
    rintro rfl
    have hpos : 0 < accepted.length := List.length_pos_of_ne_nil hne
    by_cases hsmall : ∃ n, q.limit = some n ∧ n.toNat < 2 ^ 63
    · obtain ⟨n, hn, hlt⟩ := hsmall
      have hlength := h.limited n hn hlt
      have hzero : n.toNat ≠ 0 :=
        fun h0 => hlimit (hn.trans (congrArg some (UInt64.toNat_inj.mp h0)))
      simp only [List.length_nil] at hlength
      omega
    · have hall := h.unlimited fun n hn hlt => hsmall ⟨n, hn, hlt⟩
      exact hne (List.subset_nil.mp hall)
  obtain ⟨first, rest, rfl⟩ := List.exists_cons_of_ne_nil hreturned
  refine ⟨first, rest, rfl, fun p hp => ?_⟩
  by_contra hlt
  have hbefore := precedes_of_similarity_lt (c := c) ht (not_le.mp hlt)
  by_cases hmem : p ∈ first :: rest
  · rcases List.mem_cons.mp hmem with rfl | hmem
    · exact hlt le_rfl
    · exact (List.pairwise_cons.mp h.ordered).1 p hmem hbefore
  · exact h.best p hp hmem first (List.mem_cons_self ..) hbefore

/-- The hits of a compiled query are, one by one, what the rows of ranked pairs are read as. -/
theorem exists_decoded_of_hits {hits : List (Hit ν)}
    (h : (q.compile r fuzzyCapable).hits engine c = .ok hits) :
    ∃ accepted returned, q.Ranks r fuzzyCapable c accepted returned ∧
      List.Forall₂ (fun p hit => Row.decode ⟨c.joinedName p.1 p.2,
          (q.measured? fuzzyCapable).map fun t => similarity p.1.name t⟩ = .ok hit ∧
        hit.Describes c (q.measured? fuzzyCapable) p.1 p.2) returned hits := by
  obtain ⟨accepted, returned, hranks, hrows⟩ := exists_ranks q r fuzzyCapable engine c
  refine ⟨accepted, returned, hranks, ?_⟩
  rw [Statement.hits] at h
  split at h
  · cases h
  · rw [hrows, List.mapM_map] at h
    refine forall₂_of_mapM_eq_ok (fun p hp hit hdecode => ?_) h
    obtain ⟨k, -, hk⟩ := ((hranks.mem_accepted p.1 p.2).mp (hranks.subset hp)).2.2.kind
    rw [Function.comp_apply, row_compile] at hdecode
    exact ⟨hdecode, Row.describes_of_decode ⟨k, hk⟩ hdecode⟩

/-- **Ranking.** Whatever a catalogue holds, the hits of a compiled query describe the pairs that
the query accepts, or as many as a limit allows, in the order of its sort keys; and where names are
compared by similarity, the first hit is as similar as any. -/
theorem exists_ranks_of_hits {hits : List (Hit ν)}
    (h : (q.compile r fuzzyCapable).hits engine c = .ok hits) :
    ∃ accepted returned, q.Ranks r fuzzyCapable c accepted returned ∧
      List.Forall₂ (fun p hit => hit.Describes c (q.measured? fuzzyCapable) p.1 p.2) returned hits ∧
      ∀ t, q.measured? fuzzyCapable = some t → q.limit ≠ some 0 → accepted ≠ [] →
        ∃ first rest, returned = first :: rest ∧
          ∀ p ∈ accepted, similarity p.1.name t ≤ similarity first.1.name t := by
  obtain ⟨accepted, returned, hranks, hdecoded⟩ := exists_decoded_of_hits h
  exact ⟨accepted, returned, hranks, hdecoded.imp fun p hit hp => hp.2, fun t ht hlimit hne =>
    hranks.first_most_similar ht hlimit hne⟩

/-- The best match of a text, whatever has the most votes. -/
theorem exists_ranks_of_hits_tangled :
    let q : Query := { empty.text "pilot".toList with sorts := [⟨.votes, .desc⟩], limit := some 1 }
    ∃ hits, (q.compile {} true).hits .indexed .tangled = .ok hits ∧ hits.map (·.id.val) = [2] ∧
      ∃ accepted returned, q.Ranks {} true .tangled accepted returned ∧
        List.Forall₂ (fun p hit => hit.Describes .tangled (some "pilot".toList) p.1 p.2)
          returned hits ∧
        ∃ first rest, returned = first :: rest ∧ ∀ p ∈ accepted,
          similarity p.1.name "pilot".toList ≤ similarity first.1.name "pilot".toList := by
  intro q
  have hids : (((q.compile {} true).hits .indexed .tangled).toOption.getD []).map (·.id.val) =
      [2] := by
    decide +kernel
  generalize hresult : (q.compile {} true).hits .indexed .tangled = result at hids ⊢
  cases result with
  | error e => cases hids
  | ok hits =>
    obtain ⟨accepted, returned, hranks, hdescribe, hfirst⟩ := exists_ranks_of_hits hresult
    refine ⟨hits, rfl, hids, accepted, returned, hranks, hdescribe, hfirst _ rfl ?_ ?_⟩
    · decide
    · rintro rfl
      cases List.subset_nil.mp hranks.subset
      cases hdescribe
      cases hids

end Query

end Filmography
