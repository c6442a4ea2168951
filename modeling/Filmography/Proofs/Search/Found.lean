import Filmography.Proofs.Search.Meaning

/-!
# What a search can find

A compiled query may have a limit, and then it yields some of the rows that it would yield without
one. Each row is still that of a pair of a name and a joined credit that the query accepts, and in a
catalogue in bounds each decodes.

* `Query.exists_of_mem_rows`: a row is that of an accepted pair, whatever the limit;
* `Query.exists_hits_compile`: in a catalogue in bounds the hits are there and each describes an
  accepted pair, unless the statement is refused.
-/

namespace Filmography

namespace Statement

variable {ν : Type} [Score ν] {s : Statement ν}

/-- A row that a statement yields is that of a joined name of which all conditions hold. -/
theorem exists_of_mem_rows {engine : Engine ν} {c : Catalog} {row : Row}
    (h : row ∈ s.rows engine c) :
    ∃ j ∈ c.joined s.join, (∀ k ∈ s.conditions, k.holds s.params j = true) ∧ row = s.row j := by
  obtain ⟨j, hj, rfl⟩ := List.mem_map.mp (mem_matching_of_mem_rows h)
  obtain ⟨hjoined, hholds⟩ := List.mem_filter.mp hj
  exact ⟨j, hjoined, List.all_eq_true.mp hholds, rfl⟩

/-- Without sort keys rows stay in the order in which they are found. -/
theorem rows_of_order_eq_nil (h : s.order = []) (engine : Engine ν) (c : Catalog) :
    s.rows engine c = cut s.limit? (engine.arrange s c (s.matching c)) := by
  rw [rows, h, List.mergeSort_of_pairwise]
  exact List.pairwise_of_forall fun _ _ => rfl

end Statement

/-- If what is read satisfies a property one by one, all of it does. -/
theorem forall_mem_of_forall₂ {α β : Type} {P : β → Prop} {as : List α} {bs : List β}
    (h : List.Forall₂ (fun _ b => P b) as bs) : ∀ b ∈ bs, P b := by
  induction h with
  | nil => simp
  | cons hb _ ih => exact List.forall_mem_cons.mpr ⟨hb, ih⟩

/-- What is paired with a member of a list. -/
theorem exists_of_mem_forall₂ {α β : Type} {R : α → β → Prop} {as : List α} {bs : List β}
    (h : List.Forall₂ R as bs) {a : α} (ha : a ∈ as) : ∃ b ∈ bs, R a b := by
  induction h with
  | nil => cases ha
  | cons hab _ ih =>
    rcases List.mem_cons.mp ha with rfl | ha
    · exact ⟨_, List.mem_cons_self .., hab⟩
    · obtain ⟨b, hb, hr⟩ := ih ha
      exact ⟨b, List.mem_cons_of_mem _ hb, hr⟩

/-- A hit of a query stands for a pair of a name and a joined credit that the query accepts. -/
def Query.Finds {ν : Type} [Score ν] (q : Query ν) (r : Resolutions) (fuzzyCapable : Bool)
    (c : Catalog) (h : Hit ν) : Prop :=
  ∃ n ∈ c.names.rows, ∃ credit, r.Joins c n credit ∧ q.Accepts r fuzzyCapable c n credit ∧
    h.Describes c (q.measured? fuzzyCapable) n credit

namespace Query

variable {ν : Type} [Score ν] {q : Query ν} {r : Resolutions} {fuzzyCapable : Bool}
  {engine : Engine ν} {c : Catalog}

/-- A row of a compiled query is that of a pair that the query accepts. -/
theorem exists_of_mem_rows {row : Row} (h : row ∈ (q.compile r fuzzyCapable).rows engine c) :
    ∃ n ∈ c.names.rows, ∃ credit, r.Joins c n credit ∧ q.Accepts r fuzzyCapable c n credit ∧
      row = (q.compile r fuzzyCapable).row (c.joinedName n credit) := by
  obtain ⟨j, hj, hholds, rfl⟩ := Statement.exists_of_mem_rows h
  have hjoin : (q.compile r fuzzyCapable).join = r.join := rfl
  rw [hjoin, Catalog.joined_eq_map_pairs] at hj
  obtain ⟨⟨n, credit⟩, hpair, rfl⟩ := List.mem_map.mp hj
  obtain ⟨hn, hjoins⟩ := Catalog.mem_pairs.mp hpair
  exact ⟨n, hn, credit, hjoins, (conditions_hold_iff q r fuzzyCapable c n credit).mp hholds, rfl⟩

/-- In a catalogue in bounds every row of a compiled query decodes to a hit that the query finds. -/
theorem exists_decode (hc : c.InBounds) {row : Row}
    (h : row ∈ (q.compile r fuzzyCapable).rows engine c) :
    ∃ hit : Hit ν, row.decode = .ok hit ∧ q.Finds r fuzzyCapable c hit := by
  obtain ⟨n, hn, credit, hjoins, haccepts, rfl⟩ := exists_of_mem_rows h
  obtain ⟨k, -, hk⟩ := haccepts.kind
  obtain ⟨hit, hdecode, hdescribes⟩ : ∃ hit : Hit ν, _ ∧ _ :=
    Row.decode_joinedName hc hn (Resolutions.mem_of_joins hjoins) ⟨k, hk⟩ (q.measured? fuzzyCapable)
  rw [row_compile]
  exact ⟨hit, hdecode, n, hn, credit, hjoins, haccepts, hdescribes⟩

/-- **Decoding never fails.** In a catalogue in bounds a compiled query that is not refused yields
hits, and finds each of them. -/
theorem exists_hits_compile (hc : c.InBounds)
    (haccepted : (q.compile r fuzzyCapable).fault? engine c = none) :
    ∃ hits, (q.compile r fuzzyCapable).hits engine c = .ok hits ∧
      ∀ h ∈ hits, q.Finds r fuzzyCapable c h := by
  have hdecode : ∀ row ∈ (q.compile r fuzzyCapable).rows engine c,
      ∃ hit : Hit ν, row.decode = .ok hit ∧ q.Finds r fuzzyCapable c hit :=
    fun row hrow => exists_decode hc hrow
  obtain ⟨hits, hhits, hfound⟩ := mapM_eq_ok_of_forall hdecode
  refine ⟨hits, ?_, fun h hh => ?_⟩
  · rw [Statement.hits, haccepted]
    exact hhits
  · exact forall_mem_of_forall₂ hfound h hh

end Query

end Filmography
