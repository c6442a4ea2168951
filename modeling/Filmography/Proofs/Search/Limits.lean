import Filmography.Search.Engine
import Filmography.Proofs.Search.Acceptance

/-!
# What engines refuse

Two limits keep an engine from running a compiled query. An order of more than 2000 terms is refused
whatever a catalogue holds. A pattern of more than 50000 bytes is refused where a name is compared
with it. Nothing is said here of the names with which an engine starts, so such a pattern may be
refused or not; but it is refused by any engine if there is something that the query would accept
without its text, and by none if a condition is void.

Nothing else is refused.

* `Query.Exceeds`: the limits that a query exceeds;
* `Query.exceeds_of_fault?`: an engine refuses a compiled query for one of them only;
* `Query.hits_compile_of_crowded`, `Query.fault?_of_overlong`, `Statement.hits_of_isVoid`: what any
  engine does.
-/

namespace Filmography

theorem Condition.isPattern_of_isTooLong {ν : Type} {params : List (Value ν)} {k : Condition}
    (h : k.isTooLong params = true) : k.isPattern = true := by
  cases k with
  | nameLike => rfl
  | _ => cases h

/-! ### Void conditions -/

namespace Statement

variable {ν : Type} [Score ν] {s : Statement ν} {engine : Engine ν} {c : Catalog} {k : Condition}

theorem fault?_eq_none_of_hits {hits : List (Hit ν)} (h : s.hits engine c = .ok hits) :
    s.fault? engine c = none := by
  rw [Statement.hits] at h
  split at h
  · cases h
  · assumption

theorem fault?_of_isVoid (hk : k ∈ s.conditions) (hvoid : k.isVoid s.join = true) :
    s.fault? engine c = if termLimit < s.order.length then some .tooManyTerms else none := by
  have hcompares : engine.compares s c = false := by
    by_contra hcompares
    rw [Bool.not_eq_false] at hcompares
    rw [engine.isVoid_of_compares hcompares k hk] at hvoid
    cases hvoid
  rw [fault?, hcompares, Bool.and_false]
  rfl

/-- Nothing is found by a statement with a void condition, and its order alone can be refused. -/
theorem hits_of_isVoid (hk : k ∈ s.conditions) (hvoid : k.isVoid s.join = true) :
    s.hits engine c =
      if termLimit < s.order.length then .error (.database .tooManyTerms) else .ok [] := by
  have hmatching : s.matching c = [] := by
    refine List.map_eq_nil_iff.mpr (List.filter_eq_nil_iff.mpr fun j hj hall => ?_)
    have hholds := List.all_eq_true.mp hall k hk
    rw [Condition.holds_of_isVoid hvoid hj] at hholds
    cases hholds
  have hrows : s.rows engine c = [] := by
    refine List.eq_nil_iff_forall_not_mem.mpr fun row hrow => ?_
    have hmem := mem_matching_of_mem_rows hrow
    rw [hmatching] at hmem
    cases hmem
  rw [hits, fault?_of_isVoid hk hvoid]
  split_ifs
  · rfl
  · rw [hrows]
    rfl

end Statement

/-! ### Compiled queries -/

namespace Query

variable {ν : Type} {q : Query ν} {r : Resolutions} {fuzzyCapable : Bool}

/-- The text with which a query compares names by similarity, if it does so. -/
def measured? (q : Query ν) (fuzzyCapable : Bool) : Option Text :=
  if q.fuzzy = true ∧ fuzzyCapable = true then q.name? else none

theorem name?_eq_none_iff : q.name? = none ↔ q.terms = [] := by
  rw [Criteria.name?]
  cases q.terms <;> simp

/-- Names are compared by similarity exactly if that is the strategy and there is a text. -/
theorem isSome_measured?_iff : (q.measured? fuzzyCapable).isSome = true ↔
    Strategy.ofQuery q fuzzyCapable = .similarity ∧ q.terms ≠ [] := by
  rw [measured?, Strategy.ofQuery_eq_similarity_iff]
  split
  · next hf => rw [Option.isSome_iff_ne_none, Ne, name?_eq_none_iff, and_iff_right hf]
  · next hf => exact iff_of_false Bool.false_ne_true fun h => hf h.1

/-- The sort keys by which the hits of a query are ranked: similarity, if names are compared by it,
and then its own. -/
def keys (q : Query ν) (fuzzyCapable : Bool) : List SortKey :=
  (if (q.measured? fuzzyCapable).isSome then [⟨.similarity, .desc⟩] else []) ++ q.sorts

/-- The order of a compiled query is that of its sort keys. -/
theorem order_compile (q : Query ν) (r : Resolutions) (fuzzyCapable : Bool) :
    (q.compile r fuzzyCapable).order = q.keys fuzzyCapable := by
  simp only [compile, keys, isSome_measured?_iff]

/-- A query has more than 2000 sort keys, similarity counted among them if names are compared by
it. -/
def Crowded (q : Query ν) (fuzzyCapable : Bool) : Prop :=
  2000 < (q.keys fuzzyCapable).length

instance : Decidable (q.Crowded fuzzyCapable) :=
  inferInstanceAs (Decidable (2000 < (q.keys fuzzyCapable).length))

/-- Similarity alone is not too much. -/
theorem not_crowded_of_sorts_eq_nil (h : q.sorts = []) : ¬q.Crowded fuzzyCapable := by
  rw [Crowded, keys, h, List.append_nil]
  split <;> decide

/-- The text of a query is a pattern of more than 50000 bytes. -/
def Overlong (q : Query ν) (fuzzyCapable : Bool) : Prop :=
  ¬(q.fuzzy = true ∧ fuzzyCapable = true) ∧ (q.hasWildcard = true ∨ q.ignoreCase = true) ∧
    ∃ t, q.name? = some t ∧ 50000 < Utf8.size t

/-- The limits of an engine that a query exceeds, by the faults in which that can show. -/
inductive Exceeds (q : Query ν) (fuzzyCapable : Bool) : DatabaseFault → Prop
  /-- Its order has too many terms. -/
  | terms (h : q.Crowded fuzzyCapable) : q.Exceeds fuzzyCapable .tooManyTerms
  /-- Its text is a pattern that is too long. -/
  | pattern (h : q.Overlong fuzzyCapable) : q.Exceeds fuzzyCapable .patternTooLong

/-- Whatever a statement asks of roles and ranges, it does so without patterns. -/
theorem isPattern_of_mem_others {k : Condition} (hk : k ∈ q.others r fuzzyCapable) :
    k.isPattern = false := by
  have hrole (column : Column) (res : Resolution) (i : Nat) :
      ((Piece.role column res : Piece ν).condition i).isPattern = false := by
    cases res <;> rfl
  have hrange (column : Column) (bounds : Range) (i : Nat) :
      ((Piece.range column bounds : Piece ν).condition i).isPattern = false := by
    obtain ⟨low, high⟩ := bounds
    cases low <;> cases high <;> rfl
  rw [others] at hk
  rcases List.mem_cons.mp hk with rfl | hk
  · rfl
  rcases List.mem_append.mp hk with hk | hk
  · refine Piece.forall_mem_conditions (P := (·.isPattern = false)) ?_ _ k hk
    simp [Piece.ofQuery, hrole, hrange]
  · simp only [List.mem_cons, List.not_mem_nil, or_false] at hk
    rcases hk with rfl | rfl
    all_goals split <;> rfl

/-- The text of a query is the value of the first placeholder. -/
theorem text?_compile {t : Text} (ht : q.name? = some t) :
    Value.text? (q.compile r fuzzyCapable).params 1 = some t := by
  cases hs : Strategy.ofQuery q fuzzyCapable <;>
    simp [compile, Piece.name, ht, hs, Value.text?, Value.lookup?]

/-- A compiled query compares names with a pattern that is too long exactly if its text is one. -/
theorem any_isTooLong_iff : (q.compile r fuzzyCapable).conditions.any
    (·.isTooLong (q.compile r fuzzyCapable).params) = true ↔ q.Overlong fuzzyCapable := by
  have hothers : ∀ k ∈ q.others r fuzzyCapable,
      ¬k.isTooLong (q.compile r fuzzyCapable).params = true := by
    intro k hk hlong
    have hpattern := Condition.isPattern_of_isTooLong hlong
    rw [isPattern_of_mem_others hk] at hpattern
    cases hpattern
  rw [conditions_eq_concat, List.any_append, List.any_eq_false.mpr hothers, Bool.false_or,
    List.any_cons, List.any_nil, Bool.or_false, Overlong, ← and_assoc,
    ← Strategy.ofQuery_eq_pattern_iff]
  cases ht : q.name? with
  | none => simp [Piece.name, ht, Condition.isTooLong]
  | some t =>
    cases hs : Strategy.ofQuery q fuzzyCapable with
    | exact => simp [Piece.name, ht, Condition.isTooLong]
    | similarity => simp [Piece.name, ht, Condition.isTooLong]
    | pattern =>
      simp only [Piece.name, ht, Condition.isTooLong, text?_compile ht, Option.any_some,
        decide_eq_true_eq, Option.some.injEq, exists_eq_left', true_and]
      rfl

variable [Score ν] {engine : Engine ν} {c : Catalog}

omit [Score ν] in
theorem termLimit_lt_iff :
    Statement.termLimit < (q.compile r fuzzyCapable).order.length ↔ q.Crowded fuzzyCapable := by
  rw [order_compile]
  rfl

/-- A compiled query is refused only for a limit that the query exceeds. -/
theorem exceeds_of_fault? {fault : DatabaseFault}
    (h : (q.compile r fuzzyCapable).fault? engine c = some fault) :
    q.Exceeds fuzzyCapable fault := by
  rw [Statement.fault?] at h
  split at h
  · next hterms =>
    cases h
    exact .terms (termLimit_lt_iff.mp hterms)
  · split at h
    · next hlong =>
      cases h
      exact .pattern (any_isTooLong_iff.mp (Bool.and_eq_true_iff.mp hlong).1)
    · cases h

theorem fault?_eq_none (h : ∀ fault, ¬q.Exceeds fuzzyCapable fault) :
    (q.compile r fuzzyCapable).fault? engine c = none :=
  Option.eq_none_iff_forall_ne_some.mpr fun fault hfault => h fault (exceeds_of_fault? hfault)

/-- An order of too many terms is refused, whatever a catalogue holds. -/
theorem fault?_of_crowded (h : q.Crowded fuzzyCapable) :
    (q.compile r fuzzyCapable).fault? engine c = some .tooManyTerms :=
  if_pos (termLimit_lt_iff.mpr h)

theorem hits_compile_of_crowded (h : q.Crowded fuzzyCapable) :
    (q.compile r fuzzyCapable).hits engine c = .error (.database .tooManyTerms) := by
  rw [Statement.hits, fault?_of_crowded h]

/-- Nothing is found if a condition is void, and the order alone can be refused. -/
theorem hits_compile_of_isVoid {k : Condition} (hk : k ∈ (q.compile r fuzzyCapable).conditions)
    (hvoid : k.isVoid r.join = true) : (q.compile r fuzzyCapable).hits engine c =
      if q.Crowded fuzzyCapable then .error (.database .tooManyTerms) else .ok [] := by
  rw [Statement.hits_of_isVoid hk hvoid]
  exact if_congr termLimit_lt_iff rfl rfl

/-- A pattern that is too long is refused if there is a pair of a name and a joined credit that the
query accepts without its text. -/
theorem fault?_of_overlong (hterms : ¬q.Crowded fuzzyCapable) (hlimit : q.limit = none)
    (hlong : q.Overlong fuzzyCapable) {n : NameRow} {credit : Option CreditRow}
    (hj : c.joinedName n credit ∈ c.joined r.join)
    (haccepts : Accepts { q with terms := [] } r fuzzyCapable c n credit) :
    (q.compile r fuzzyCapable).fault? engine c = some .patternTooLong := by
  have hcompares : engine.compares (q.compile r fuzzyCapable) c = true := by
    refine engine.compares_of_holds ?_ hj fun k hk => ?_
    · simp [Statement.limit?, compile, hlimit]
    · rw [conditions_eq_concat, List.mem_append, List.mem_singleton] at hk
      rcases hk with hk | rfl
      · exact .inr ((others_hold_iff q r fuzzyCapable c n credit).mpr haccepts k hk)
      · have hstrategy := Strategy.ofQuery_eq_pattern_iff.mpr ⟨hlong.1, hlong.2.1⟩
        obtain ⟨t, ht, -⟩ := hlong.2.2
        exact .inl (by simp [Piece.name, ht, hstrategy, Condition.isPattern])
  rw [Statement.fault?, if_neg (mt termLimit_lt_iff.mp hterms), any_isTooLong_iff.mpr hlong,
    hcompares]
  rfl

end Query

end Filmography
