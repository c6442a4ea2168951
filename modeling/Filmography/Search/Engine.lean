import Filmography.Search.Statement

/-!
# Engines

A statement says which rows are wanted and in which order, and leaves two things to the engine that
runs it. Rows that no sort key tells apart may come in any order. And a pattern that is longer than
the engine takes is noticed only where a name is compared with it; which names are compared before
the other conditions on a row have been settled is up to the engine.

An `Engine` is one way to settle both, within what any engine does. It compares no name where a
condition is void, and it cannot do without comparing where a row meets all other conditions.
Searches are defined for an engine, and nothing is said here of how it goes about.

An order of more terms than an engine takes is refused before any row is looked at.

* `Statement.fault?`: what keeps an engine from running a statement;
* `Statement.hits`: the hits that a statement yields;
* `Engine.indexed`: an engine that finds rows by what sub-queries stand for.
-/

namespace Filmography

/-- How an engine settles what a statement leaves open. -/
structure Engine (ν : Type := Float) [Score ν] where
  /-- Whether it compares any name with a pattern as it goes through a catalogue. -/
  compares : Statement ν → Catalog → Bool
  /-- It compares none where a condition is void. -/
  isVoid_of_compares {s : Statement ν} {c : Catalog} : compares s c = true →
    ∀ k ∈ s.conditions, k.isVoid s.join = false
  /-- It compares some where rows are wanted and one meets all other conditions. -/
  compares_of_holds {s : Statement ν} {c : Catalog} {j : Joined} : s.limit? ≠ some 0 →
    j ∈ c.joined s.join → (∀ k ∈ s.conditions, k.isPattern = true ∨ k.holds s.params j = true) →
    compares s c = true
  /-- The order in which it finds rows. -/
  arrange : Statement ν → Catalog → List Row → List Row
  /-- No row is lost or found twice. -/
  arrange_perm (s : Statement ν) (c : Catalog) (rows : List Row) : (arrange s c rows).Perm rows

namespace Statement

variable {ν : Type} [Score ν]

/-- The greatest count of terms of an order. -/
def termLimit : Nat := 2000

/-- What keeps an engine from running a statement over a catalogue. -/
def fault? (s : Statement ν) (engine : Engine ν) (c : Catalog) : Option DatabaseFault :=
  if termLimit < s.order.length then some .tooManyTerms
  else if s.conditions.any (·.isTooLong s.params) && engine.compares s c then some .patternTooLong
  else none

/-- The rows that a statement yields, in order. What no sort key tells apart stays in the order in
which it is found. -/
def rows (s : Statement ν) (engine : Engine ν) (c : Catalog) : List Row :=
  cut s.limit? ((engine.arrange s c (s.matching c)).mergeSort fun a b =>
    (SortKey.compareAll s.order a b).isLE)

/-- The hits that a statement yields, in order. -/
def hits (s : Statement ν) (engine : Engine ν) (c : Catalog) : Except Error (List (Hit ν)) :=
  match s.fault? engine c with
  | some fault => .error (.database fault)
  | none => (s.rows engine c).mapM Row.decode

/-- The sorted rows are those that match, in some order. -/
theorem perm_sorted (s : Statement ν) (engine : Engine ν) (c : Catalog) :
    ((engine.arrange s c (s.matching c)).mergeSort fun a b =>
      (SortKey.compareAll s.order a b).isLE).Perm (s.matching c) :=
  (List.mergeSort_perm _ _).trans (engine.arrange_perm s c _)

/-- A row is yielded only if it matches. -/
theorem mem_matching_of_mem_rows {s : Statement ν} {engine : Engine ν} {c : Catalog} {row : Row}
    (h : row ∈ s.rows engine c) : row ∈ s.matching c :=
  (s.perm_sorted engine c).mem_iff.mp (mem_of_mem_cut h)

end Statement

/-! ### An engine -/

/-- Put a row before the first one with a greater atom. -/
def Row.place (row : Row) : List Row → List Row
  | [] => [row]
  | r :: rows =>
    if row.joined.name.atom ≤ r.joined.name.atom then row :: r :: rows else r :: row.place rows

theorem Row.place_perm (row : Row) (rows : List Row) : (row.place rows).Perm (row :: rows) := by
  induction rows with
  | nil => exact .refl _
  | cons r rows ih =>
    rw [place]
    split
    · exact .refl _
    · exact (ih.cons r).trans (.swap row r rows)

/-- Whether rows can be found by a condition: it asks for what a sub-query stands for, or it is
void. -/
def Condition.isIndexed (join : Option CreditEnd) : Condition → Bool
  | equal .. => true
  | k => k.isVoid join

theorem Condition.isIndexed_of_isVoid {join : Option CreditEnd} (k : Condition)
    (h : k.isVoid join = true) : k.isIndexed join = true := by
  cases k with
  | equal => rfl
  | _ => exact h

namespace Engine

variable {ν : Type} [Score ν]

/-- An engine that finds rows by what sub-queries stand for, compares their names before it goes on,
and goes by their atoms. -/
def indexed : Engine ν where
  compares s c := s.limit? != some 0 && (c.joined s.join).any fun j =>
    s.conditions.all fun k => !k.isIndexed s.join || k.holds s.params j
  isVoid_of_compares := by
    intro s c h k hk
    obtain ⟨-, h⟩ := Bool.and_eq_true_iff.mp h
    obtain ⟨j, hj, hall⟩ := List.any_eq_true.mp h
    cases hvoid : k.isVoid s.join with
    | false => rfl
    | true =>
      have hholds := List.all_eq_true.mp hall k hk
      rw [k.isIndexed_of_isVoid hvoid, Condition.holds_of_isVoid hvoid hj] at hholds
      cases hholds
  compares_of_holds := by
    intro s c j hlimit hj hall
    refine Bool.and_eq_true_iff.mpr ⟨bne_iff_ne.mpr hlimit, List.any_eq_true.mpr ⟨j, hj, ?_⟩⟩
    refine List.all_eq_true.mpr fun k hk => ?_
    rcases hall k hk with hpattern | hholds
    · cases k with
      | nameLike => rfl
      | _ => cases hpattern
    · rw [hholds, Bool.or_true]
  arrange _ _ rows := rows.foldr Row.place []
  arrange_perm s c rows := by
    induction rows with
    | nil => exact .refl _
    | cons row rows ih => exact (Row.place_perm row _).trans (ih.cons row)

end Engine

end Filmography
