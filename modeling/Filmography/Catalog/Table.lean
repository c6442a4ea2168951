/-!
# Keyed tables

A table is a list of rows of which no two have the same key. Putting a row into a table replaces
the row with its key where it stands, or appends the row if there is none.

* `Table.find?_put` says what is found after putting a row;
* `Table.mem_keys_put` says which keys a table has after putting a row;
* `Table.find?_erase` says what is found after erasing a row;
* `Table.erase_put` puts rows into a table from which others are erased.
-/

namespace Filmography

/-- Rows of type `ρ` of which no two have the same key. -/
structure Table {ρ κ : Type} (key : ρ → κ) where
  /-- The rows. -/
  rows : List ρ
  /-- Keys identify rows. -/
  distinct : (rows.map key).Nodup

namespace Table

variable {ρ κ : Type} [DecidableEq κ] {key : ρ → κ}

/-- The table without rows. -/
def empty : Table key := ⟨[], List.nodup_nil⟩

/-- The keys of a table. -/
def keys (t : Table key) : List κ :=
  t.rows.map key

/-- Replace the row with the same key, or append the row. -/
def upsert (key : ρ → κ) (r : ρ) : List ρ → List ρ
  | [] => [r]
  | s :: rows => if key s = key r then r :: rows else s :: upsert key r rows

theorem map_upsert (r : ρ) (rows : List ρ) :
    (upsert key r rows).map key =
      if key r ∈ rows.map key then rows.map key else rows.map key ++ [key r] := by
  induction rows with
  | nil => simp [upsert]
  | cons s rows ih =>
    rw [upsert]
    by_cases h : key s = key r
    · simp [h]
    · simp only [if_neg h, List.map_cons, ih, List.mem_cons, Ne.symm h, false_or]
      split <;> simp

theorem nodup_upsert (r : ρ) {rows : List ρ} (h : (rows.map key).Nodup) :
    ((upsert key r rows).map key).Nodup := by
  rw [map_upsert]
  split
  · exact h
  · next hr =>
    rw [List.nodup_append]
    exact ⟨h, by simp, fun a ha b hb => by simp at hb; rintro rfl; exact hr (hb ▸ ha)⟩

/-- The table with a row put into it. -/
def put (t : Table key) (r : ρ) : Table key :=
  ⟨upsert key r t.rows, nodup_upsert r t.distinct⟩

/-- The table without the row with the given key. -/
def erase (t : Table key) (k : κ) : Table key :=
  ⟨t.rows.filter fun r => key r ≠ k, t.distinct.sublist (List.filter_sublist.map key)⟩

/-- The row with the given key. -/
def find? (t : Table key) (k : κ) : Option ρ :=
  t.rows.find? fun r => key r = k

/-- The rows in the order of their keys. -/
def sorted (t : Table key) (le : κ → κ → Bool) : List ρ :=
  t.rows.mergeSort fun a b => le (key a) (key b)

/-! ### What is in a table after putting a row -/

/-- A table has the key of the row put into it, and all keys that it had. -/
theorem mem_keys_put {t : Table key} {r : ρ} {k : κ} :
    k ∈ (t.put r).keys ↔ k = key r ∨ k ∈ t.keys := by
  simp only [keys, put, map_upsert]
  split
  · next h => exact ⟨.inr, fun | .inl e => e ▸ h | .inr e => e⟩
  · simp [or_comm]

private theorem find?_upsert (r : ρ) (rows : List ρ) (k : κ) :
    (upsert key r rows).find? (fun s => key s = k) =
      if key r = k then some r else rows.find? fun s => key s = k := by
  induction rows with
  | nil => by_cases h : key r = k <;> simp [upsert, h]
  | cons s rows ih =>
    rw [upsert]
    by_cases hs : key s = key r
    · by_cases h : key r = k
      · simp [hs, h]
      · simp [hs, h]
    · rw [if_neg hs, List.find?_cons]
      by_cases h : key s = k
      · have : ¬key r = k := fun e => hs (h.trans e.symm)
        simp [h, this]
      · simp [h, ih]

/-- Looking up the key of the row last put finds that row, and any other key finds what it found
before. -/
theorem find?_put (t : Table key) (r : ρ) (k : κ) :
    (t.put r).find? k = if key r = k then some r else t.find? k :=
  find?_upsert r t.rows k

/-! ### What is in a table after erasing a row -/

/-- Looking up the key that was erased finds nothing, and any other key finds what it found
before. -/
theorem find?_erase (t : Table key) (k j : κ) :
    (t.erase k).find? j = if k = j then none else t.find? j := by
  rw [erase, find?, find?, List.find?_filter]
  by_cases h : k = j
  · rw [if_pos h, List.find?_eq_none]
    simp [h]
  · rw [if_neg h]
    congr 1
    funext r
    by_cases hr : key r = j
    · simp [hr, Ne.symm h]
    · simp [hr]

private theorem filter_upsert {r : ρ} {k : κ} (h : key r ≠ k) (rows : List ρ) :
    (upsert key r rows).filter (fun s => key s ≠ k) =
      upsert key r (rows.filter fun s => key s ≠ k) := by
  induction rows with
  | nil => simp [upsert, h]
  | cons s rows ih =>
    rw [upsert]
    by_cases hs : key s = key r
    · simp [upsert, hs, h]
    · rw [if_neg hs, List.filter_cons, List.filter_cons, ih]
      by_cases hk : key s = k
      · simp [hk]
      · simp [hk, upsert, hs]

/-- A row with another key may as well be put into the table after a key was erased. -/
theorem erase_put (t : Table key) {r : ρ} {k : κ} (h : key r ≠ k) :
    (t.put r).erase k = (t.erase k).put r := by
  rw [erase, put, put, mk.injEq]
  exact filter_upsert h t.rows

end Table

end Filmography
