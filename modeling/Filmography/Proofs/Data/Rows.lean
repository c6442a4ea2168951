import Filmography.Data.Delimited

/-!
# Rows of a data file

Row ends divide the bytes of a data file into lines, tabs divide a line into fields, and a row is a
line with something in it. So lines that are each ended by a line feed are the rows of a file, in
order, unless the first of them starts with a byte order mark.

* `Delimited.contents_linesFrom`, `Delimited.fields_eq_splitOn`: how bytes are divided;
* `Delimited.map_fields_rowsFrom`: the rows are the lines with something in them;
* `Delimited.map_fields_rows`: the rows of a file that was written line by line.
-/

namespace Filmography.Delimited

/-- Whether a byte ends a row. -/
def isRowEnd (b : UInt8) : Bool :=
  b = lineFeed ∨ b = carriageReturn

/-- Row ends divide bytes into the lines of a file, whatever the lines are counted from. -/
theorem contents_linesFrom (line byte : Nat) (bytes : Bytes) :
    (linesFrom line byte bytes).1 :: (linesFrom line byte bytes).2.map (·.content) =
      bytes.splitOnP isRowEnd := by
  induction bytes generalizing line byte with
  | nil => rfl
  | cons b rest ih =>
    rw [linesFrom, List.splitOnP_cons_eq_if_modifyHead]
    by_cases hb : b = lineFeed ∨ b = carriageReturn
    · have hend : isRowEnd b = true := decide_eq_true hb
      simp only [if_pos hb, if_pos hend, List.map_cons, ih]
    · have hend : ¬isRowEnd b = true := fun hend => hb (of_decide_eq_true hend)
      simp only [if_neg hb, if_neg hend]
      rw [← ih]
      rfl

/-- The lines of a file without a byte order mark. -/
theorem contents_lines {bytes : Bytes} (h : byteOrderMark.isPrefixOf bytes = false) :
    (lines bytes).map (·.content) = bytes.splitOnP isRowEnd := by
  simp only [lines, h, Bool.false_eq_true, if_false, List.drop_zero, List.map_cons]
  exact contents_linesFrom 1 0 bytes

/-- Tabs divide a line into its fields. -/
theorem fields_eq_splitOn (line : Bytes) : fields line = line.splitOn tab := by
  induction line with
  | nil => rfl
  | cons b rest ih =>
    rw [fields, List.splitOn, List.splitOnP_cons_eq_if_modifyHead, ih, List.splitOn]
    by_cases hb : b = tab
    · rw [if_pos hb, if_pos (beq_iff_eq.mpr hb)]
    · rw [if_neg hb, if_neg (mt beq_iff_eq.mp hb)]
      cases hrest : rest.splitOnP (· == tab) with
      | nil => exact absurd hrest (List.splitOnP_ne_nil _ _)
      | cons first others => rfl

/-- The rows are the lines with something in them. -/
theorem map_fields_rowsFrom (record : Nat) (pending : Option Line) (ls : List Line) :
    (rowsFrom record pending ls).map (·.fields) =
      ((ls.map (·.content)).filter fun content => content ≠ []).map fields := by
  induction ls generalizing record pending with
  | nil => rfl
  | cons l ls ih =>
    by_cases hl : l.content = []
    · simp [rowsFrom, hl, ih]
    · simp [rowsFrom, hl, ih]

/-- Lines with something in them, each ended by a line feed, are the rows of a file. -/
theorem map_fields_rows {ls : List Bytes} (hls : ∀ l ∈ ls, l ≠ [] ∧ ∀ b ∈ l, isRowEnd b = false)
    (hmark : byteOrderMark.isPrefixOf (ls.flatMap fun l => l ++ [lineFeed]) = false) :
    (rows ⟨ls.flatMap fun l => l ++ [lineFeed], none⟩).map (·.fields) = ls.map fields := by
  have hsplit : (ls.flatMap fun l => l ++ [lineFeed]).splitOnP isRowEnd = ls ++ [[]] := by
    clear hmark
    induction ls with
    | nil => rfl
    | cons l ls ih =>
      obtain ⟨hl, hrest⟩ := List.forall_mem_cons.mp hls
      rw [List.flatMap_cons, List.append_assoc, List.singleton_append,
        List.splitOnP_append_cons_of_forall_mem hl.2 lineFeed rfl, ih hrest]
      rfl
  have hkept : (ls ++ [[]]).filter (fun content : Bytes => content ≠ []) = ls := by
    rw [List.filter_append, List.filter_eq_self.mpr fun l hl => by simpa using (hls l hl).1]
    exact List.append_nil ls
  have hrows : rows ⟨ls.flatMap fun l => l ++ [lineFeed], none⟩ =
      rowsFrom 0 none (lines (ls.flatMap fun l => l ++ [lineFeed])) := rfl
  rw [hrows, map_fields_rowsFrom, contents_lines hmark, hsplit, hkept]

end Filmography.Delimited
