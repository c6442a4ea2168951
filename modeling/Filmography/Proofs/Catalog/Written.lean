import Mathlib.Algebra.GroupWithZero.Nat
import Filmography.Catalog.Cells
import Filmography.Proofs.Catalog.Atomicity
import Filmography.Proofs.Data.Records

/-!
# Loading what was written

Records that are written to data files, one line for each under a header, are loaded into the tables
as they are. Of the records of a file with the same key the last one stays, because putting a row
replaces the one with its key. The name table is filled by four files one after the other, so of the
records of an entity it is the last one among all of them that names it.

* `lasts`: the members of a list that no later one replaces;
* `Table.perm_lasts`: what is in a table after rows were put into it;
* `Catalog.load_written`: what is in each table after loading what was written, and what is
  reported.
-/

namespace Filmography

/-! ### The last of each key -/

section

variable {α β κ μ : Type} [DecidableEq κ] [DecidableEq μ]

/-- The members of a list, without those that a later one with the same key replaces. -/
def lasts (key : α → κ) : List α → List α
  | [] => []
  | a :: as => if key a ∈ as.map key then lasts key as else a :: lasts key as

theorem lasts_sublist (key : α → κ) (as : List α) : (lasts key as).Sublist as := by
  induction as with
  | nil => exact .slnil
  | cons a as ih =>
    rw [lasts]
    split
    · exact ih.cons a
    · exact ih.cons_cons a

/-- A member stays if and only if no later one has its key. -/
theorem mem_lasts_iff {key : α → κ} {a : α} {as : List α} :
    a ∈ lasts key as ↔ ∃ before after, as = before ++ a :: after ∧ key a ∉ after.map key := by
  induction as with
  | nil => simp [lasts]
  | cons b as ih =>
    -- it is the first one, or it is a later one
    have hcons : (∃ before after, b :: as = before ++ a :: after ∧ key a ∉ after.map key) ↔
        (a = b ∧ key b ∉ as.map key) ∨ a ∈ lasts key as := by
      rw [ih]
      constructor
      · rintro ⟨before, after, hsplit, hlast⟩
        cases before with
        | nil =>
          cases hsplit
          exact .inl ⟨rfl, hlast⟩
        | cons c before =>
          obtain ⟨-, hsplit⟩ := List.cons.inj hsplit
          exact .inr ⟨before, after, hsplit, hlast⟩
      · rintro (⟨rfl, hlast⟩ | ⟨before, after, rfl, hlast⟩)
        · exact ⟨[], as, rfl, hlast⟩
        · exact ⟨b :: before, after, rfl, hlast⟩
    rw [hcons, lasts]
    split
    · next hlater => exact ⟨.inr, fun h => h.resolve_left fun hfirst => hfirst.2 hlater⟩
    · next hlast => simp [hlast]

theorem nodup_map_lasts (key : α → κ) (as : List α) : ((lasts key as).map key).Nodup := by
  induction as with
  | nil => exact List.nodup_nil
  | cons a as ih =>
    rw [lasts]
    split
    · exact ih
    · next hlast =>
      refine List.nodup_cons.mpr ⟨fun hmem => hlast ?_, ih⟩
      exact ((lasts_sublist key as).map key).subset hmem

/-- Members that are told apart in the same way stay in the same way. -/
theorem lasts_map {key : β → κ} {key' : α → μ} {g : α → β}
    (h : ∀ a b, key (g a) = key (g b) ↔ key' a = key' b) (as : List α) :
    lasts key (as.map g) = (lasts key' as).map g := by
  induction as with
  | nil => rfl
  | cons a as ih =>
    have hmem : key (g a) ∈ (as.map g).map key ↔ key' a ∈ as.map key' := by
      simp only [List.mem_map, exists_exists_and_eq_and, h]
    simp only [List.map_cons, lasts, hmem, ih]
    split <;> rfl

/-- After rows were put into the empty table, the last one of each key is in it. -/
theorem Table.perm_lasts {ρ : Type} {key : ρ → κ} (rs : List ρ) :
    ((empty : Table key).putAll rs).rows.Perm (lasts key rs) := by
  refine (List.perm_ext_iff_of_nodup ?_ ?_).mpr fun r => ?_
  · exact List.Nodup.of_map key (Table.distinct _)
  · exact List.Nodup.of_map key (nodup_map_lasts key rs)
  · have hfind : r ∈ ((empty : Table key).putAll rs).rows ↔
        rs.reverse.find? (fun s => decide (key s = key r)) = some r := by
      have hempty : (empty : Table key).find? (key r) = none := rfl
      have hputAll := find?_putAll (empty : Table key) rs (key r)
      rw [hempty, Option.or_none] at hputAll
      rw [← hputAll]
      exact ⟨find?_key, fun h => (List.mem_of_find?_eq_some h)⟩
    rw [hfind, mem_lasts_iff, List.find?_eq_some_iff_append]
    -- what is found first from the end is what no later one replaces
    constructor
    · rintro ⟨-, later, earlier, hsplit, hlast⟩
      refine ⟨earlier.reverse, later.reverse, ?_, by simpa [List.mem_map] using hlast⟩
      rw [← List.reverse_reverse rs, hsplit]
      simp
    · rintro ⟨before, after, rfl, hlast⟩
      refine ⟨by simp, after.reverse, before.reverse, by simp, ?_⟩
      simpa [List.mem_map] using hlast

end

/-! ### Records as rows -/

/-- A value as a cell of a table: what is unknown is nothing, and a truth value is a number. -/
def FieldType.cell : (type : FieldType) → type.Value → Cell
  | .atom, a => .integer a.toInt
  | .text, t => .text t
  | .number, n => .integer n.toNat
  | .optional, none => .null
  | .optional, some n => .integer n.toNat
  | .flag, b => .integer (if b then 1 else 0)

/-- The cells of a record. -/
def Values.cells : (fields : List Field) → Values fields → List Cell
  | [], _ => []
  | f :: fs, (v, vs) => f.type.cell v :: cells fs vs

namespace DataFile

/-- The table that is filled from a data file. -/
def table : DataFile → TableName
  | movies => .movie
  | tvshows => .tvshow
  | episodes => .episode
  | actors => .actor
  | ratings => .rating
  | credits => .credit

/-- What identifies a record: its atom, and for a credit the actor, the media and the character. -/
def key : (f : DataFile) → f.schema.Record → Atom × Option (Atom × Text)
  | movies, (atom, _) => (atom, none)
  | tvshows, (atom, _) => (atom, none)
  | episodes, (atom, _) => (atom, none)
  | actors, (atom, _) => (atom, none)
  | ratings, (atom, _) => (atom, none)
  | credits, (actor, media, character, _) => (actor, some (media, character))

/-- The names that the records of some data files give to entities, in the order in which they are
loaded. -/
def titles (records : (f : DataFile) → List f.schema.Record) : List (Atom × Text) :=
  (records movies).map (fun (atom, title, _) => (atom, title)) ++
    (records tvshows).map (fun (atom, title, _) => (atom, title)) ++
    (records episodes).map (fun (atom, _, title, _) => (atom, title)) ++
    (records actors).map (fun (atom, fullName, _) => (atom, fullName))

/-- Data files as records are written to them. -/
def written (path : DataFile → Text) (records : (f : DataFile) → List f.schema.Record)
    (f : DataFile) : Source :=
  ⟨path f, .ok ⟨f.schema.write (records f), none⟩⟩

theorem isWritable_schema (f : DataFile) : f.schema.IsWritable := by
  cases f <;> exact ⟨by decide, by decide, _, _, rfl, rfl, _, _, rfl, by decide⟩

/-- Records that fit their fields are read back from what they are written to. -/
theorem read_written (path : DataFile → Text) {records : (f : DataFile) → List f.schema.Record}
    {f : DataFile} (h : ∀ r ∈ records f, Values.Fit f.schema.fields r) :
    f.read (written path records f) = .ok (records f) := by
  simp only [read, written, Schema.read_write f.isWritable_schema h]
  rfl

end DataFile

namespace Catalog

/-- If all data files can be read, all of them are loaded. -/
theorem load_stops_of_read {sources : DataFile → Source}
    {records : (f : DataFile) → List f.schema.Record}
    (h : ∀ f : DataFile, f.read (sources f) = .ok (records f)) (c : Catalog) :
    (c.load sources).Stops c sources DataFile.all [] records := by
  have hrecords : ∀ f rs, f.read (sources f) = .ok rs → records f = rs := by
    intro f rs hread
    rw [h f] at hread
    exact Except.ok.inj hread
  obtain ⟨done, rest, hall, hstops⟩ := exists_loadFiles_stops sources records hrecords DataFile.all
  have hstops := hstops c
  cases rest with
  | nil =>
    rw [List.append_nil] at hall
    rw [← hall]
    exact hall ▸ hstops
  | cons f later =>
    -- a file that can be read does not fail
    obtain ⟨e, hfails, -⟩ := hstops.failure f later rfl
    have hread := DataFile.read_eq_error_iff.mpr hfails
    rw [h f] at hread
    cases hread

end Catalog

/-! ### Tables -/

/-- All records of some data files, in the order in which they are loaded. -/
def DataFile.entries (records : (f : DataFile) → List f.schema.Record) : List Entry :=
  all.flatMap fun f => (records f).map (Sigma.mk f)

/-- A table that only the records of one file have rows for gets the rows of these. -/
theorem DataFile.filterMap_entries {ρ : Type} {row? : Entry → Option ρ} {f : DataFile}
    {ofRecord : f.schema.Record → ρ} (hrow : ∀ r, row? ⟨f, r⟩ = some (ofRecord r))
    (hother : ∀ g r, g ≠ f → row? ⟨g, r⟩ = none) (records : (f : DataFile) → List f.schema.Record) :
    (entries records).filterMap row? = (records f).map ofRecord := by
  have hfile : ∀ g, ((records g).map (Sigma.mk g)).filterMap row? =
      if h : g = f then (records f).map ofRecord else [] := by
    intro g
    rw [List.filterMap_map]
    by_cases h : g = f
    · subst h
      rw [dif_pos rfl, ← List.filterMap_eq_map]
      exact List.filterMap_congr fun r _ => hrow r
    · rw [dif_neg h]
      exact List.filterMap_eq_nil_iff.mpr fun r _ => hother g r h
  rw [entries, List.filterMap_flatMap]
  simp only [hfile]
  cases f <;> simp [all]

/-- The cells of a table into which rows were put are those of the last row of each key. -/
theorem Table.perm_cells {α ρ κ μ : Type} [DecidableEq κ] [DecidableEq μ] {key : ρ → κ}
    {key' : α → μ} {row : α → ρ} (hkey : ∀ a b, key (row a) = key (row b) ↔ key' a = key' b)
    (as : List α) (le : κ → κ → Bool) (cells : ρ → List Cell) :
    ((((empty : Table key).putAll (as.map row)).sorted le).map cells).Perm
      ((lasts key' as).map fun a => cells (row a)) := by
  have hrows : ((empty : Table key).putAll (as.map row)).rows.Perm (lasts key (as.map row)) :=
    Table.perm_lasts _
  rw [lasts_map hkey] at hrows
  have hsorted : (((empty : Table key).putAll (as.map row)).sorted le).Perm
      ((lasts key' as).map row) := (List.mergeSort_perm _ _).trans hrows
  have hcells := hsorted.map cells
  rwa [List.map_map] at hcells

namespace Catalog

/-- The catalogue with all records of some data files. -/
def entered (records : (f : DataFile) → List f.schema.Record) : Catalog :=
  empty.enterAll (DataFile.entries records)

variable (records : (f : DataFile) → List f.schema.Record)

/-- A table that is filled from one file holds the last record of each key. -/
theorem perm_cells_of_table {ρ κ : Type} [DecidableEq κ] {key : ρ → κ} (f : DataFile)
    {row? : Entry → Option ρ} {ofRecord : f.schema.Record → ρ} {cells : ρ → List Cell}
    {t : Table key} (ht : t = Table.empty.putAll ((DataFile.entries records).filterMap row?))
    (hrow : ∀ r, row? ⟨f, r⟩ = some (ofRecord r)) (hother : ∀ g r, g ≠ f → row? ⟨g, r⟩ = none)
    (hkey : ∀ r r', key (ofRecord r) = key (ofRecord r') ↔ f.key r = f.key r')
    (hcells : ∀ r, cells (ofRecord r) = Values.cells f.schema.fields r) (le : κ → κ → Bool) :
    ((t.sorted le).map cells).Perm
      ((lasts f.key (records f)).map (Values.cells f.schema.fields)) := by
  rw [ht, DataFile.filterMap_entries hrow hother, ← funext hcells]
  exact Table.perm_cells hkey (records f) le cells

/-- What is unknown is nothing, and what is known is a number. -/
theorem ofOption_storedWord (n : Option UInt32) :
    Cell.ofOption (n.map storedWord) = FieldType.cell .optional n := by
  cases n <;> rfl

theorem toInt_eq_iff_key {a b : Atom} :
    a.toInt = b.toInt ↔ (a, (none : Option (Atom × Text))) = (b, none) := by
  simp only [Atom.toInt_inj, Prod.mk.injEq, and_true]

/-- Each table that is filled from a file holds the last record of each key. -/
theorem perm_cells_entered (f : DataFile) : ((entered records).cells f.table).Perm
    ((lasts f.key (records f)).map (Values.cells f.schema.fields)) := by
  cases f with
  | movies =>
    refine perm_cells_of_table records .movies (movies_enterAll empty _) (fun _ => rfl) ?_
      (fun _ _ => toInt_eq_iff_key) ?_ atomLE
    · intro g r hg
      cases g <;> first | rfl | exact absurd rfl hg
    · rintro ⟨atom, title, year, sequence, tv, video, ⟨⟩⟩
      simp only [MovieRow.ofRecord, MovieRow.cells, Values.cells, ofOption_storedWord]
      rfl
  | tvshows =>
    refine perm_cells_of_table records .tvshows (tvshows_enterAll empty _) (fun _ => rfl) ?_
      (fun _ _ => toInt_eq_iff_key) ?_ atomLE
    · intro g r hg
      cases g <;> first | rfl | exact absurd rfl hg
    · rintro ⟨atom, title, year, sequence, yearStart, yearEnd, ⟨⟩⟩
      simp only [TvshowRow.ofRecord, TvshowRow.cells, Values.cells, ofOption_storedWord]
      rfl
  | episodes =>
    refine perm_cells_of_table records .episodes (episodes_enterAll empty _) (fun _ => rfl) ?_
      (fun _ _ => toInt_eq_iff_key) ?_ atomLE
    · intro g r hg
      cases g <;> first | rfl | exact absurd rfl hg
    · rintro ⟨atom, tvshow, title, year, season, number, ⟨⟩⟩
      simp only [EpisodeRow.ofRecord, EpisodeRow.cells, Values.cells, ofOption_storedWord]
      rfl
  | actors =>
    refine perm_cells_of_table records .actors (actors_enterAll empty _) (fun _ => rfl) ?_
      (fun _ _ => toInt_eq_iff_key) (fun _ => rfl) atomLE
    intro g r hg
    cases g <;> first | rfl | exact absurd rfl hg
  | ratings =>
    refine perm_cells_of_table records .ratings (ratings_enterAll empty _) (fun _ => rfl) ?_
      (fun _ _ => toInt_eq_iff_key) (fun _ => rfl) atomLE
    intro g r hg
    cases g <;> first | rfl | exact absurd rfl hg
  | credits =>
    refine perm_cells_of_table records .credits (credits_enterAll empty _) (fun _ => rfl) ?_ ?_ ?_
      CreditRow.keyLE
    · intro g r hg
      cases g <;> first | rfl | exact absurd rfl hg
    · rintro ⟨actor, media, character, position, attrs, ⟨⟩⟩
        ⟨actor', media', character', position', attrs', ⟨⟩⟩
      simp only [CreditRow.ofRecord, CreditRow.key, DataFile.key, Prod.mk.injEq, Option.some.injEq,
        Atom.toInt_inj]
    · rintro ⟨actor, media, character, position, attrs, ⟨⟩⟩
      simp only [CreditRow.ofRecord, CreditRow.cells, Values.cells, ofOption_storedWord]
      rfl

/-- The name table holds the last name of each entity. -/
theorem perm_cells_names : ((entered records).cells .name).Perm
    ((lasts Prod.fst (DataFile.titles records)).map fun n => [.integer n.1.toInt, .text n.2]) := by
  let row (n : Atom × Text) : NameRow := ⟨n.1.toInt, n.2⟩
  have hnames : (DataFile.entries records).filterMap Entry.name? =
      (DataFile.titles records).map row := by
    have hsome (f : DataFile) (name : f.schema.Record → Atom × Text)
        (h : ∀ r, Entry.name? ⟨f, r⟩ = some (row (name r))) :
        ((records f).map (Sigma.mk f)).filterMap Entry.name? = ((records f).map name).map row := by
      rw [List.filterMap_map, List.map_map, ← List.filterMap_eq_map]
      exact List.filterMap_congr fun r _ => h r
    have hnone (f : DataFile) (h : ∀ r, Entry.name? ⟨f, r⟩ = none) :
        ((records f).map (Sigma.mk f)).filterMap Entry.name? = [] := by
      rw [List.filterMap_map]
      exact List.filterMap_eq_nil_iff.mpr fun r _ => h r
    simp only [DataFile.entries, DataFile.all, DataFile.titles, List.flatMap_cons,
      List.flatMap_nil, List.filterMap_append, List.map_append, List.append_nil]
    rw [hsome .movies (fun (atom, title, _) => (atom, title)) fun _ => rfl,
      hsome .tvshows (fun (atom, title, _) => (atom, title)) fun _ => rfl,
      hsome .episodes (fun (atom, _, title, _) => (atom, title)) fun _ => rfl,
      hsome .actors (fun (atom, fullName, _) => (atom, fullName)) fun _ => rfl,
      hnone .ratings fun _ => rfl, hnone .credits fun _ => rfl]
    simp only [List.append_nil, List.append_assoc]
  have hcells : (entered records).cells .name =
      (((Table.empty : Table NameRow.atom).putAll ((DataFile.titles records).map row)).sorted
        atomLE).map NameRow.cells := by
    rw [← hnames]
    exact congrArg (fun t : Table NameRow.atom => (t.sorted atomLE).map NameRow.cells)
      (names_enterAll empty _)
  rw [hcells]
  have hkey : ∀ n n' : Atom × Text, (row n).atom = (row n').atom ↔ n.1 = n'.1 :=
    fun _ _ => Atom.toInt_inj
  exact Table.perm_cells hkey _ _ _

/-! ### Loading -/

/-- **Loading what was written.** Records whose texts have nothing in them that divides or ends a
row are written to data files and loaded into an empty store. Each table that is filled from one of
the files then holds the last record of each key, and the name table the last name of each entity.
The files are reported with the numbers of their records. Loading the same files again changes
nothing and reports the same. -/
theorem load_written (path : DataFile → Text) {records : (f : DataFile) → List f.schema.Record}
    (h : ∀ f, ∀ r ∈ records f, Values.Fit f.schema.fields r) :
    let l := empty.load (DataFile.written path records)
    l.error = none ∧
    (∀ f, l.count f = (records f).length) ∧
    l.total = (DataFile.all.map fun f => (records f).length).sum ∧
    (∀ f, (l.catalog.cells f.table).Perm
      ((lasts f.key (records f)).map (Values.cells f.schema.fields))) ∧
    (l.catalog.cells .name).Perm ((lasts Prod.fst (DataFile.titles records)).map
      fun n => [.integer n.1.toInt, .text n.2]) ∧
    l.catalog.load (DataFile.written path records) = l := by
  intro l
  have hread : ∀ f : DataFile, f.read (DataFile.written path records f) = .ok (records f) :=
    fun f => DataFile.read_written path (h f)
  have hstops := load_stops_of_read hread empty
  have hcatalog : l.catalog = entered records := by
    rw [hstops.catalog, putFiles_eq_enterAll]
    rfl
  refine ⟨hstops.success rfl, ?_, ?_, ?_, ?_, ?_⟩
  · intro f
    rw [Loading.count, hstops.loaded]
    cases f <;> simp [DataFile.all]
  · rw [Loading.total, hstops.loaded]
    simp [DataFile.all, Nat.add_assoc]
  · rw [hcatalog]
    exact perm_cells_entered records
  · rw [hcatalog]
    exact perm_cells_names records
  · obtain ⟨-, -, -, -, -, hagain⟩ := load_stops empty (DataFile.written path records)
    exact hagain

/-- A movie and the remake that replaces it, and a TV show that takes the name of the remake. -/
theorem load_written_replaced :
    let atom : Atom := ⟨1, by decide⟩
    let records (f : DataFile) : List f.schema.Record := match f with
      | .movies => [(atom, "Heat".toList, some 1986, [], false, true, ()),
          (atom, "Heat".toList, none, ['I'], true, false, ())]
      | .tvshows => [(atom, "Pilot".toList, some 1995, [], some 1995, none, ())]
      | _ => []
    let l := empty.load (DataFile.written DataFile.fileName records)
    (∀ f, ∀ r ∈ records f, Values.Fit f.schema.fields r) ∧ l.error = none ∧ l.total = 3 ∧
      l.catalog.cells .movie =
        [[.integer 1, .text "Heat".toList, .null, .text ['I'], .integer 1, .integer 0]] ∧
      l.catalog.cells .name = [[.integer 1, .text "Pilot".toList]] := by
  intro atom records l
  have hfit : ∀ f, ∀ r ∈ records f, Values.Fit f.schema.fields r := by
    intro f
    cases f <;> decide
  obtain ⟨herror, -, htotal, htables, hnames, -⟩ := load_written DataFile.fileName hfit
  exact ⟨hfit, herror, htotal, List.perm_singleton.mp (htables .movies),
    List.perm_singleton.mp hnames⟩

end Catalog

end Filmography
