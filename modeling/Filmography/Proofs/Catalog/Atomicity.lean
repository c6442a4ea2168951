import Filmography.Proofs.Catalog.Replay
import Filmography.Proofs.Results

/-!
# Loading is atomic, file by file

The records of a data file are written one at a time, and a fault can come after any number of them.
Since they are written in a transaction, a file is nevertheless loaded as a whole or not at all:
what comes of it depends on nothing but `DataFile.read`, which reads the file before anything is
written. Loading ends at the first file that fails, with the files before it, and loading again ends
in the same way and changes nothing.

A file that breaks off before its header ends does not fail. What keeps it from being read goes
unnoticed, and it counts as a file without records.

* `DataFile.read_eq_error_iff`: a file fails if it cannot be opened, if a row makes no record, or if
  it breaks off after its header, and in no other way;
* `DataFile.read_eq_ok_iff`: what a file yields if it does not fail;
* `Catalog.loadFile_eq`: a file is loaded as a whole or not at all;
* `Catalog.load_stops`: what loading comes to, the first time and every time after it.
-/

namespace Filmography

/-! ### Reading a file as a whole -/

namespace DataFile

/-- Read all records of a data file. -/
def read (f : DataFile) (source : Source) : Except Error (List f.schema.Record) :=
  match source.content with
  | .error fault => .error (.file source.path (.system fault))
  | .ok stream => (f.schema.read stream).mapError (.data source.path)

/-- The records that a data file yields. Its rows are compared with the header, but nothing else is:
a header that names no field will do if there are no rows. -/
inductive Yields (f : DataFile) (source : Source) : List f.schema.Record → Prop
  /-- It is read to its end, and every row makes a record. -/
  | whole {stream : Stream} {header : Delimited.Row} {rows : List Delimited.Row}
      {records : List f.schema.Record} (hcontent : source.content = .ok stream)
      (hrows : Delimited.rows stream = header :: rows)
      (hrecords : rows.mapM (f.schema.readRow header) = .ok records)
      (hfault : stream.fault = none) : Yields f source records
  /-- It is read to its end, and there is nothing in it. -/
  | blank {stream : Stream} (hcontent : source.content = .ok stream)
      (hrows : Delimited.rows stream = []) (hfault : stream.fault = none) : Yields f source []
  /-- It breaks off before its header ends, and nobody is told. -/
  | headless {stream : Stream} {fault : StreamFault} (hcontent : source.content = .ok stream)
      (hrows : Delimited.rows stream = []) (hfault : stream.fault = some fault) :
      Yields f source []

/-- What keeps a data file from being read. The rows are those of the file without its header. -/
inductive Fails (f : DataFile) (source : Source) : Error → Prop
  /-- It is missing, or cannot be opened for another reason. -/
  | unopened {fault : SystemFault} (hcontent : source.content = .error fault) :
      Fails f source (.file source.path (.system fault))
  /-- A row makes no record, after any number of rows that do. -/
  | row {stream : Stream} {header row : Delimited.Row} {before after : List Delimited.Row}
      {records : List f.schema.Record} {fault : DataFault}
      (hcontent : source.content = .ok stream)
      (hrows : Delimited.rows stream = header :: (before ++ row :: after))
      (hbefore : before.mapM (f.schema.readRow header) = .ok records)
      (hrow : f.schema.readRow header row = .error fault) :
      Fails f source (.data source.path fault)
  /-- All rows make records, but then the file breaks off. -/
  | brokenOff {stream : Stream} {header : Delimited.Row} {rows : List Delimited.Row}
      {records : List f.schema.Record} {fault : StreamFault}
      (hcontent : source.content = .ok stream)
      (hrows : Delimited.rows stream = header :: rows)
      (hrecords : rows.mapM (f.schema.readRow header) = .ok records)
      (hfault : stream.fault = some fault) :
      Fails f source (.data source.path (.stream fault))

end DataFile

namespace Schema

variable {s : Schema} {stream : Stream}

theorem read_of_rows_eq_nil (h : Delimited.rows stream = []) : s.read stream = .ok [] := by
  rw [read, h]

theorem read_of_rows_eq_cons {header : Delimited.Row} {rows : List Delimited.Row}
    (h : Delimited.rows stream = header :: rows) :
    s.read stream = (rows.mapM (s.readRow header)).bind fun records =>
      match stream.fault with
      | none => .ok records
      | some fault => .error (.stream fault) := by
  rw [read, h]
  rfl

end Schema

namespace DataFile

variable {f : DataFile} {source : Source} {records : List f.schema.Record} {e : Error}

/-- A data file fails or yields records. -/
theorem fails_or_yields (f : DataFile) (source : Source) :
    (∃ e, f.Fails source e) ∨ ∃ records, f.Yields source records := by
  cases hcontent : source.content with
  | error fault => exact .inl ⟨_, .unopened hcontent⟩
  | ok stream =>
    cases hrows : Delimited.rows stream with
    | nil =>
      cases hfault : stream.fault with
      | none => exact .inr ⟨[], .blank hcontent hrows hfault⟩
      | some fault => exact .inr ⟨[], .headless hcontent hrows hfault⟩
    | cons header rows =>
      cases hrecords : rows.mapM (f.schema.readRow header) with
      | error fault =>
        obtain ⟨before, row, after, records, rfl, hbefore, hrow⟩ := mapM_eq_error_iff.mp hrecords
        exact .inl ⟨_, .row hcontent hrows hbefore hrow⟩
      | ok records =>
        cases hfault : stream.fault with
        | none => exact .inr ⟨records, .whole hcontent hrows hrecords hfault⟩
        | some fault => exact .inl ⟨_, .brokenOff hcontent hrows hrecords hfault⟩

theorem Fails.read_eq (h : f.Fails source e) : f.read source = .error e := by
  cases h with
  | unopened hcontent => rw [read, hcontent]
  | @row stream header row before after records fault hcontent hrows hbefore hrow =>
    have hall : (before ++ row :: after).mapM (f.schema.readRow header) = .error fault :=
      mapM_eq_error_iff.mpr ⟨before, row, after, records, rfl, hbefore, hrow⟩
    simp only [read, hcontent, Schema.read_of_rows_eq_cons hrows, hall]
    rfl
  | brokenOff hcontent hrows hrecords hfault =>
    simp only [read, hcontent, Schema.read_of_rows_eq_cons hrows, hrecords, Except.bind, hfault]
    rfl

theorem Yields.read_eq (h : f.Yields source records) : f.read source = .ok records := by
  cases h with
  | whole hcontent hrows hrecords hfault =>
    simp only [read, hcontent, Schema.read_of_rows_eq_cons hrows, hrecords, Except.bind, hfault]
    rfl
  | blank hcontent hrows | headless hcontent hrows =>
    simp only [read, hcontent, Schema.read_of_rows_eq_nil hrows]
    rfl

/-- A data file cannot be read exactly if it fails in one of three ways. -/
theorem read_eq_error_iff : f.read source = .error e ↔ f.Fails source e := by
  refine ⟨fun h => ?_, Fails.read_eq⟩
  obtain ⟨e', hfails⟩ | ⟨records, hyields⟩ := f.fails_or_yields source
  · rw [hfails.read_eq] at h
    cases h
    exact hfails
  · rw [hyields.read_eq] at h
    cases h

/-- What a data file yields if it does not fail. -/
theorem read_eq_ok_iff : f.read source = .ok records ↔ f.Yields source records := by
  refine ⟨fun h => ?_, Yields.read_eq⟩
  obtain ⟨e, hfails⟩ | ⟨records', hyields⟩ := f.fails_or_yields source
  · rw [hfails.read_eq] at h
    cases h
  · rw [hyields.read_eq] at h
    cases h
    exact hyields

end DataFile

/-! ### Transactions -/

namespace Transaction

/-- The transaction with records of a data file written, the first record first. -/
def insertAll (t : Transaction) (f : DataFile) (records : List f.schema.Record) : Transaction :=
  ⟨t.start, t.written.putAll f records, t.count + records.length⟩

/-- Rows that make records are written, and then the rows after them. -/
theorem insertRows_append {f : DataFile} {header : Delimited.Row} {before : List Delimited.Row}
    {records : List f.schema.Record} (h : before.mapM (f.schema.readRow header) = .ok records)
    (rest : List Delimited.Row) (t : Transaction) :
    insertRows f header (before ++ rest) t = insertRows f header rest (t.insertAll f records) := by
  induction before generalizing records t with
  | nil =>
    cases h
    rfl
  | cons row before ih =>
    cases hrow : f.schema.readRow header row with
    | error fault =>
      rw [List.mapM_cons, hrow] at h
      cases h
    | ok r =>
      cases hbefore : before.mapM (f.schema.readRow header) with
      | error fault =>
        rw [List.mapM_cons, hrow, hbefore] at h
        cases h
      | ok rs =>
        rw [List.mapM_cons, hrow, hbefore] at h
        cases h
        have hinsert : (t.insert f r).insertAll f rs = t.insertAll f (r :: rs) := by
          simp only [insertAll, insert, Catalog.putAll, List.foldl_cons, List.length_cons]
          rw [Nat.add_assoc, Nat.add_comm 1]
        rw [List.cons_append, insertRows, hrow]
        simp only
        rw [ih hbefore, hinsert]

/-- Writing the records of a stream either writes all of them, or stops with some of them written.
In either case it remembers where it started. -/
theorem insertStream_spec (t : Transaction) (f : DataFile) (stream : Stream) :
    match f.schema.read stream with
    | .ok records => t.insertStream f stream = (t.insertAll f records, none)
    | .error fault => ∃ records, t.insertStream f stream = (t.insertAll f records, some fault) := by
  cases hrows : Delimited.rows stream with
  | nil =>
    rw [Schema.read_of_rows_eq_nil hrows]
    simp only [insertStream, hrows]
    rfl
  | cons header rows =>
    rw [Schema.read_of_rows_eq_cons hrows]
    simp only [insertStream, hrows]
    cases hrecords : rows.mapM (f.schema.readRow header) with
    | error fault =>
      obtain ⟨before, row, after, records, rfl, hbefore, hrow⟩ := mapM_eq_error_iff.mp hrecords
      refine ⟨records, ?_⟩
      rw [insertRows_append hbefore, insertRows, hrow]
    | ok records =>
      have hall : insertRows f header rows t = (t.insertAll f records, none) := by
        have h := insertRows_append hrecords [] t
        rwa [List.append_nil] at h
      cases hfault : stream.fault with
      | none => simp only [Except.bind, hall, Option.map_none]
      | some fault => exact ⟨records, by simp only [hall, Option.map_some]⟩

end Transaction

/-! ### Loading -/

namespace Catalog

/-- A data file is loaded as a whole, or nothing of it is. -/
theorem loadFile_eq (c : Catalog) (f : DataFile) (source : Source) :
    c.loadFile f source = match f.read source with
      | .ok records => (c.putAll f records, .ok records.length)
      | .error e => (c, .error e) := by
  cases hcontent : source.content with
  | error fault => simp only [loadFile, DataFile.read, hcontent]
  | ok stream =>
    have hspec := (Transaction.on c).insertStream_spec f stream
    simp only [loadFile, DataFile.read, hcontent]
    cases hread : f.schema.read stream with
    | ok records =>
      simp only [hread] at hspec
      rw [hspec]
      simp [Except.mapError, Transaction.commit, Transaction.insertAll, Transaction.on]
    | error fault =>
      simp only [hread] at hspec
      obtain ⟨records, hspec⟩ := hspec
      rw [hspec]
      rfl

/-- The catalogue with all records of some data files, one file after the other. -/
def putFiles (c : Catalog) (records : (f : DataFile) → List f.schema.Record)
    (fs : List DataFile) : Catalog :=
  fs.foldl (fun c f => c.putAll f (records f)) c

theorem putFiles_eq_enterAll (c : Catalog) (records : (f : DataFile) → List f.schema.Record)
    (fs : List DataFile) :
    c.putFiles records fs = c.enterAll (fs.flatMap fun f => (records f).map (Sigma.mk f)) := by
  simp only [putFiles, enterAll, List.foldl_flatMap, List.foldl_map]
  rfl

/-- Putting the records of the same files again changes nothing. -/
theorem putFiles_putFiles (c : Catalog) (records : (f : DataFile) → List f.schema.Record)
    (fs : List DataFile) : (c.putFiles records fs).putFiles records fs = c.putFiles records fs := by
  rw [putFiles_eq_enterAll, putFiles_eq_enterAll, enterAll_enterAll]

end Catalog

/-- What loading comes to, if certain files are loaded and the rest are not. -/
structure Loading.Stops (l : Loading) (c : Catalog) (sources : DataFile → Source)
    (done rest : List DataFile) (records : (f : DataFile) → List f.schema.Record) : Prop where
  /-- The files that are loaded do not fail, and yield their records. -/
  yields : ∀ f ∈ done, f.Yields (sources f) (records f)
  /-- The catalogue has all records of these files, and is otherwise as before. -/
  catalog : l.catalog = c.putFiles records done
  /-- These files are reported, each with the count of its records. -/
  loaded : l.loaded = done.map fun f => ⟨f, (sources f).path, (records f).length⟩
  /-- If no file is left, there is no error. -/
  success : rest = [] → l.error = none
  /-- If files are left, the first of them fails, and why it does is the error. -/
  failure : ∀ f later, rest = f :: later → ∃ e, f.Fails (sources f) e ∧ l.error = some e

/-- Two loadings that stop at the same file are the same if their catalogues are. -/
theorem Loading.Stops.eq {l l' : Loading} {c c' : Catalog} {sources : DataFile → Source}
    {done rest : List DataFile} {records : (f : DataFile) → List f.schema.Record}
    (h : l.Stops c sources done rest records) (h' : l'.Stops c' sources done rest records)
    (hcatalog : l.catalog = l'.catalog) : l = l' := by
  have hloaded : l.loaded = l'.loaded := h.loaded.trans h'.loaded.symm
  have herror : l.error = l'.error := by
    cases hrest : rest with
    | nil => exact (h.success hrest).trans (h'.success hrest).symm
    | cons f later =>
      obtain ⟨e, he, hl⟩ := h.failure f later hrest
      obtain ⟨e', he', hl'⟩ := h'.failure f later hrest
      -- a file fails in one way only
      have hread := DataFile.read_eq_error_iff.mpr he
      rw [DataFile.read_eq_error_iff.mpr he'] at hread
      cases hread
      exact hl.trans hl'.symm
  cases l
  cases l'
  cases hcatalog
  cases hloaded
  cases herror
  rfl

namespace Catalog

/-- Which files are loaded, and what comes of it, does not depend on the catalogue. -/
theorem exists_loadFiles_stops (sources : DataFile → Source)
    (records : (f : DataFile) → List f.schema.Record)
    (hrecords : ∀ f rs, f.read (sources f) = .ok rs → records f = rs) (fs : List DataFile) :
    ∃ done rest, done ++ rest = fs ∧
      ∀ c, (loadFiles sources fs c).Stops c sources done rest records := by
  induction fs with
  | nil => exact ⟨[], [], rfl, fun c => ⟨by simp, rfl, rfl, fun _ => rfl, by simp⟩⟩
  | cons f fs ih =>
    cases hread : f.read (sources f) with
    | error e =>
      refine ⟨[], f :: fs, rfl, fun c => ?_⟩
      have hload : loadFiles sources (f :: fs) c = ⟨c, [], some e⟩ := by
        simp only [loadFiles, loadFile_eq, hread]
      rw [hload]
      refine ⟨by simp, rfl, rfl, by simp, ?_⟩
      rintro g later ⟨⟩
      exact ⟨e, DataFile.read_eq_error_iff.mp hread, rfl⟩
    | ok rs =>
      obtain rfl := hrecords f rs hread
      obtain ⟨done, rest, rfl, hstops⟩ := ih
      refine ⟨f :: done, rest, rfl, fun c => ?_⟩
      obtain ⟨hyields, hcatalog, hloaded, hsuccess, hfailure⟩ :=
        hstops (c.putAll f (records f))
      have hload : loadFiles sources (f :: (done ++ rest)) c =
          { loadFiles sources (done ++ rest) (c.putAll f (records f)) with
            loaded := ⟨f, (sources f).path, (records f).length⟩ ::
              (loadFiles sources (done ++ rest) (c.putAll f (records f))).loaded } := by
        rw [loadFiles, loadFile_eq, hread]
      rw [hload]
      refine ⟨List.forall_mem_cons.mpr ⟨DataFile.read_eq_ok_iff.mp hread, hyields⟩, hcatalog, ?_,
        hsuccess, hfailure⟩
      simp only [hloaded, List.map_cons]

/-- Where loading stops depends on nothing but the data files. -/
theorem exists_load_stops (sources : DataFile → Source) :
    ∃ done rest records, done ++ rest = DataFile.all ∧
      ∀ c : Catalog, (c.load sources).Stops c sources done rest records := by
  let records (f : DataFile) : List f.schema.Record := (f.read (sources f)).toOption.getD []
  have hrecords : ∀ f rs, f.read (sources f) = .ok rs → records f = rs := fun f rs h => by
    simp [records, h, Except.toOption]
  obtain ⟨done, rest, hall, hstops⟩ := exists_loadFiles_stops sources records hrecords DataFile.all
  exact ⟨done, rest, records, hall, hstops⟩

/-- **Atomicity.** Loading tries the data files in order. Those before the first one that fails are
loaded with all their records, and nothing of that one or of a later one is; if none fails, all are
loaded. Loading once more comes to the same and leaves the catalogue as it is. A file that breaks
off in its header does not fail: it is loaded with no records. -/
theorem load_stops (c : Catalog) (sources : DataFile → Source) :
    ∃ done rest records, done ++ rest = DataFile.all ∧
      (c.load sources).Stops c sources done rest records ∧
      (c.load sources).catalog.load sources = c.load sources := by
  obtain ⟨done, rest, records, hall, hstops⟩ := exists_load_stops sources
  have hagain := hstops (c.load sources).catalog
  refine ⟨done, rest, records, hall, hstops c, hagain.eq (hstops c) ?_⟩
  -- the files before the one at which loading stops change nothing a second time
  rw [hagain.catalog, (hstops c).catalog, putFiles_putFiles]

end Catalog

end Filmography
