import Filmography.Proofs.Catalog.Atomicity
import Filmography.Proofs.Disk.Creating

/-!
# What operations do to the databases on a disk

A change through a handle concerns a single place, and creating a database concerns the places to
which the system and the engine are led. What is at other places stays, except that directories are
made where there was nothing.

* `Disk.database?_update`: the databases after one was changed;
* `Catalog.catalog_loadFiles`: loading enters the records of the data files before the first one
  that cannot be read;
* `Disk.Creation.database?`, `Disk.Creation.spec_of_ok`: what creating a database comes to at an
  ordinary path;
* `Disk.createDatabase_of_spares`: what it does not touch at any path;
* `Disk.createDatabase_of_ok`: which rows a database has that was created at any path.
-/

namespace Filmography

namespace Disk

open Filmography.Path

variable {d d' : Disk} {current : Place} {p : Path} {place q : Place}

/-! ### Changing a database -/

theorem place_ne_nil_of_database? {db : Database} (h : d.database? place = some db) :
    place ≠ [] := by
  rintro rfl
  cases h

/-- A change of a database concerns its place. -/
theorem alters_update (d : Disk) (h : Handle) (f : Database → Database) :
    Alters d (d.update h f) h.place := by
  rw [update]
  cases hdb : d.database? h.place with
  | none => exact .refl d h.place
  | some db =>
    refine (Alters.refl d h.place).put (place_ne_nil_of_database? hdb) ?_ _
    rw [database?_eq_some_iff.mp hdb]
    simp

/-- Where there is a database, a change applies to it. -/
theorem node?_update (d : Disk) (h : Handle) (f : Database → Database) :
    (d.update h f).node? h.place = match d.database? h.place with
      | some db => some (.database (f db))
      | none => d.node? h.place := by
  rw [update]
  cases hdb : d.database? h.place with
  | none => rfl
  | some db =>
    show (d.put h.place (.database (f db))).node? h.place = _
    rw [node?_put d (place_ne_nil_of_database? hdb), if_pos rfl]

theorem database?_update (d : Disk) (h : Handle) (f : Database → Database) (q : Place) :
    (d.update h f).database? q =
      if h.place = q then (d.database? q).map f else d.database? q := by
  split
  · rename_i hq
    subst hq
    rw [database?, node?_update]
    cases hdb : d.database? h.place with
    | some db => rfl
    | none => exact hdb
  · rename_i hq
    exact ((alters_update d h f).others q (Ne.symm hq)).database?

end Disk

/-! ### Loading -/

namespace Catalog

/-- The records of the data files before the first one that cannot be read. -/
def completeEntries (sources : DataFile → Source) : List DataFile → List Entry
  | [] => []
  | f :: fs =>
    match f.read (sources f) with
    | .error _ => []
    | .ok records => records.map (Sigma.mk f) ++ completeEntries sources fs

theorem putAll_eq_enterAll (c : Catalog) (f : DataFile) (records : List f.schema.Record) :
    c.putAll f records = c.enterAll (records.map (Sigma.mk f)) := by
  rw [putAll, enterAll, List.foldl_map]

theorem catalog_loadFiles (sources : DataFile → Source) (fs : List DataFile) (c : Catalog) :
    (loadFiles sources fs c).catalog = c.enterAll (completeEntries sources fs) := by
  induction fs generalizing c with
  | nil => rfl
  | cons f fs ih =>
    rw [loadFiles, loadFile_eq, completeEntries]
    cases f.read (sources f) with
    | error e => rfl
    | ok records =>
      show (loadFiles sources fs (c.putAll f records)).catalog = _
      rw [ih, putAll_eq_enterAll, enterAll, enterAll, enterAll, List.foldl_append]

end Catalog

namespace Disk

variable {d d' : Disk} {current : Place} {p : Path} {place q : Place}

/-! ### Creating a database at an ordinary path -/

/-- When the engine fails to put a database somewhere, it says so. -/
theorem exists_of_establish_eq_error {fuzzy : Bool} {e : Error}
    (h : (d.establish current p fuzzy).2 = .error e) : ∃ f, e = .database f := by
  rw [establish] at h
  split at h
  · exact ⟨_, (Except.error.inj h).symm⟩
  · dsimp only at h
    split at h
    · cases h
    · split at h
      · exact ⟨_, (Except.error.inj h).symm⟩
      · split at h
        · exact ⟨_, (Except.error.inj h).symm⟩
        · split at h
          · exact ⟨_, (Except.error.inj h).symm⟩
          · cases h

theorem node?_put_place (hp : p.IsOrdinary) (current : Place) (d : Disk) (n : Node) :
    (d.put (p.place current) n).node? (p.place current) = some n := by
  rw [node?_put d (place_ne_nil hp current), if_pos rfl]

/-- The system removes the database that was in its place, or creating fails at a file before that.
-/
theorem database?_clearWay (hp : p.IsOrdinary) (hproper : current.IsProper)
    (hcurrent : d.node? current = some .directory) (hnameable : (p.place current).IsNameable)
    (fuzzy : Bool) :
    (d.clearWay current p).1.database? (p.place current) =
      match (d.createDatabase current p fuzzy).2 with
      | .ok _ | .error (.database _) => none
      | .error _ => d.database? (p.place current) := by
  rcases clearWay_spec hp hproper hcurrent with
    ⟨d', path, f, hfurnishes, hclear⟩ | ⟨d', hclears, hclear⟩
  · rw [createDatabase, hclear]
    exact (hfurnishes _).database?
  · have hnone : d'.database? (p.place current) = none := by
      rw [Disk.database?, hclears.clear hnameable]
    rw [createDatabase, hclear]
    dsimp only
    rw [hnone]
    cases hestablish : (d'.establish current p fuzzy).2 with
    | ok h => rfl
    | error e =>
      obtain ⟨f, rfl⟩ := exists_of_establish_eq_error hestablish
      rfl

namespace Creation

variable {fuzzy : Bool} {r : Disk × Except Error Handle}

/-- In its place there is a new database, or none if the engine failed, or all is as before. -/
theorem database? (h : d.Creation current p fuzzy r) (hp : p.IsOrdinary)
    (hnameable : (p.place current).IsNameable) :
    r.1.database? (p.place current) = match r.2 with
      | .ok _ => some .new
      | .error (.database _) => none
      | .error _ => d.database? (p.place current) := by
  cases h with
  | blocked hfurnishes => exact (hfurnishes _).database?
  | refused hclears => rw [Disk.database?, hclears.clear hnameable]
  | spoiled => rw [Disk.database?, node?_put_place hp]
  | created => rw [Disk.database?, node?_put_place hp]

/-- A file that is not a database is left only if there is no room for a journal. -/
theorem file (h : d.Creation current p fuzzy r) (hp : p.IsOrdinary)
    (hnameable : (p.place current).IsNameable)
    (hroom : hasRoomForJournal (p.place current) = true) {content : Bytes}
    (hfile : r.1.node? (p.place current) = some (.file content)) :
    d.node? (p.place current) = some (.file content) := by
  cases h with
  | blocked hfurnishes => exact (hfurnishes _).file hfile
  | refused hclears =>
    rw [hclears.clear hnameable] at hfile
    cases hfile
  | spoiled hnone =>
    rw [hnone] at hroom
    cases hroom
  | created =>
    rw [node?_put_place hp] at hfile
    cases hfile

/-- A path at which a database is created leads to it. -/
theorem spec_of_ok {h : Handle} (hr : d.Creation current p fuzzy r) (hp : p.IsOrdinary)
    (hproper : current.IsProper) (hok : r.2 = .ok h) :
    h = ⟨p, p.place current, fuzzy⟩ ∧ p.Fits current ∧
      hasRoomForJournal (p.place current) = true ∧
        r.1.locate current p = .ok (p.place current) := by
  cases hr with
  | blocked => cases hok
  | refused => cases hok
  | spoiled => cases hok
  | created hclears hfits hroom =>
    cases hok
    refine ⟨rfl, hfits, hroom, ?_⟩
    have hnode := hclears.clear hfits.names
    have halters := (Alters.refl _ _).put (place_ne_nil hp current)
      (fun _ => by rw [hnode]; simp) (.database .new)
    exact locate_of_keepsDirectories hp hproper halters.directories (hclears.leads hfits.names)

end Creation

/-! ### Creating a database at any path -/

/-- The engine refuses a path, or it puts a database where the address of that leads. -/
theorem establish_cases (d : Disk) (current : Place) (p : Path) (fuzzy : Bool) :
    (∃ e, d.establish current p fuzzy = (d, .error e)) ∨
      ∃ a, Address.ofText p = .ok a ∧
        Alters d (d.establish current p fuzzy).1 (a.place current) ∧
          ∀ h, (d.establish current p fuzzy).2 = .ok h → h.place = a.place current := by
  rw [establish]
  cases hreach : d.reach current p with
  | error f => exact .inl ⟨_, rfl⟩
  | ok reached =>
    obtain ⟨place, access⟩ := reached
    obtain ⟨a, ha, -, rfl, hplace⟩ := reach_cases hreach
    refine .inr ⟨a, ha, ?_⟩
    dsimp only
    generalize a.place current = place at hplace
    have hput (n : Node) : Alters d (d.put place n) place := by
      rcases hplace with ⟨-, rfl⟩ | ⟨rfl, hreachable⟩
      · exact (Alters.refl d _).put (List.cons_ne_nil _ _)
          (fun hproper => absurd (List.mem_singleton_self _) hproper) n
      · have hnode := (isReachable_iff.mp hreachable).2.2.1
        exact (Alters.refl d _).put (by intro hroot; rw [hroot] at hnode; exact hnode rfl)
          (fun _ => hnode) n
    split
    · exact ⟨hput _, fun h hok => by cases hok; rfl⟩
    · split
      · exact ⟨.refl d place, fun h hok => by cases hok⟩
      · split
        · exact ⟨.refl d place, fun h hok => by cases hok⟩
        · split
          · refine ⟨?_, fun h hok => by cases hok⟩
            dsimp only
            split
            · exact hput _
            · exact .refl d place
          · exact ⟨hput _, fun h hok => by cases hok; rfl⟩

/-- No directory goes. -/
theorem keepsDirectories_createDatabase (d : Disk) (current : Place) (p : Path) (fuzzy : Bool) :
    KeepsDirectories d (d.createDatabase current p fuzzy).1 := by
  have hcleared := (alters_clearWay d current p).directories
  rw [createDatabase]
  split
  · rename_i d' e hclear
    rwa [hclear] at hcleared
  · rename_i d' hclear
    rw [hclear] at hcleared
    rcases establish_cases d' current p fuzzy with ⟨e, hrefused⟩ | ⟨a, -, halters, -⟩
    · rwa [hrefused]
    · exact hcleared.trans halters.directories

/-- What is at a place that a path spares is still there after a database was created at the path,
and the database is elsewhere. -/
theorem createDatabase_of_spares (hq : p.Spares current q) (d : Disk) (fuzzy : Bool) :
    FurnishesAt d (d.createDatabase current p fuzzy).1 q ∧
      ∀ h, (d.createDatabase current p fuzzy).2 = .ok h → h.place ≠ q := by
  have hcleared := (alters_clearWay d current p).others q hq.system.symm
  rw [createDatabase]
  split
  · rename_i d' e hclear
    rw [hclear] at hcleared
    exact ⟨hcleared, fun h hok => by cases hok⟩
  · rename_i d' hclear
    rw [hclear] at hcleared
    rcases establish_cases d' current p fuzzy with ⟨e, hrefused⟩ | ⟨a, ha, halters, hplace⟩
    · rw [hrefused]
      exact ⟨hcleared, fun h hok => by cases hok⟩
    · have hne := hq.engine a ha
      exact ⟨hcleared.trans (halters.others q hne.symm), fun h hok => by rwa [hplace h hok]⟩

/-- A database that the engine puts where its address leads keeps the rows that it finds there. -/
theorem establish_of_ok {fuzzy : Bool} {h : Handle}
    (hok : (d.establish current p fuzzy).2 = .ok h) :
    ∃ a, Address.ofText p = .ok a ∧ h = ⟨p, a.place current, fuzzy⟩ ∧ (a.access ≠ .memory →
      (d.establish current p fuzzy).1.database? h.place =
        some ⟨((d.database? h.place).map Database.catalog).getD .empty,
          Database.currentVersion⟩) := by
  rw [establish] at hok ⊢
  cases hreach : d.reach current p with
  | error f =>
    rw [hreach] at hok
    cases hok
  | ok reached =>
    obtain ⟨place, access⟩ := reached
    rw [hreach] at hok
    obtain ⟨a, ha, rfl, rfl, hplace⟩ := reach_cases hreach
    refine ⟨a, ha, ?_⟩
    dsimp only at hok ⊢
    have hput (n : Node) (hne : a.access ≠ .memory) :
        (d.put (a.place current) n).node? (a.place current) = some n := by
      rcases hplace with ⟨hmemory, -⟩ | ⟨hplace, hreachable⟩
      · exact absurd hmemory hne
      · rw [node?_put d, if_pos rfl]
        intro hroot
        have hnode := (isReachable_iff.mp hreachable).2.2.1
        rw [← hplace, hroot] at hnode
        exact hnode rfl
    split at hok
    · rename_i hmemory
      cases hok
      exact ⟨rfl, fun hne => absurd hmemory hne⟩
    · split at hok
      · cases hok
      · split at hok
        · cases hok
        · rename_i hwritable
          split at hok
          · cases hok
          · rename_i hroom
            cases hok
            refine ⟨rfl, fun hne => ?_⟩
            rw [if_neg hne, if_neg hwritable, if_neg hroom, Disk.database?, hput _ hne,
              Disk.database?]
            rcases d.node? (a.place current) with _ | _ | _ | db <;> rfl

/-- A database that was created has the rows of the one that is still where its address leads when
the way to it is clear. At an ordinary path there is none, but the system does not find a database
if a slash follows the path to it, and the engine does. -/
theorem createDatabase_of_ok {fuzzy : Bool} {h : Handle}
    (hok : (d.createDatabase current p fuzzy).2 = .ok h) :
    ∃ a, Address.ofText p = .ok a ∧ h = ⟨p, a.place current, fuzzy⟩ ∧ (a.access ≠ .memory →
      (d.createDatabase current p fuzzy).1.database? h.place =
        some ⟨(((d.clearWay current p).1.database? h.place).map Database.catalog).getD .empty,
          Database.currentVersion⟩) := by
  rw [createDatabase] at hok ⊢
  split at hok
  · cases hok
  · rename_i d' hclear
    rw [hclear]
    exact establish_of_ok hok

end Disk

end Filmography
