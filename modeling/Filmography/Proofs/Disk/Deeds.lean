import Filmography.Disk.Session
import Filmography.Proofs.Disk.Effects

/-!
# Deeds in a session

What an operation does to the database at a place is a deed: creating it, removing it in order to
create it, or changing it through a connection that has its file. There are no other ways as long as
databases are created at the place by ordinary paths only, and none is opened there by an address
with parts, which may make an empty file.

A deed that puts another file in the place of a database, or none, takes the old one from no
connection that has it.

* `Session.step_cases`: what one operation does;
* `Session.database?_step`: what its deed leaves of the database at a place;
* `Session.getElem?_step_file`, `Session.getElem?_step_removed`: what becomes of connections;
* `Session.sound_step`: what holds all the time.
-/

namespace Filmography

variable {ν : Type}

/-! ### Operations -/

namespace Operation

/-- An operation creates a database at a place by an ordinary path only, and opens none there by an
address with parts. -/
def Respects (current q : Place) : Operation ν → Prop
  | createAt p _ => p.IsOrdinary ∨ p.Spares current q
  | openAt p _ => p.OpensPlainly current q
  | _ => True

/-- A database is created at the place, or somewhere else. -/
theorem respects_createAt {current q : Place} {p : Path} {fuzzy : Bool}
    (h : (createAt p fuzzy : Operation ν).Respects current q) :
    p.IsOrdinary ∧ p.place current = q ∨ p.Spares current q := by
  rcases h with hp | hspares
  · by_cases hplace : p.place current = q
    · exact .inl ⟨hp, hplace⟩
    · exact .inr (Disk.spares_of_ne hp hplace)
  · exact .inr hspares

/-- Whether an operation only looks at databases. -/
def isReading : Operation ν → Bool
  | openAt _ _ | clone _ | search _ _ | compile _ _ => true
  | createAt _ _ | load _ _ | insert _ _ _ | setVersion _ _ => false

end Operation

/-! ### Deeds -/

/-- What callers see done to a database. -/
inductive Deed where
  /-- It was created. -/
  | created
  /-- It could not be created, after what was there before was removed. -/
  | removed
  /-- Records of data files were entered. -/
  | entered (es : List Entry)
  /-- A row was put into a table. -/
  | inserted (table : TableName) (cells : List Cell)
  /-- It was marked with a version. -/
  | marked (version : Int)

namespace Deed

/-- The deed of creating a database, as callers are told what came of it: it is done, or else the
engine failed, or nothing was touched. -/
def ofCreation? : Except Error Handle → Option Deed
  | .ok _ => some created
  | .error (.database _) => some removed
  | .error _ => none

/-- What a deed leaves of a database, if there is one. -/
def apply : Deed → Option Database → Option Database
  | created, _ => some .new
  | removed, _ => none
  | entered es, db? => db?.map fun db => { db with catalog := db.catalog.enterAll es }
  | inserted table cells, db? => db?.map fun db =>
    { db with catalog := (db.catalog.putCells cells table).getD db.catalog }
  | marked version, db? => db?.map fun db => { db with version }

/-- What deeds leave of a database, one after the other. -/
def left (db? : Option Database) (deeds : List Deed) : Option Database :=
  deeds.foldl (fun db? deed => deed.apply db?) db?

/-- After a deed there is another file in the place of a database, or none. -/
def replaces : Deed → Bool
  | created | removed => true
  | entered _ | inserted _ _ | marked _ => false

/-- What deeds leave of a database for those who had its file open before. They keep the file when
it is replaced. -/
def seen (db : Database) : List Deed → Database
  | [] => db
  | deed :: deeds =>
    if deed.replaces then db else seen ((deed.apply (some db)).getD db) deeds

/-- A database whose file is not replaced is still there. -/
theorem apply_some {deed : Deed} (h : deed.replaces = false) (db : Database) :
    deed.apply (some db) = some ((deed.apply (some db)).getD db) := by
  cases deed with
  | created => rfl
  | removed => cases h
  | entered es => rfl
  | inserted table cells => rfl
  | marked version => rfl

/-- As long as its file is not replaced, all see the same of a database. -/
theorem left_eq_seen {db : Database} {deeds : List Deed}
    (h : ∀ deed ∈ deeds, deed.replaces = false) : left (some db) deeds = some (seen db deeds) := by
  induction deeds generalizing db with
  | nil => rfl
  | cons deed deeds ih =>
    rw [List.forall_mem_cons] at h
    rw [seen, h.1, if_neg Bool.false_ne_true, ← ih h.2, ← apply_some h.1]
    rfl

/-- A database was created, and not removed later. -/
def Stays (deeds : List Deed) : Prop :=
  ∃ before after, deeds = before ++ created :: after ∧ removed ∉ after

theorem stays_cons {deed : Deed} {deeds : List Deed} :
    Stays (deed :: deeds) ↔ deed = created ∧ removed ∉ deeds ∨ Stays deeds := by
  constructor
  · rintro ⟨_ | ⟨deed', before⟩, after, hdeeds, hafter⟩
    · obtain ⟨rfl, rfl⟩ := List.cons.inj hdeeds
      exact .inl ⟨rfl, hafter⟩
    · obtain ⟨rfl, rfl⟩ := List.cons.inj hdeeds
      exact .inr ⟨before, after, rfl, hafter⟩
  · rintro (⟨rfl, hdeeds⟩ | ⟨before, after, rfl, hafter⟩)
    · exact ⟨[], deeds, rfl, hdeeds⟩
    · exact ⟨deed :: before, after, rfl, hafter⟩

/-- Deeds leave a database if one was created, or there to begin with, and not removed later. -/
theorem isSome_left_iff {db? : Option Database} {deeds : List Deed} :
    (left db? deeds).isSome ↔ db?.isSome ∧ removed ∉ deeds ∨ Stays deeds := by
  induction deeds generalizing db? with
  | nil => simp [left, Stays]
  | cons deed deeds ih =>
    rw [stays_cons]
    refine (show (left (deed.apply db?) deeds).isSome ↔ _ from ih).trans ?_
    cases deed with
    | created =>
      simp only [apply, Option.isSome_some, true_and, List.mem_cons, reduceCtorEq, false_or]
      exact ⟨.inr, fun h => h.elim (fun hthere => .inl hthere.2) id⟩
    | removed => simp [apply]
    | entered es => simp [apply]
    | inserted table cells => simp [apply]
    | marked version => simp [apply]

end Deed

namespace Session

/-- The handle of a connection through which a file is written. -/
def writer? (s : Session) (n : Nat) : Option Handle :=
  match s.connections[n]? with
  | some ⟨h, .file true⟩ => some h
  | _ => none

/-- What something does to a database, and where. Loading enters the records of all data files
before the first one that fails. -/
def deed? (current : Place) (s : Session) : Operation ν → Option (Place × Deed)
  | .createAt p fuzzy =>
    (Deed.ofCreation? (s.disk.createDatabase current p fuzzy).2).map (p.place current, ·)
  | .load n directory => (s.writer? n).map (·.place,
      .entered (Catalog.completeEntries (s.disk.source current directory) DataFile.all))
  | .insert n table cells => (s.writer? n).map (·.place, .inserted table cells)
  | .setVersion n version => (s.writer? n).map (·.place, .marked version)
  | .openAt _ _ | .clone _ | .search _ _ | .compile _ _ => none

/-- What something does to the database at a place. -/
def deedAt? (current : Place) (s : Session) (op : Operation ν) (place : Place) : Option Deed :=
  match s.deed? current op with
  | some (target, deed) => if target = place then some deed else none
  | none => none

/-- The deeds done to the database at a place in a run. -/
def deeds (current place : Place) : Session → List (Operation ν) → List Deed
  | _, [] => []
  | s, op :: ops =>
    (s.deedAt? current op place).toList ++ deeds current place (s.step current op) ops

/-- What the deeds done at a place in a run leave of the database there. -/
def left (current : Place) (s : Session) (ops : List (Operation ν)) (place : Place) :
    Option Database :=
  Deed.left (s.disk.database? place) (s.deeds current place ops)

end Session

/-! ### What one operation does -/

namespace Session

variable {current q : Place} {s : Session} {op : Operation ν} {n : Nat} {c : Connection}

@[simp] theorem disk_connect (s : Session) (opened : Except Error Handle) :
    (s.connect opened).disk = s.disk := by
  cases opened <;> rfl

/-- A new connection gets a number of its own. -/
theorem connections_connect (s : Session) (opened : Except Error Handle) :
    ∃ new : List Connection, (s.connect opened).connections = s.connections ++ new ∧
      ∀ c ∈ new, ∃ h, opened = .ok h ∧ c = .ofHandle h := by
  cases opened with
  | ok h => exact ⟨[.ofHandle h], rfl, fun c hc => ⟨h, rfl, List.mem_singleton.mp hc⟩⟩
  | error e => exact ⟨[], (List.append_nil _).symm, fun c hc => by cases hc⟩

theorem disk_create (current : Place) (s : Session) (p : Path) (fuzzy : Bool) :
    (s.create current p fuzzy).disk = (s.disk.createDatabase current p fuzzy).1 :=
  disk_connect ..

theorem disk_openDatabase (current : Place) (s : Session) (p : Path) (fuzzy : Bool) :
    (s.openDatabase current p fuzzy).disk = s.disk.touch current p :=
  disk_connect ..

theorem disk_update (s : Session) (n : Nat) (f : Database → Database) :
    (s.update n f).disk = match s.writer? n with
      | some h => s.disk.update h f
      | none => s.disk := by
  rw [update, writer?]
  rcases s.connections[n]? with _ | ⟨h, (_ | _) | db | db⟩ <;> rfl

/-- A change through one connection is no change of another one, unless both are in memory. -/
theorem connections_update (s : Session) (n : Nat) (f : Database → Database) :
    (s.update n f).connections = s.connections ∨ ∃ h db, s.connections[n]? = some ⟨h, .memory db⟩ ∧
      (s.update n f).connections = s.connections.set n ⟨h, .memory (f db)⟩ := by
  rw [update]
  rcases hn : s.connections[n]? with _ | ⟨h, (_ | _) | db | db⟩
  · exact .inl rfl
  · exact .inl rfl
  · exact .inl rfl
  · exact .inl rfl
  · exact .inr ⟨h, db, rfl, rfl⟩

/-- An operation creates a database, or changes one in the manner of its deed, or opens one, or
leaves everything alone. -/
theorem step_cases (current : Place) (s : Session) (op : Operation ν) :
    (∃ p fuzzy, op = .createAt p fuzzy) ∨
      (∃ n f deed, op.isReading = false ∧ s.step current op = s.update n f ∧
        s.deed? current op = (s.writer? n).map (·.place, deed) ∧ deed.replaces = false ∧
          ∀ db?, deed.apply db? = db?.map f) ∨
      (∃ p fuzzy, s.step current op = s.openDatabase current p fuzzy ∧
        s.deed? current op = none ∧
          (op = .openAt p fuzzy ∨ ∃ c ∈ s.connections, c.handle.path = p)) ∨
      s.step current op = s ∧ s.deed? current op = none := by
  cases op with
  | createAt p fuzzy => exact .inl ⟨p, fuzzy, rfl⟩
  | openAt p fuzzy => exact .inr (.inr (.inl ⟨p, fuzzy, rfl, rfl, .inl rfl⟩))
  | clone n =>
    rw [step]
    cases hn : s.connections[n]? with
    | none => exact .inr (.inr (.inr ⟨rfl, rfl⟩))
    | some c =>
      exact .inr (.inr (.inl ⟨_, _, rfl, rfl, .inr ⟨c, List.mem_of_getElem? hn, rfl⟩⟩))
  | load n directory =>
    refine .inr (.inl ⟨n, _, _, rfl, rfl, rfl, rfl, fun db? => ?_⟩)
    refine congrArg (fun f => Option.map f db?) (funext fun db => ?_)
    rw [Catalog.load, Catalog.catalog_loadFiles]
  | insert n table cells => exact .inr (.inl ⟨n, _, _, rfl, rfl, rfl, rfl, fun _ => rfl⟩)
  | setVersion n version => exact .inr (.inl ⟨n, _, _, rfl, rfl, rfl, rfl, fun _ => rfl⟩)
  | search n q => exact .inr (.inr (.inr ⟨rfl, rfl⟩))
  | compile n q => exact .inr (.inr (.inr ⟨rfl, rfl⟩))

theorem keepsDirectories_update (s : Session) (n : Nat) (f : Database → Database) :
    s.disk.KeepsDirectories (s.update n f).disk := by
  rw [disk_update]
  cases s.writer? n with
  | none => exact fun _ _ h => h
  | some h => exact (Disk.alters_update s.disk h f).directories

/-- No directory goes. -/
theorem keepsDirectories_step (current : Place) (s : Session) (op : Operation ν) :
    s.disk.KeepsDirectories (s.step current op).disk := by
  rcases step_cases current s op with
    ⟨p, fuzzy, rfl⟩ | ⟨n, f, deed, -, hstep, -⟩ | ⟨p, fuzzy, hstep, -⟩ | ⟨hstep, -⟩
  · rw [step, disk_create]
    exact s.disk.keepsDirectories_createDatabase current p fuzzy
  · rw [hstep]
    exact s.keepsDirectories_update n f
  · rw [hstep, disk_openDatabase]
    exact fun place _ h => s.disk.keeps_touch current p place .directory h
  · rw [hstep]
    exact fun _ _ h => h

/-! ### What holds all the time -/

/-- What holds as long as a place is respected. -/
structure Sound (current q : Place) (s : Session) : Prop where
  /-- Paths can lead to the current directory. -/
  proper : current.IsProper
  /-- Opening a database once more opens none at the place by an address with parts. -/
  paths : ∀ c ∈ s.connections, c.handle.path.OpensPlainly current q
  /-- The current directory is there. -/
  current : s.disk.node? current = some .directory
  /-- Every connection to the place has a file that is there, or that was removed. -/
  holdings : ∀ c ∈ s.connections, c.handle.place = q → q.IsNameable ∧
    (c.holding = .file true ∧ (s.disk.database? q).isSome ∨ ∃ db, c.holding = .removed db)

/-- How creating a database at an ordinary path ends. -/
theorem Sound.creation (hs : s.Sound current q) {p : Path} (hp : p.IsOrdinary) (fuzzy : Bool) :
    s.disk.Creation current p fuzzy (s.disk.createDatabase current p fuzzy) :=
  Disk.createDatabase_spec hp hs.proper hs.current fuzzy

/-- What is opened respects the place. -/
theorem Sound.opensPlainly (hs : s.Sound current q) (hop : op.Respects current q) {p : Path}
    {fuzzy : Bool} (h : op = .openAt p fuzzy ∨ ∃ c ∈ s.connections, c.handle.path = p) :
    p.OpensPlainly current q := by
  rcases h with rfl | ⟨c, hc, rfl⟩
  · exact hop
  · exact hs.paths c hc

/-- What an operation leaves of the database at a place is what its deed there leaves. -/
theorem database?_step (hop : op.Respects current q) (hs : s.Sound current q)
    (hq : q.IsNameable) :
    (s.step current op).disk.database? q =
      Deed.left (s.disk.database? q) (s.deedAt? current op q).toList := by
  rw [deedAt?]
  rcases step_cases current s op with
    ⟨p, fuzzy, rfl⟩ | ⟨n, f, deed, -, hstep, hdeed, -, happly⟩ | ⟨p, fuzzy, hstep, hdeed, hopens⟩ |
      ⟨hstep, hdeed⟩
  · rw [step, disk_create, deed?]
    rcases Operation.respects_createAt hop with ⟨hp, rfl⟩ | hspares
    · rw [(hs.creation hp fuzzy).database? hp hq]
      rcases (s.disk.createDatabase current p fuzzy).2 with e | h
      · cases e
        case database f => simp [Deed.ofCreation?, Deed.left, Deed.apply]
        all_goals rfl
      · simp [Deed.ofCreation?, Deed.left, Deed.apply]
    · rw [(Disk.createDatabase_of_spares hspares s.disk fuzzy).1.database?]
      cases Deed.ofCreation? (s.disk.createDatabase current p fuzzy).2 with
      | none => rfl
      | some deed => simp [hspares.system, Deed.left]
  · rw [hstep, hdeed, disk_update]
    cases s.writer? n with
    | none => rfl
    | some h =>
      dsimp only [Option.map_some]
      rw [Disk.database?_update]
      split
      · simp [Deed.left, happly]
      · rfl
  · rw [hstep, hdeed, disk_openDatabase, Disk.database?,
      Disk.node?_touch (hs.opensPlainly hop hopens), Disk.database?]
    rfl
  · rw [hstep, hdeed]
    rfl

/-- No file comes to be that is not a database, where there is room for a journal. -/
theorem file_step (hop : op.Respects current q) (hs : s.Sound current q) (hq : q.IsNameable)
    (hroom : Disk.hasRoomForJournal q = true) {content : Bytes}
    (hfile : (s.step current op).disk.node? q = some (.file content)) :
    s.disk.node? q = some (.file content) := by
  rcases step_cases current s op with
    ⟨p, fuzzy, rfl⟩ | ⟨n, f, deed, -, hstep, -⟩ | ⟨p, fuzzy, hstep, -, hopens⟩ | ⟨hstep, -⟩
  · rw [step, disk_create] at hfile
    rcases Operation.respects_createAt hop with ⟨hp, rfl⟩ | hspares
    · exact (hs.creation hp fuzzy).file hp hq hroom hfile
    · exact (Disk.createDatabase_of_spares hspares s.disk fuzzy).1.file hfile
  · rw [hstep, disk_update] at hfile
    cases hwriter : s.writer? n with
    | none => rwa [hwriter] at hfile
    | some h =>
      rw [hwriter] at hfile
      dsimp only at hfile
      by_cases hplace : h.place = q
      · subst hplace
        rw [Disk.node?_update] at hfile
        cases hdb : s.disk.database? h.place with
        | none =>
          rw [hdb] at hfile
          exact hfile
        | some db =>
          rw [hdb] at hfile
          cases hfile
      · exact ((Disk.alters_update s.disk h f).others q (Ne.symm hplace)).file hfile
  · rwa [hstep, disk_openDatabase, Disk.node?_touch (hs.opensPlainly hop hopens)] at hfile
  · rwa [hstep] at hfile

/-! ### What becomes of connections -/

end Session

theorem Holding.ofAccess_ne_removed (access : Access) (db : Database) :
    ofAccess access ≠ removed db := by
  cases access <;> nofun

namespace Connection

variable {d d' : Disk} {c : Connection} {h : Handle}

theorem ofHandle_eq {a : Address} (ha : Address.ofText h.path = .ok a)
    (haccess : a.access = .create) : ofHandle h = ⟨h, .file true⟩ := by
  rw [ofHandle, ha]
  show (⟨h, .ofAccess a.access⟩ : Connection) = _
  rw [haccess, Holding.ofAccess]

@[simp] theorem handle_outlive (d d' : Disk) (c : Connection) :
    (c.outlive d d').handle = c.handle := by
  rw [outlive]
  split <;> rfl

/-- A connection keeps a file that is removed. -/
theorem outlive_file {db : Database} (hdb : d.database? h.place = some db) (writable : Bool) :
    outlive d d' ⟨h, .file writable⟩ =
      ⟨h, if (d'.database? h.place).isNone then .removed db else .file writable⟩ := by
  rw [outlive]
  dsimp only
  rw [hdb]
  cases d'.database? h.place <;> rfl

/-- What is not on the disk is not removed from it. -/
theorem outlive_of_ne_file (h : ∀ writable, c.holding ≠ .file writable) : c.outlive d d' = c := by
  rw [outlive]
  split
  · rename_i hfile _ _
    exact absurd hfile (h _)
  · rfl

/-- A database that is opened at a place, by a path that opens no other there, is in a file that can
be written. -/
theorem ofHandle_of_openDatabase {current q : Place} {p : Path} {fuzzy : Bool}
    (hp : p.OpensPlainly current q) (hopen : d.openDatabase current p fuzzy = .ok h)
    (hplace : h.place = q) :
    ofHandle h = ⟨h, .file true⟩ ∧ q.IsNameable ∧ (d.database? q).isSome := by
  obtain ⟨rfl, -, ⟨hnameable, a, ha, haccess, haplace⟩, catalog, hdb⟩ :=
    Disk.exists_of_openDatabase_eq_ok hopen
  rw [hplace] at hnameable hdb
  refine ⟨ofHandle_eq ha ?_, hnameable, by rw [hdb]; rfl⟩
  rcases hp with hplain | hspares
  · rw [Address.ofText_of_not_isPrefix hplain] at ha
    cases ha
    split at haccess
    · exact absurd rfl haccess
    · rename_i hfiled
      rw [if_neg hfiled]
  · refine absurd ?_ (hspares.engine a ha)
    rw [Address.place, if_neg haccess, ← haplace, hplace]

end Connection

namespace Session

variable {current q : Place} {s : Session} {op : Operation ν} {n : Nat} {c : Connection}

/-- A connection keeps its number. -/
theorem getElem?_connect {opened : Except Error Handle} (h : s.connections[n]? = some c) :
    (s.connect opened).connections[n]? = some c := by
  obtain ⟨new, hconnections, -⟩ := connections_connect s opened
  obtain ⟨hlt, -⟩ := List.getElem?_eq_some_iff.mp h
  rw [hconnections, List.getElem?_append_left hlt, h]

theorem getElem?_create (h : s.connections[n]? = some c) (p : Path) (fuzzy : Bool) :
    (s.create current p fuzzy).connections[n]? =
      some (c.outlive s.disk (s.disk.clearWay current p).1) := by
  refine getElem?_connect ?_
  rw [List.getElem?_map, h]
  rfl

/-- A connection to a file stays as it is unless a database is created. -/
theorem getElem?_step (h : s.connections[n]? = some c) (hmemory : ∀ db, c.holding ≠ .memory db)
    (hop : ∀ p fuzzy, op ≠ .createAt p fuzzy) : (s.step current op).connections[n]? = some c := by
  rcases step_cases current s op with
    ⟨p, fuzzy, rfl⟩ | ⟨m, f, deed, -, hstep, -⟩ | ⟨p, fuzzy, hstep, -⟩ | ⟨hstep, -⟩
  · exact absurd rfl (hop p fuzzy)
  · rw [hstep]
    rcases connections_update s m f with hsame | ⟨h', db, hm, hset⟩
    · rw [hsame, h]
    · have hne : m ≠ n := by
        rintro rfl
        rw [hm] at h
        cases h
        exact hmemory db rfl
      rw [hset, List.getElem?_set_ne hne, h]
  · rw [hstep]
    exact getElem?_connect h
  · rw [hstep, h]

/-- A connection keeps its file for good once that is removed. -/
theorem getElem?_step_removed {h : Handle} {db : Database}
    (hc : s.connections[n]? = some ⟨h, .removed db⟩) :
    (s.step current op).connections[n]? = some ⟨h, .removed db⟩ := by
  by_cases hop : ∃ p fuzzy, op = .createAt p fuzzy
  · obtain ⟨p, fuzzy, rfl⟩ := hop
    rw [step, getElem?_create hc, Connection.outlive_of_ne_file fun _ hfile => by cases hfile]
  · exact getElem?_step hc nofun fun p fuzzy heq => hop ⟨p, fuzzy, heq⟩

/-- Only creating a database replaces one. -/
theorem any_replaces_deedAt? (hop : ∀ p fuzzy, op ≠ .createAt p fuzzy) :
    (s.deedAt? current op q).any Deed.replaces = false := by
  rw [deedAt?]
  rcases step_cases current s op with
    ⟨p, fuzzy, rfl⟩ | ⟨m, f, deed, -, -, hdeed, hreplaces, -⟩ | ⟨p, fuzzy, -, hdeed, -⟩ | ⟨-, hdeed⟩
  · exact absurd rfl (hop p fuzzy)
  · rw [hdeed]
    cases s.writer? m with
    | none => rfl
    | some h =>
      dsimp only [Option.map_some]
      split
      · exact hreplaces
      · rfl
  · rw [hdeed]
    rfl
  · rw [hdeed]
    rfl

/-- A connection to the place loses its file exactly if that is replaced. -/
theorem getElem?_step_file (hop : op.Respects current q) (hs : s.Sound current q) {h : Handle}
    {db : Database} (hc : s.connections[n]? = some ⟨h, .file true⟩) (hplace : h.place = q)
    (hdb : s.disk.database? q = some db) :
    (s.step current op).connections[n]? =
      some ⟨h, if (s.deedAt? current op q).any Deed.replaces then .removed db else .file true⟩ := by
  by_cases hcreate : ∃ p fuzzy, op = .createAt p fuzzy
  · obtain ⟨p, fuzzy, rfl⟩ := hcreate
    obtain ⟨hnameable, -⟩ := hs.holdings _ (List.mem_of_getElem? hc) hplace
    rw [step, getElem?_create hc, Connection.outlive_file (by rw [hplace, hdb]), hplace, deedAt?,
      deed?]
    rcases Operation.respects_createAt hop with ⟨hp, rfl⟩ | hspares
    · rw [Disk.database?_clearWay hp hs.proper hs.current hnameable fuzzy]
      rcases (s.disk.createDatabase current p fuzzy).2 with e | h
      · cases e
        case database f => simp [Deed.ofCreation?, Deed.replaces]
        all_goals
          dsimp only
          rw [hdb]
          rfl
      · simp [Deed.ofCreation?, Deed.replaces]
    · have hcleared := (Disk.alters_clearWay s.disk current p).others q hspares.system.symm
      rw [hcleared.database?, hdb]
      cases Deed.ofCreation? (s.disk.createDatabase current p fuzzy).2 with
      | none => rfl
      | some deed => simp [hspares.system]
  · have hop : ∀ p fuzzy, op ≠ .createAt p fuzzy := fun p fuzzy heq => hcreate ⟨p, fuzzy, heq⟩
    rw [getElem?_step hc nofun hop, any_replaces_deedAt? hop, if_neg Bool.false_ne_true]

/-- What a new connection is to the place. -/
theorem sound_connect {opened : Except Error Handle} (hs : s.Sound current q)
    (hnew : ∀ h, opened = .ok h → h.path.OpensPlainly current q ∧ (h.place = q →
      Connection.ofHandle h = ⟨h, .file true⟩ ∧ q.IsNameable ∧ (s.disk.database? q).isSome)) :
    (s.connect opened).Sound current q := by
  obtain ⟨new, hconnections, hof⟩ := connections_connect s opened
  refine ⟨hs.proper, fun c hc => ?_, by rw [disk_connect]; exact hs.current,
    fun c hc hplace => ?_⟩
  · rw [hconnections] at hc
    rcases List.mem_append.mp hc with hc | hc
    · exact hs.paths c hc
    · obtain ⟨h, hok, rfl⟩ := hof c hc
      exact (hnew h hok).1
  · rw [hconnections] at hc
    rw [disk_connect]
    rcases List.mem_append.mp hc with hc | hc
    · exact hs.holdings c hc hplace
    · obtain ⟨h, hok, rfl⟩ := hof c hc
      obtain ⟨hfile, hnameable, hdb⟩ := (hnew h hok).2 hplace
      exact ⟨hnameable, .inl ⟨by rw [hfile], hdb⟩⟩

/-- A database that is created at the place is in a file, and new. -/
theorem Sound.created (hs : s.Sound current q) {p : Path} {fuzzy : Bool} {h : Handle}
    (hp : p.IsOrdinary) (hplace : p.place current = q)
    (hok : (s.disk.createDatabase current p fuzzy).2 = .ok h) :
    h = ⟨p, q, fuzzy⟩ ∧ Connection.ofHandle h = ⟨h, .file true⟩ ∧ p.Fits current ∧
      Disk.hasRoomForJournal q = true ∧
        (s.disk.createDatabase current p fuzzy).1.locate current p = .ok q ∧
          (s.disk.createDatabase current p fuzzy).1.database? q = some .new := by
  subst hplace
  have hcreation := hs.creation hp fuzzy
  obtain ⟨rfl, hfits, hroom, hlocate⟩ := hcreation.spec_of_ok hp hs.proper hok
  exact ⟨rfl, Connection.ofHandle_eq (Disk.ofText_of_isOrdinary hp) rfl, hfits, hroom, hlocate,
    by rw [hcreation.database? hp hfits.names, hok]⟩

/-- When a database is created, a connection to the place still has its file, or keeps it removed. -/
theorem Sound.outlive {p : Path} {fuzzy : Bool} (hs : s.Sound current q)
    (hop : (.createAt p fuzzy : Operation ν).Respects current q) (hc : c ∈ s.connections)
    (hplace : c.handle.place = q) :
    let after := c.outlive s.disk (s.disk.clearWay current p).1
    after.holding = .file true ∧ ((s.create current p fuzzy).disk.database? q).isSome ∨
      ∃ db, after.holding = .removed db := by
  intro after
  obtain ⟨hnameable, ⟨hfile, hdb⟩ | ⟨db, hremoved⟩⟩ := hs.holdings c hc hplace
  · obtain ⟨h, holding⟩ := c
    subst hfile
    obtain ⟨n, hn⟩ := List.mem_iff_getElem?.mp hc
    obtain ⟨db, hdb⟩ := Option.isSome_iff_exists.mp hdb
    have hafter := getElem?_step_file hop hs hn hplace hdb
    rw [step, getElem?_create hn] at hafter
    have hleft := database?_step hop hs hnameable
    rw [step, hdb] at hleft
    rw [show after = _ from Option.some.inj hafter]
    cases hreplaces : (s.deedAt? current (.createAt p fuzzy : Operation ν) q).any
      Deed.replaces with
    | true => exact .inr ⟨db, rfl⟩
    | false =>
      refine .inl ⟨rfl, ?_⟩
      rw [hleft, Deed.left_eq_seen]
      · rfl
      · intro deed hdeed
        rwa [Option.mem_toList.mp hdeed] at hreplaces
  · have hfile (writable : Bool) : c.holding ≠ .file writable := by
      rw [hremoved]
      nofun
    exact .inr ⟨db, by rw [show after = c from Connection.outlive_of_ne_file hfile, hremoved]⟩

theorem sound_create {p : Path} {fuzzy : Bool}
    (hop : (.createAt p fuzzy : Operation ν).Respects current q) (hs : s.Sound current q) :
    (s.create current p fuzzy).Sound current q := by
  refine sound_connect ⟨hs.proper, fun c hc => ?_, ?_, fun c hc hplace => ?_⟩ fun h hok => ?_
  · obtain ⟨c', hc', rfl⟩ := List.mem_map.mp hc
    rw [Connection.handle_outlive]
    exact hs.paths c' hc'
  · exact s.disk.keepsDirectories_createDatabase current p fuzzy current hs.proper hs.current
  · obtain ⟨c', hc', rfl⟩ := List.mem_map.mp hc
    rw [Connection.handle_outlive] at hplace
    have hafter := hs.outlive hop hc' hplace
    rw [disk_create] at hafter
    exact ⟨(hs.holdings c' hc' hplace).1, hafter⟩
  · obtain ⟨a, -, hh, -⟩ := Disk.createDatabase_of_ok hok
    have hpath : h.path = p := by rw [hh]
    rw [hpath]
    refine ⟨hop.imp Path.IsOrdinary.plain id, fun hplace => ?_⟩
    rcases Operation.respects_createAt hop with ⟨hp, hq⟩ | hspares
    · obtain ⟨-, hfile, hfits, -, -, hnew⟩ := hs.created hp hq hok
      refine ⟨hfile, hq ▸ hfits.names, ?_⟩
      show ((s.disk.createDatabase current p fuzzy).1.database? q).isSome
      rw [hnew]
      rfl
    · exact absurd hplace ((Disk.createDatabase_of_spares hspares s.disk fuzzy).2 h hok)

theorem sound_openDatabase {p : Path} (hp : p.OpensPlainly current q) (fuzzy : Bool)
    (hs : s.Sound current q) : (s.openDatabase current p fuzzy).Sound current q := by
  have hsame : (s.disk.touch current p).database? q = s.disk.database? q := by
    rw [Disk.database?, Disk.node?_touch hp, Disk.database?]
  refine sound_connect ⟨hs.proper, hs.paths,
    s.disk.keeps_touch current p current .directory hs.current, fun c hc hplace => ?_⟩
    fun h hopen => ?_
  · rw [hsame]
    exact hs.holdings c hc hplace
  · obtain ⟨rfl, -⟩ := Disk.exists_of_openDatabase_eq_ok hopen
    refine ⟨hp, fun hplace => ?_⟩
    rw [hsame]
    exact Connection.ofHandle_of_openDatabase hp hopen hplace

theorem sound_update (hs : s.Sound current q) (n : Nat) (f : Database → Database) :
    (s.update n f).Sound current q := by
  have hkept : ∀ c ∈ s.connections, c.handle.place = q → q.IsNameable ∧
      (c.holding = .file true ∧ ((s.update n f).disk.database? q).isSome ∨
        ∃ db, c.holding = .removed db) := by
    intro c hc hplace
    obtain ⟨hnameable, ⟨hfile, hdb⟩ | hremoved⟩ := hs.holdings c hc hplace
    · refine ⟨hnameable, .inl ⟨hfile, ?_⟩⟩
      rw [disk_update]
      cases s.writer? n with
      | none => exact hdb
      | some h =>
        dsimp only
        rw [Disk.database?_update]
        split
        · rwa [Option.isSome_map]
        · exact hdb
    · exact ⟨hnameable, .inr hremoved⟩
  refine ⟨hs.proper, fun c hc => ?_,
    s.keepsDirectories_update n f current hs.proper hs.current, fun c hc hplace => ?_⟩
  all_goals
    rcases connections_update s n f with hsame | ⟨h, db, hn, hset⟩
  · exact hs.paths c (hsame ▸ hc)
  · rw [hset] at hc
    rcases List.mem_or_eq_of_mem_set hc with hc | rfl
    · exact hs.paths c hc
    · exact hs.paths ⟨h, .memory db⟩ (List.mem_of_getElem? hn)
  · exact hkept c (hsame ▸ hc) hplace
  · rw [hset] at hc
    rcases List.mem_or_eq_of_mem_set hc with hc | rfl
    · exact hkept c hc hplace
    · -- what is in memory is at no place
      obtain ⟨-, ⟨hfile, -⟩ | ⟨db, hremoved⟩⟩ := hs.holdings _ (List.mem_of_getElem? hn) hplace
      · cases hfile
      · cases hremoved

theorem sound_step (hop : op.Respects current q) (hs : s.Sound current q) :
    (s.step current op).Sound current q := by
  rcases step_cases current s op with
    ⟨p, fuzzy, rfl⟩ | ⟨n, f, deed, -, hstep, -⟩ | ⟨p, fuzzy, hstep, -, hopens⟩ | ⟨hstep, -⟩
  · exact sound_create hop hs
  · rw [hstep]
    exact sound_update hs n f
  · rw [hstep]
    exact sound_openDatabase (hs.opensPlainly hop hopens) fuzzy hs
  · rwa [hstep]

end Session

end Filmography
