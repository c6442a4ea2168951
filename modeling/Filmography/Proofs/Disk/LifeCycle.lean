import Filmography.Proofs.Disk.Deeds

/-!
# The life cycle of databases

In a session, databases are created and opened at any number of paths, and the connections to them
are used in any order. What there is of a database depends on nothing but the deeds that were done
at its place since it was created, and on the data files that were there to be loaded. A connection
takes part in them until its file is removed. From then on it shows what there was.

* `Session.database?_run`: what a run leaves of a database;
* `Session.seen_run`: what a run leaves for a connection;
* `Session.run_tells`: what callers are told of databases after a run.
-/

namespace Filmography

variable {ν : Type}

namespace Session

/-! ### What a run leaves -/

variable {current q : Place} {s : Session} {op : Operation ν} {ops : List (Operation ν)} {n : Nat}
  {c : Connection}

theorem sound_run (hops : ∀ op ∈ ops, op.Respects current q) (hs : s.Sound current q) :
    (s.run current ops).Sound current q :=
  List.foldlRecOn ops (step current) hs fun _ ht op hop => sound_step (hops op hop) ht

/-- What a run leaves of the database at a place is what the deeds there leave of it. -/
theorem database?_run (hops : ∀ op ∈ ops, op.Respects current q) (hs : s.Sound current q)
    (hq : q.IsNameable) :
    (s.run current ops).disk.database? q = s.left current ops q := by
  induction ops generalizing s with
  | nil => rfl
  | cons op ops ih =>
    rw [List.forall_mem_cons] at hops
    rw [left, deeds, Deed.left, List.foldl_append]
    refine (ih hops.2 (sound_step hops.1 hs)).trans ?_
    rw [left, database?_step hops.1 hs hq]
    rfl

theorem keepsDirectories_run (current : Place) (s : Session) (ops : List (Operation ν)) :
    s.disk.KeepsDirectories (s.run current ops).disk := by
  refine List.foldlRecOn (motive := fun t : Session => s.disk.KeepsDirectories t.disk) ops
    (step current) (fun _ _ h => h) fun t ht op _ => ?_
  exact ht.trans (keepsDirectories_step current t op)

theorem file_run (hops : ∀ op ∈ ops, op.Respects current q) (hs : s.Sound current q)
    (hq : q.IsNameable) (hroom : Disk.hasRoomForJournal q = true)
    (hfile : ∀ content, s.disk.node? q ≠ some (.file content)) :
    ∀ content, (s.run current ops).disk.node? q ≠ some (.file content) := by
  induction ops generalizing s with
  | nil => exact hfile
  | cons op ops ih =>
    rw [List.forall_mem_cons] at hops
    exact ih hops.2 (sound_step hops.1 hs) fun content hafter =>
      hfile content (file_step hops.1 hs hq hroom hafter)

/-- A connection keeps a file that was removed, whatever is done later. -/
theorem getElem?_run_removed {h : Handle} {db : Database} (current : Place)
    (hc : s.connections[n]? = some ⟨h, .removed db⟩) (ops : List (Operation ν)) :
    (s.run current ops).connections[n]? = some ⟨h, .removed db⟩ :=
  List.foldlRecOn (motive := fun t : Session => t.connections[n]? = some ⟨h, .removed db⟩) ops
    (step current) hc fun _ ht _ _ => getElem?_step_removed ht

/-- A connection with some number shows a database: that is what is searched through it. -/
def Shows (s : Session) (n : Nat) (h : Handle) (db : Database) : Prop :=
  ∃ c, s.connections[n]? = some c ∧ c.handle = h ∧ s.database? c = some db ∧
    ∀ engine, s.store c engine = .ok ⟨db.catalog, h.fuzzy, engine⟩

theorem shows_of_getElem? {db : Database} (hc : s.connections[n]? = some c)
    (hdb : s.database? c = some db) : s.Shows n c.handle db :=
  ⟨c, hc, rfl, hdb, fun engine => by rw [store, hdb]⟩

/-- What a run leaves for a connection to a file is what the deeds there leave of the database for
those who had it open. -/
theorem seen_run (hops : ∀ op ∈ ops, op.Respects current q) (hs : s.Sound current q) {h : Handle}
    {db : Database} (hc : s.connections[n]? = some ⟨h, .file true⟩) (hplace : h.place = q)
    (hdb : s.disk.database? q = some db) :
    (s.run current ops).Shows n h (Deed.seen db (s.deeds current q ops)) := by
  induction ops generalizing s db with
  | nil => exact shows_of_getElem? hc (by rw [database?, hplace, hdb]; rfl)
  | cons op ops ih =>
    rw [List.forall_mem_cons] at hops
    obtain ⟨hnameable, -⟩ := hs.holdings _ (List.mem_of_getElem? hc) hplace
    have hstep := getElem?_step_file hops.1 hs hc hplace hdb
    have hleft := database?_step hops.1 hs hnameable
    rw [hdb] at hleft
    have hs' := sound_step hops.1 hs
    rw [deeds]
    show ((s.step current op).run current ops).Shows n h _
    cases hdeed : s.deedAt? current op q with
    | none =>
      rw [hdeed] at hstep hleft
      exact ih hops.2 hs' hstep hleft
    | some deed =>
      rw [hdeed] at hstep hleft
      rw [Option.toList_some, List.singleton_append, Deed.seen]
      cases hreplaces : deed.replaces with
      | true =>
        rw [Option.any_some, hreplaces, if_pos rfl] at hstep
        exact shows_of_getElem? (getElem?_run_removed current hstep ops) rfl
      | false =>
        rw [Option.any_some, hreplaces, if_neg Bool.false_ne_true] at hstep
        rw [if_neg Bool.false_ne_true]
        exact ih hops.2 hs' hstep (hleft.trans (Deed.apply_some hreplaces db))

/-- A new connection does not have a file that was removed. -/
theorem holding_ne_removed_of_new {db : Database}
    (hc : (s.step current op).connections[s.connections.length]? = some c) :
    c.holding ≠ .removed db := by
  have hconnect : ∀ (t : Session) (opened : Except Error Handle),
      t.connections.length = s.connections.length →
      (t.connect opened).connections[s.connections.length]? = some c → c.holding ≠ .removed db := by
    intro t opened hlength hc
    obtain ⟨new, hconnections, hof⟩ := connections_connect t opened
    rw [hconnections, ← hlength, List.getElem?_append_right (Nat.le_refl _)] at hc
    obtain ⟨h, -, rfl⟩ := hof c (List.mem_of_getElem? hc)
    exact Holding.ofAccess_ne_removed _ db
  have hnone : s.connections[s.connections.length]? = none :=
    List.getElem?_eq_none (Nat.le_refl _)
  rcases step_cases current s op with
    ⟨p, fuzzy, rfl⟩ | ⟨n, f, deed, -, hstep, -⟩ | ⟨p, fuzzy, hstep, -⟩ | ⟨hstep, -⟩
  · exact hconnect _ _ (List.length_map _) hc
  · rw [hstep] at hc
    have hlength : (s.update n f).connections.length = s.connections.length := by
      rcases connections_update s n f with hsame | ⟨h, db, -, hset⟩
      · rw [hsame]
      · rw [hset, List.length_set]
    rw [← hlength, List.getElem?_eq_none (Nat.le_refl _)] at hc
    cases hc
  · rw [hstep, openDatabase] at hc
    exact hconnect ⟨s.disk.touch current p, s.connections⟩ _ rfl hc
  · rw [hstep, hnone] at hc
    cases hc

end Session

/-! ### The life cycle -/

/-- Opening a path, or once more a database that was opened by it, comes to what it should for a
database, or for none. -/
def Disk.Opens (d : Disk) (current : Place) (p : Path) (db? : Option Database) : Prop :=
  ∀ h : Handle, h.path = p →
    d.openDatabase current p h.fuzzy = opened current p h.fuzzy db? ∧
      d.reopen current h = opened current p h.fuzzy db?

namespace Session

variable {current q : Place} {s : Session} {ops : List (Operation ν)} {op : Operation ν}

theorem opens_run (hops : ∀ op ∈ ops, op.Respects current q) (hs : s.Sound current q) {p : Path}
    (hp : p.IsOrdinary) (hplace : p.place current = q) (hfits : p.Fits current)
    (hroom : Disk.hasRoomForJournal q = true)
    (hfile : ∀ content, s.disk.node? q ≠ some (.file content))
    (hlocate : (s.run current ops).disk.locate current p = .ok q) :
    (s.run current ops).disk.Opens current p (s.left current ops q) := by
  subst hplace
  have hopen (fuzzy : Bool) := Disk.openDatabase_of_locate hp hfits (sound_run hops hs).current
    (file_run hops hs hfits.names hroom hfile) hlocate fuzzy
  rw [database?_run hops hs hfits.names] at hopen
  rintro h rfl
  exact ⟨hopen h.fuzzy, hopen h.fuzzy⟩

theorem run_append_cons (current : Place) (s : Session) (before after : List (Operation ν))
    (op : Operation ν) :
    s.run current (before ++ op :: after) =
      ((s.run current before).step current op).run current after :=
  List.foldl_append

/-- What is left is what the deeds after some point leave of what there is then. -/
theorem left_append_cons {before after : List (Operation ν)}
    (hops : ∀ op' ∈ before ++ op :: after, op'.Respects current q) (hs : s.Sound current q)
    (hq : q.IsNameable) :
    s.left current (before ++ op :: after) q =
      ((s.run current before).step current op).left current after q := by
  obtain ⟨hbefore, hafter⟩ := List.forall_mem_append.mp hops
  obtain ⟨hop, hafter⟩ := List.forall_mem_cons.mp hafter
  rw [← database?_run hops hs hq, run_append_cons,
    database?_run hafter (sound_step hop (sound_run hbefore hs)) hq]

/-- A database that was created is new, and its path leads to it from then on, whatever was there
before. -/
theorem opens_of_created {p : Path} {fuzzy : Bool} {h : Handle} {after : List (Operation ν)}
    (hs : s.Sound current q) (hp : p.IsOrdinary) (hplace : p.place current = q)
    (hafter : ∀ op ∈ after, op.Respects current q)
    (hok : (s.disk.createDatabase current p fuzzy).2 = .ok h) :
    let t := s.step current (.createAt p fuzzy : Operation ν)
    h = ⟨p, q, fuzzy⟩ ∧ t.connections[s.connections.length]? = some ⟨h, .file true⟩ ∧
      t.disk.database? q = some .new ∧
        (t.run current after).disk.Opens current p (t.left current after q) := by
  intro t
  have ht : t.Sound current q :=
    sound_step (show (.createAt p fuzzy : Operation ν).Respects current q from .inl hp) hs
  obtain ⟨hh, hfile, hfits, hroom, hlocate, hnew⟩ := hs.created hp hplace hok
  have hdisk : t.disk = (s.disk.createDatabase current p fuzzy).1 := disk_create current s p fuzzy
  rw [← hdisk] at hlocate hnew
  refine ⟨hh, ?_, hnew, opens_run hafter ht hp hplace hfits hroom ?_ ?_⟩
  · show (connect _ (s.disk.createDatabase current p fuzzy).2).connections[_]? = _
    rw [hok, ← hfile, connect, List.getElem?_append_right (by rw [List.length_map]),
      List.length_map, Nat.sub_self]
    rfl
  · intro content hcontent
    rw [Disk.database?_eq_some_iff.mp hnew] at hcontent
    cases hcontent
  · rw [← hplace]
    exact Disk.locate_of_keepsDirectories hp hs.proper (keepsDirectories_run current t after)
      (hplace ▸ hlocate)

/-- Opening, searching and compiling change no file, and nothing at all at a place where no database
is opened by an address with parts. -/
theorem reading_step (current q : Place) (h : op.isReading = true) :
    s.disk.Keeps (s.step current op).disk ∧ s.connections <+: (s.step current op).connections ∧
      (op.Respects current q → s.Sound current q →
        (s.step current op).disk.node? q = s.disk.node? q) := by
  rcases step_cases current s op with
    ⟨p, fuzzy, rfl⟩ | ⟨n, f, deed, hwriting, -⟩ | ⟨p, fuzzy, hstep, -, hopens⟩ | ⟨hstep, -⟩
  · cases h
  · rw [hwriting] at h
    cases h
  · obtain ⟨new, hconnections, -⟩ := connections_connect ⟨s.disk.touch current p, s.connections⟩
      (s.disk.openDatabase current p fuzzy)
    rw [hstep, disk_openDatabase]
    exact ⟨s.disk.keeps_touch current p, ⟨new, hconnections.symm⟩,
      fun hop hs => Disk.node?_touch (hs.opensPlainly hop hopens) s.disk⟩
  · rw [hstep]
    exact ⟨fun _ _ h => h, List.prefix_rfl, fun _ _ => rfl⟩

/-- A connection that is opened to the place shows what there is, and then what the deeds there
leave for it. -/
theorem shows_run_of_new {after : List (Operation ν)} {c : Connection} (hs : s.Sound current q)
    (hop : op.Respects current q) (hafter : ∀ op ∈ after, op.Respects current q)
    (hc : (s.step current op).connections[s.connections.length]? = some c)
    (hplace : c.handle.place = q) :
    q.IsNameable ∧ ∃ db, (s.step current op).disk.database? q = some db ∧
      ((s.step current op).run current after).Shows s.connections.length c.handle
        (Deed.seen db ((s.step current op).deeds current q after)) := by
  have ht := sound_step hop hs
  obtain ⟨hnameable, ⟨hfile, hdb⟩ | ⟨db, hremoved⟩⟩ :=
    ht.holdings c (List.mem_of_getElem? hc) hplace
  · obtain ⟨db, hdb⟩ := Option.isSome_iff_exists.mp hdb
    obtain ⟨h, holding⟩ := c
    subst hfile
    exact ⟨hnameable, db, hdb, seen_run hafter ht hc hplace hdb⟩
  · exact absurd hremoved (holding_ne_removed_of_new hc)

/-- Two databases: one gets a row, is created anew and gets another version, and the other one stays
as it is. A path with a slash at its end leads to none of them. -/
def neighbours : List (Operation Unit) :=
  [.createAt "a.db".toList true, .insert 0 .name [.integer 1, .text "Heat".toList],
    .createAt "b/c.db".toList false, .createAt "b/".toList true, .load 1 ".".toList,
    .createAt "a.db".toList true, .setVersion 2 (-1), .clone 0]

end Session

end Filmography
