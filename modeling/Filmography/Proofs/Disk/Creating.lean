import Filmography.Disk.Handle
import Filmography.Proofs.Disk.Following
import Filmography.Proofs.Results

/-!
# Creating and opening databases

Two parties read the path to a database. The system follows it, to see what is there and to remove
it, and the engine that keeps the database makes an address of it. A path is ordinary if both read
it alike; then what the system removes is what the engine would find. Any path spares the places to
which neither is led.

When a database is opened, the engine makes an empty file if it is led to where nothing is. This
only happens at a path that the system follows to something else, which must be an address with
parts.

* `Disk.clearWay_spec`, `Disk.createDatabase_spec`: creating a database at an ordinary path;
* `Disk.openDatabase_of_locate`: opening the database to which a path leads;
* `Disk.touch_cases`, `Disk.node?_touch`: what opening does to the disk.
-/

namespace Filmography

/-- The system has names as long as those of a place. -/
def Place.IsNameable (place : Place) : Prop :=
  ∀ name ∈ place, Utf8.size name ≤ Path.nameLimit

/-- Where the database at an address is. -/
def Address.place (current : Place) (a : Address) : Place :=
  if a.access = .memory then Disk.memoryPlace else a.path.place current

/-- A path that is no address with parts is taken as it is. -/
theorem Address.ofText_of_not_isPrefix {p : Path} (hp : ¬"file:".toList <+: p) :
    Address.ofText p =
      .ok (if p = [] ∨ p = Address.memoryPath then ⟨p, .memory⟩ else ⟨p, .create⟩) := by
  rw [Address.ofText]
  · rfl
  · rintro t rfl
    exact hp ⟨t, rfl⟩

namespace Path

/-- A path that the system and the engine read alike, as the path to a file. -/
structure IsOrdinary (p : Path) : Prop where
  /-- The system takes it. -/
  taken : p.fault? = none
  /-- It is no address with parts. -/
  plain : ¬"file:".toList <+: p
  /-- It does not stand for memory. -/
  filed : p ≠ Address.memoryPath
  /-- It ends in a name. -/
  named : ∃ pieces last, Text.splitOn '/' p = pieces ++ [last] ∧ IsName last

/-- A path by which nothing at a place is reached, neither by the system nor by the engine. -/
structure Spares (current : Place) (p : Path) (q : Place) : Prop where
  /-- The system follows it to another place. -/
  system : p.place current ≠ q
  /-- The engine follows it to another place. -/
  engine : ∀ a, Address.ofText p = .ok a → a.place current ≠ q

/-- A path by which no database at a place is opened but the one that the system finds there. -/
def OpensPlainly (current : Place) (p : Path) (q : Place) : Prop :=
  ¬"file:".toList <+: p ∨ p.Spares current q

/-- A path that is short enough for the engine. -/
structure Fits (current : Place) (p : Path) : Prop where
  /-- The paths from the root to directories on the way are. -/
  along : ∀ place ∈ p.placesAlong current, Disk.placeSize place ≤ Disk.placeLimit
  /-- Its names are. -/
  names : (p.place current).IsNameable
  /-- The path to the journal is. -/
  journal : Disk.placeSize (p.place current) + Utf8.size Disk.journalSuffix ≤ Disk.placeLimit + 1

end Path

namespace Disk

open Filmography.Path

variable {d d' : Disk} {current : Place} {p : Path}

/-! ### Ordinary paths -/

/-- The engine takes an ordinary path as it is. -/
theorem ofText_of_isOrdinary (hp : p.IsOrdinary) : Address.ofText p = .ok { path := p } := by
  obtain ⟨pieces, last, hpieces, hlast⟩ := hp.named
  rw [Address.ofText_of_not_isPrefix hp.plain,
    if_neg (not_or.mpr ⟨ne_nil_of_isName hpieces hlast, hp.filed⟩)]

/-- An ordinary path goes on from the directory that holds what it leads to. -/
theorem exists_place_eq (hp : p.IsOrdinary) (current : Place) :
    ∃ pieces last, Text.splitOn '/' p = pieces ++ [last] ∧ IsName last ∧
      p.place current = pieces.foldl step (p.start current) ++ [last] := by
  obtain ⟨pieces, last, hpieces, hlast⟩ := hp.named
  refine ⟨pieces, last, hpieces, hlast, ?_⟩
  rw [place_eq, hpieces, List.foldl_append, List.foldl_cons, List.foldl_nil, step_of_isName hlast]

theorem place_ne_nil (hp : p.IsOrdinary) (current : Place) : p.place current ≠ [] := by
  obtain ⟨pieces, last, -, -, hplace⟩ := exists_place_eq hp current
  rw [hplace]
  exact List.concat_ne_nil _ _

/-- An ordinary path spares all places but one. -/
theorem spares_of_ne {q : Place} (hp : p.IsOrdinary) (hq : p.place current ≠ q) :
    p.Spares current q := by
  refine ⟨hq, fun a ha => ?_⟩
  rw [ofText_of_isOrdinary hp] at ha
  cases ha
  exact hq

/-- A path leads to its place as long as no directory is removed. -/
theorem locate_of_keepsDirectories {target : Place} (hp : p.IsOrdinary)
    (hproper : current.IsProper) (hkeeps : KeepsDirectories d d')
    (h : d.locate current p = .ok target) : d'.locate current p = .ok target := by
  obtain ⟨pieces, last, hpieces, hlast, -⟩ := exists_place_eq hp current
  obtain ⟨hfault, hpasses, hrest⟩ := (locate_eq_ok_iff hpieces hlast).mp h
  exact (locate_eq_ok_iff hpieces hlast).mpr
    ⟨hfault, hpasses.of_keepsDirectories hkeeps (isProper_start hproper p), hrest⟩

theorem node?_start (hcurrent : d.node? current = some .directory) (p : Path) :
    d.node? (p.start current) = some .directory := by
  rw [start]
  split
  · rfl
  · exact hcurrent

/-- What a path leads to is in a directory. -/
theorem node?_dropLast_of_locate {target : Place} (hp : p.IsOrdinary)
    (hcurrent : d.node? current = some .directory) (h : d.locate current p = .ok target) :
    d.node? target.dropLast = some .directory := by
  obtain ⟨pieces, last, hpieces, hlast, -⟩ := exists_place_eq hp current
  obtain ⟨-, hpasses, -, rfl⟩ := (locate_eq_ok_iff hpieces hlast).mp h
  rw [List.dropLast_concat]
  exact hpasses.node?_foldl (node?_start hcurrent p)

/-- A database can be accessed where a path leads that is short enough, if no directory is there. -/
theorem isReachable_iff {access : Access} :
    d.isReachable current p access = true ↔
      p.Fits current ∧ d.node? (p.place current).dropLast = some .directory ∧
        d.node? (p.place current) ≠ some .directory ∧
          (d.node? (p.place current) = none → access = .create) := by
  simp only [isReachable, Bool.and_eq_true, List.all_eq_true, decide_eq_true_eq]
  refine and_congr ?_ ?_
  · exact ⟨fun h => ⟨h.1.1, h.1.2, h.2⟩, fun h => ⟨⟨h.along, h.names⟩, h.journal⟩⟩
  · rcases d.node? (p.place current).dropLast with _ | ⟨_ | _ | _⟩
    · simp
    · rcases d.node? (p.place current) with _ | ⟨_ | _ | _⟩ <;> simp
    · simp
    · simp

/-- The engine accesses a database where an ordinary path leads, or refuses the path. -/
theorem reach_of_isOrdinary (hp : p.IsOrdinary) (d : Disk) (current : Place) :
    d.reach current p =
      if d.isReachable current p .create = true then .ok (p.place current, .create)
      else .error (.cannotOpen (some p)) := by
  have hnull : '\x00' ∉ p := by
    intro hnull
    have htaken := hp.taken
    rw [fault?, if_pos hnull] at htaken
    cases htaken
  rw [reach, if_neg hnull, ofText_of_isOrdinary hp]
  show (if (!d.isReachable current p .create) = true then _ else _) = _
  cases d.isReachable current p .create with
  | true => rfl
  | false => rfl

/-- The engine accesses a database in memory, or where the path of an address leads. -/
theorem reach_cases {place : Place} {access : Access}
    (h : d.reach current p = .ok (place, access)) :
    ∃ a, Address.ofText p = .ok a ∧ access = a.access ∧ place = a.place current ∧
      (access = .memory ∧ place = memoryPlace ∨
        place = a.path.place current ∧ d.isReachable current a.path access = true) := by
  rw [reach] at h
  split at h
  · cases h
  · cases haddress : Address.ofText p with
    | error f =>
      rw [haddress] at h
      cases h
    | ok a =>
      rw [haddress] at h
      change (if a.access = .memory then .ok (memoryPlace, a.access)
        else if (!d.isReachable current a.path a.access) = true then
          .error (DatabaseFault.cannotOpen (some p))
        else .ok (a.path.place current, a.access)) = Except.ok (place, access) at h
      split at h
      · rename_i hmemory
        cases h
        exact ⟨a, rfl, rfl, (if_pos hmemory).symm, .inl ⟨hmemory, rfl⟩⟩
      · rename_i hmemory
        split at h
        · cases h
        · rename_i hreachable
          cases h
          rw [Bool.not_eq_true, Bool.not_eq_false'] at hreachable
          exact ⟨a, rfl, rfl, (if_neg hmemory).symm, .inr ⟨rfl, hreachable⟩⟩

/-! ### Clearing the way -/

/-- Make the directories that lead to a new database. -/
def makeWay (d : Disk) (current : Place) (p : Path) : Disk × Except Error Unit :=
  match p.parent? with
  | none | some [] => (d, .ok ())
  | some parent =>
    let made := d.makeDirectories current parent
    (made.1, made.2.mapError (fault parent))

theorem clearWay_eq (d : Disk) (current : Place) (p : Path) :
    d.clearWay current p =
      match (d.makeWay current p).2, (d.makeWay current p).1.locate current p with
      | .error e, _ => ((d.makeWay current p).1, .error e)
      | .ok (), .error _ => ((d.makeWay current p).1, .ok ())
      | .ok (), .ok place =>
        match (d.makeWay current p).1.node? place with
        | none => ((d.makeWay current p).1, .ok ())
        | some .directory => ((d.makeWay current p).1, .error (fault p .isDirectory))
        | some _ => ((d.makeWay current p).1.remove place, .ok ()) :=
  rfl

theorem furnishes_makeWay (d : Disk) (current : Place) (p : Path) :
    Furnishes d (d.makeWay current p).1 := by
  rw [makeWay]
  split
  · exact .refl d
  · exact .refl d
  · exact furnishes_makeDirectories d current _

/-- Clearing the way to a database concerns the place to which the system is led. -/
theorem alters_clearWay (d : Disk) (current : Place) (p : Path) :
    Alters d (d.clearWay current p).1 (p.place current) := by
  have hmade := (furnishes_makeWay d current p).alters (p.place current)
  rw [clearWay_eq]
  split
  · exact hmade
  · exact hmade
  · rename_i target _ hlocate
    obtain rfl := place_of_locate hlocate
    split
    · exact hmade
    · exact hmade
    · rename_i n hn hnode
      refine hmade.remove (ne_nil_of_node? hnode hn) ?_
      rw [hnode]
      exact fun hdirectory => hn (Option.some.inj hdirectory)

/-- The way to a database at an ordinary path is clear: the path leads to its place, and nothing is
there. -/
structure Clears (d : Disk) (current : Place) (p : Path) : Prop where
  /-- The path leads to its place. -/
  leads : (p.place current).IsNameable → d.locate current p = .ok (p.place current)
  /-- Nothing is there. -/
  clear : (p.place current).IsNameable → d.node? (p.place current) = none

/-- The directories that lead to a database are made, or it fails at one of them. -/
theorem makeWay_spec (hcurrent : d.node? current = some .directory) {pieces : List Text}
    {last : Text} (hpieces : Text.splitOn '/' p = pieces ++ [last]) (hlast : IsName last) :
    (d.makeWay current p).2 = .ok () ∧ (d.makeWay current p).1.Passes (p.start current) pieces ∨
      ∃ path f, (d.makeWay current p).2 = .error (.file path f) := by
  rcases pieces with _ | ⟨first, more⟩
  · rw [makeWay, parent?_of_single hpieces hlast]
    exact .inl ⟨rfl, trivial⟩
  · obtain ⟨parent, hparent, hne, hstart, hbusy⟩ := exists_parent hpieces hlast current
    have hmake : d.makeWay current p = ((d.makeDirectories current parent).1,
        (d.makeDirectories current parent).2.mapError (fault parent)) := by
      obtain ⟨c, t, rfl⟩ := List.exists_cons_of_ne_nil hne
      rw [makeWay, hparent]
    rw [hmake]
    cases hmade : (d.makeDirectories current parent).2 with
    | error f => exact .inr ⟨parent, .system f, rfl⟩
    | ok u =>
      refine .inl ⟨rfl, ?_⟩
      have hdirectory := node?_start
        ((furnishes_makeDirectories d current parent current).directory hcurrent) p
      rw [← passes_busy hdirectory, ← hbusy, passes_busy hdirectory, ← hstart]
      exact passes_makeDirectories hmade

/-- The way to a new database is cleared, or it fails and nothing but directories is made. -/
theorem clearWay_spec (hp : p.IsOrdinary) (hproper : current.IsProper)
    (hcurrent : d.node? current = some .directory) :
    (∃ d' path f, Furnishes d d' ∧ d.clearWay current p = (d', .error (.file path f))) ∨
      ∃ d', d'.Clears current p ∧ d.clearWay current p = (d', .ok ()) := by
  obtain ⟨pieces, last, hpieces, hlast, hplace⟩ := exists_place_eq hp current
  have hfurnishes := furnishes_makeWay d current p
  rcases makeWay_spec hcurrent hpieces hlast with ⟨hmade, hpasses⟩ | ⟨path, f, hmade⟩
  · rw [clearWay_eq, hmade]
    generalize (d.makeWay current p).1 = d₁ at hfurnishes hpasses
    cases hlocate : d₁.locate current p with
    | error f =>
      -- the system does not take the last name
      have hnameable : ¬ (p.place current).IsNameable := by
        intro hnameable
        have hlast' : Utf8.size last ≤ nameLimit :=
          hnameable last (by rw [hplace]; exact List.mem_concat_self)
        rw [(locate_eq_ok_iff hpieces hlast).mpr ⟨hp.taken, hpasses, hlast', rfl⟩] at hlocate
        cases hlocate
      exact .inr ⟨d₁, ⟨fun h => absurd h hnameable, fun h => absurd h hnameable⟩, rfl⟩
    | ok target =>
      obtain rfl := place_of_locate hlocate
      have hremoved (hfile : d₁.node? (p.place current) ≠ some .directory) :
          (d₁.remove (p.place current)).Clears current p := by
        have hne := place_ne_nil hp current
        have halters := (Alters.refl d₁ _).remove hne hfile
        refine ⟨fun _ => locate_of_keepsDirectories hp hproper halters.directories hlocate,
          fun _ => ?_⟩
        rw [node?_remove d₁ hne, if_pos rfl]
      dsimp only
      cases hnode : d₁.node? (p.place current) with
      | none => exact .inr ⟨d₁, ⟨fun _ => hlocate, fun _ => hnode⟩, rfl⟩
      | some n =>
        cases n with
        | directory => exact .inl ⟨d₁, p, .system .isDirectory, hfurnishes, rfl⟩
        | file content => exact .inr ⟨_, hremoved (by rw [hnode]; simp), rfl⟩
        | database db => exact .inr ⟨_, hremoved (by rw [hnode]; simp), rfl⟩
  · rw [clearWay_eq, hmade]
    exact .inl ⟨_, path, f, hfurnishes, rfl⟩

/-! ### Creating -/

/-- How creating a database at an ordinary path can end. -/
inductive Creation (d : Disk) (current : Place) (p : Path) (fuzzy : Bool) :
    Disk × Except Error Handle → Prop
  /-- The way cannot be cleared. -/
  | blocked {d' : Disk} {path : Text} {f : FileFault} (hfurnishes : Furnishes d d') :
      Creation d current p fuzzy (d', .error (.file path f))
  /-- The way is cleared, but the engine refuses the path. -/
  | refused {d' : Disk} {f : DatabaseFault} (hclears : d'.Clears current p) :
      Creation d current p fuzzy (d', .error (.database f))
  /-- There is no room for a journal, and an empty file is left. -/
  | spoiled {d' : Disk} {f : DatabaseFault}
      (hroom : hasRoomForJournal (p.place current) = false) :
      Creation d current p fuzzy (d'.put (p.place current) (.file []), .error (.database f))
  /-- There is a new database. -/
  | created {d' : Disk} (hclears : d'.Clears current p) (hfits : p.Fits current)
      (hroom : hasRoomForJournal (p.place current) = true) :
      Creation d current p fuzzy
        (d'.put (p.place current) (.database .new), .ok ⟨p, p.place current, fuzzy⟩)

theorem createDatabase_spec (hp : p.IsOrdinary) (hproper : current.IsProper)
    (hcurrent : d.node? current = some .directory) (fuzzy : Bool) :
    d.Creation current p fuzzy (d.createDatabase current p fuzzy) := by
  rcases clearWay_spec hp hproper hcurrent with
    ⟨d', path, f, hfurnishes, hclear⟩ | ⟨d', hclears, hclear⟩
  · rw [createDatabase, hclear]
    exact .blocked hfurnishes
  · rw [createDatabase, hclear]
    dsimp only
    rw [establish, reach_of_isOrdinary hp]
    cases hreachable : d'.isReachable current p .create with
    | false => exact .refused hclears
    | true =>
      obtain ⟨hfits, -⟩ := isReachable_iff.mp hreachable
      have hnone := hclears.clear hfits.names
      cases hroom : hasRoomForJournal (p.place current) with
      | false =>
        simp only [if_true, hnone, hroom]
        exact .spoiled hroom
      | true =>
        simp only [if_true, hnone, hroom]
        exact .created hclears hfits hroom

/-! ### Opening -/

/-- The error about a database whose version is not the current one. -/
def mismatch (version : Int) : Error :=
  .versionMismatch (Database.extended Database.currentVersion) (Database.extended version)

/-- What opening a path comes to that leads to the place of a database, if one is there. -/
def opened (current : Place) (p : Path) (fuzzy : Bool) : Option Database → Except Error Handle
  | none => .error (.file p .noDatabase)
  | some db =>
    if db.version = Database.currentVersion then .ok ⟨p, p.place current, fuzzy⟩
    else .error (mismatch db.version)

theorem openDatabase_eq (d : Disk) (current : Place) (p : Path) (fuzzy : Bool) :
    d.openDatabase current p fuzzy =
      match d.lookUp current p, d.reach current p with
      | .error _, _ | .ok .directory, _ => .error (.file p .noDatabase)
      | .ok _, .error f => .error (.database f)
      | .ok _, .ok (place, access) =>
        if access = .memory then .error (mismatch 0)
        else
          match d.node? place with
          | some (.file (_ :: _)) => .error (.database .notADatabase)
          | some (.database db) =>
            if db.version = Database.currentVersion then .ok ⟨p, place, fuzzy⟩
            else .error (mismatch db.version)
          | _ => .error (mismatch 0) := by
  rw [openDatabase]
  rcases d.lookUp current p with f | n
  · rfl
  · rcases n with _ | content | db
    · rfl
    all_goals
      rcases d.reach current p with f | ⟨place, access⟩
      · rfl
      · cases access <;> rfl

theorem lookUp_of_locate {place : Place} (h : d.locate current p = .ok place) :
    d.lookUp current p = match d.node? place with
      | none => .error .notFound
      | some n => .ok n := by
  rw [lookUp, h]
  show (match d.node? place with | none => _ | some n => _) = _
  cases d.node? place with
  | none => rfl
  | some n => rfl

theorem lookUp_eq_ok_iff {node : Node} :
    d.lookUp current p = .ok node ↔
      ∃ place, d.locate current p = .ok place ∧ d.node? place = some node := by
  cases hlocate : d.locate current p with
  | error fault =>
    rw [lookUp, hlocate]
    exact iff_of_false nofun nofun
  | ok place =>
    rw [lookUp_of_locate hlocate]
    cases hnode : d.node? place <;> simp [hnode]

theorem database?_eq_some_iff {place : Place} {db : Database} :
    d.database? place = some db ↔ d.node? place = some (.database db) := by
  rw [database?]
  split
  · rename_i db' hnode
    simp [hnode]
  · rename_i hnode
    simp only [reduceCtorEq, false_iff]
    exact hnode db

/-- A path opens the database to which it leads, if that has the current version. -/
theorem openDatabase_of_locate (hp : p.IsOrdinary) (hfits : p.Fits current)
    (hcurrent : d.node? current = some .directory)
    (hfile : ∀ content, d.node? (p.place current) ≠ some (.file content))
    (hlocate : d.locate current p = .ok (p.place current)) (fuzzy : Bool) :
    d.openDatabase current p fuzzy = opened current p fuzzy (d.database? (p.place current)) := by
  rw [openDatabase_eq, lookUp_of_locate hlocate, database?]
  cases hnode : d.node? (p.place current) with
  | none => rfl
  | some n =>
    cases n with
    | directory => rfl
    | file content => exact absurd hnode (hfile content)
    | database db =>
      have hreachable : d.isReachable current p .create = true :=
        isReachable_iff.mpr ⟨hfits, node?_dropLast_of_locate hp hcurrent hlocate, by simp [hnode],
          fun _ => rfl⟩
      simp only [reach_of_isOrdinary hp, if_pos hreachable, reduceCtorEq, if_false, hnode]
      rfl

/-- A path that does not lead to its place opens nothing. -/
theorem openDatabase_of_not_locate
    (hlocate : d.locate current p ≠ .ok (p.place current)) (fuzzy : Bool) :
    d.openDatabase current p fuzzy = .error (.file p .noDatabase) := by
  cases hfound : d.locate current p with
  | ok target =>
    rw [place_of_locate hfound] at hlocate
    exact absurd hfound hlocate
  | error f =>
    rw [openDatabase_eq, lookUp, hfound]
    rfl

/-- A handle stands for a database with the current version, in a file to which the address that its
path is leads. -/
theorem exists_of_openDatabase_eq_ok {fuzzy : Bool} {h : Handle}
    (hopen : d.openDatabase current p fuzzy = .ok h) :
    h.path = p ∧ h.fuzzy = fuzzy ∧
      (h.place.IsNameable ∧ ∃ a, Address.ofText p = .ok a ∧ a.access ≠ .memory ∧
        h.place = a.path.place current) ∧
      ∃ catalog, d.database? h.place = some ⟨catalog, Database.currentVersion⟩ := by
  rw [openDatabase_eq] at hopen
  split at hopen
  · cases hopen
  · cases hopen
  · cases hopen
  · rename_i place access _ _ _ hreach
    split at hopen
    · cases hopen
    · rename_i haccess
      split at hopen
      · cases hopen
      · rename_i db hnode
        split at hopen
        · rename_i hversion
          cases hopen
          refine ⟨rfl, rfl, ?_, db.catalog, by rw [database?_eq_some_iff, hnode, ← hversion]⟩
          obtain ⟨a, ha, rfl, -, ⟨hmemory, -⟩ | ⟨rfl, hreachable⟩⟩ := reach_cases hreach
          · exact absurd hmemory haccess
          · exact ⟨(isReachable_iff.mp hreachable).1.names, a, ha, haccess, rfl⟩
        · cases hopen
      · cases hopen

/-! ### The disk after opening -/

/-- All that is on one disk is also on another one. -/
def Keeps (d d' : Disk) : Prop :=
  ∀ place node, d.node? place = some node → d'.node? place = some node

/-- When a database is opened, the disk stays as it is, or an empty file is put where its address
leads and nothing was. -/
theorem touch_cases (d : Disk) (current : Place) (p : Path) :
    d.touch current p = d ∨
      ∃ a, Address.ofText p = .ok a ∧ d.node? (a.place current) = none ∧
        d.touch current p = d.put (a.place current) (.file []) := by
  rw [touch]
  split
  · exact .inl rfl
  · exact .inl rfl
  · exact .inl rfl
  · split
    · exact .inl rfl
    · rename_i place access _ _ hreach h
      obtain ⟨a, ha, -, rfl, -⟩ := reach_cases hreach
      obtain ⟨-, hnone⟩ := not_or.mp h
      exact .inr ⟨a, ha, by simpa using hnone, rfl⟩

theorem ne_nil_of_node?_eq_none {place : Place} (h : d.node? place = none) : place ≠ [] := by
  rintro rfl
  cases h

theorem keeps_touch (d : Disk) (current : Place) (p : Path) : d.Keeps (d.touch current p) := by
  intro place node hnode
  obtain heq | ⟨a, -, hnone, heq⟩ := d.touch_cases current p
  · rw [heq, hnode]
  · have hne : a.place current ≠ place := by
      rintro rfl
      rw [hnone] at hnode
      cases hnode
    rw [heq, node?_put d (ne_nil_of_node?_eq_none hnone), if_neg hne, hnode]

/-- A database is not opened where a path leads nowhere. -/
theorem touch_of_not_exists (h : d.exists? current p = false) : d.touch current p = d := by
  rw [exists?] at h
  rw [touch]
  cases hfound : d.lookUp current p with
  | error fault => rfl
  | ok node =>
    rw [hfound] at h
    cases h

/-- A path that is taken as it is leads to a file when a database is opened, so nothing is made. -/
theorem touch_of_not_isPrefix {p : Path} (hp : ¬"file:".toList <+: p) (d : Disk)
    (current : Place) : d.touch current p = d := by
  rw [touch]
  split
  · rfl
  · rfl
  · rfl
  · next node place access _ hfound hreach =>
    refine if_pos ?_
    obtain ⟨a, haddress, -, -, ⟨hmemory, -⟩ | ⟨hplace, -⟩⟩ := reach_cases hreach
    · exact .inl hmemory
    · refine .inr ?_
      obtain ⟨target, hlocate, hnode⟩ := lookUp_eq_ok_iff.mp hfound
      have hpath : a.path = p := by
        rw [Address.ofText_of_not_isPrefix hp] at haddress
        cases haddress
        split <;> rfl
      rw [hplace, hpath, place_of_locate hlocate, hnode]
      rfl

/-- Opening a path does nothing to a place at which it only opens what the system finds. -/
theorem node?_touch {q : Place} (hp : p.OpensPlainly current q) (d : Disk) :
    (d.touch current p).node? q = d.node? q := by
  rcases hp with hplain | hspares
  · rw [touch_of_not_isPrefix hplain]
  · obtain heq | ⟨a, ha, hnone, heq⟩ := d.touch_cases current p
    · rw [heq]
    · rw [heq, node?_put d (ne_nil_of_node?_eq_none hnone), if_neg (hspares.engine a ha)]

end Disk

end Filmography
