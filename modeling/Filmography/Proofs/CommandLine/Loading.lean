import Filmography.Proofs.Catalog.Reached
import Filmography.Proofs.CommandLine.Choosing

/-!
# Loading and querying

A run that loads data files and answers a query does one after the other, and the query is answered
from the disk that loading leaves. Nothing else comes of the loading, which neither prints nor
reads, so another run may answer the query as well: it finds all that paths lead to as it was left.
Only a database that was kept in memory is gone, and no path leads to that one.

Answering a query changes nothing that is on a disk, and neither does a list of directives, nor a
run that cannot be made sense of. Only an address with parts may leave an empty file where nothing
was.

* `Disk.stored`: what another run finds;
* `Disk.stored_touch`: it is all the same to another run when a database is opened;
* `opened?_of_agrees`: what is opened only depends on what paths lead to;
* `disk_perform`: runs that do not load;
* `play_program_twice`: one run and two.
-/

namespace Filmography

/-! ### Disks between runs -/

namespace Disk

open Filmography.Path

/-- What another run finds of a disk: a database that was kept in memory is gone. -/
def stored (d : Disk) : Disk :=
  d.remove memoryPlace

/-- Two disks hold the same wherever paths can lead. -/
def Agrees (d d' : Disk) : Prop :=
  ∀ place, place.IsProper → d'.node? place = d.node? place

theorem agrees_stored (d : Disk) : d.Agrees d.stored := by
  have hmemory : memoryPlace ≠ [] := List.cons_ne_nil _ _
  intro place hplace
  rw [stored, node?_remove d hmemory, if_neg]
  rintro rfl
  exact hplace (List.mem_singleton_self [])

theorem isProper_foldl_step {place : Place} (h : place.IsProper) (pieces : List Text) :
    (pieces.foldl step place).IsProper := by
  induction pieces generalizing place with
  | nil => exact h
  | cons piece pieces ih => exact ih (isProper_step h piece)

theorem isProper_place {current : Place} (h : current.IsProper) (p : Path) :
    (p.place current).IsProper :=
  isProper_foldl_step (isProper_start h p) _

/-- A database that is in a file is at a place to which a path leads. -/
theorem isProper_of_reach {d : Disk} {current place : Place} {p : Path} {access : Access}
    (hcurrent : current.IsProper) (h : d.reach current p = .ok (place, access))
    (hmemory : access ≠ .memory) : place.IsProper := by
  obtain ⟨a, -, -, -, ⟨haccess, -⟩ | ⟨rfl, -⟩⟩ := reach_cases h
  · exact absurd haccess hmemory
  · exact isProper_place hcurrent a.path

section

variable {d d' : Disk} (h : d.Agrees d') {current : Place} (hcurrent : current.IsProper)

include h

theorem follow_of_agrees {place : Place} (hplace : place.IsProper) (names : List Text) :
    d'.follow place names = d.follow place names := by
  induction names generalizing place with
  | nil => rfl
  | cons name rest ih =>
    have hnext := isProper_step hplace name
    rw [follow, follow, h _ hnext, ih hnext]

include hcurrent

theorem lookUp_of_agrees (p : Path) : d'.lookUp current p = d.lookUp current p := by
  have hlocate : d'.locate current p = d.locate current p := by
    rw [locate, locate, follow_of_agrees h (isProper_start hcurrent p)]
  cases hfound : d.locate current p with
  | error f =>
    rw [lookUp, lookUp, hlocate, hfound]
    rfl
  | ok place =>
    have hplace : place.IsProper := place_of_locate hfound ▸ isProper_place hcurrent p
    rw [lookUp_of_locate hfound, lookUp_of_locate (hlocate.trans hfound), h place hplace]

theorem reach_of_agrees (p : Path) : d'.reach current p = d.reach current p := by
  have hreachable : ∀ (path : Path) (access : Access),
      d'.isReachable current path access = d.isReachable current path access := by
    intro path access
    have hplace := isProper_place hcurrent path
    have hparent : Place.IsProper (path.place current).dropLast :=
      fun hmem => hplace ((List.dropLast_sublist _).mem hmem)
    rw [isReachable, isReachable, h _ hplace, h _ hparent]
  simp only [reach, hreachable]

theorem openDatabase_of_agrees (p : Path) (fuzzy : Bool) :
    d'.openDatabase current p fuzzy = d.openDatabase current p fuzzy := by
  rw [openDatabase_eq, openDatabase_eq, lookUp_of_agrees h hcurrent, reach_of_agrees h hcurrent]
  rcases d.lookUp current p with f | _ | content | db
  · rfl
  · rfl
  all_goals
    rcases hreach : d.reach current p with f | ⟨place, access⟩
    · rfl
    · dsimp only
      split
      · rfl
      · next hmemory => rw [h place (isProper_of_reach hcurrent hreach hmemory)]

/-- The database of a handle that was opened is at a place to which paths can lead. -/
theorem store_of_agrees {p : Path} {fuzzy : Bool} {handle : Handle}
    (hopen : d.openDatabase current p fuzzy = .ok handle) (engine : Engine) :
    d'.store handle engine = d.store handle engine := by
  obtain ⟨-, -, ⟨-, a, -, -, hpath⟩, -⟩ := exists_of_openDatabase_eq_ok hopen
  have hplace : handle.place.IsProper := hpath ▸ isProper_place hcurrent a.path
  rw [store, store, database?, database?, h _ hplace]

end

/-- Another run finds the same touched. -/
theorem stored_touch {current : Place} (hcurrent : current.IsProper) (d : Disk) (p : Path) :
    (d.touch current p).stored = d.stored.touch current p := by
  have h := d.agrees_stored
  rw [touch, touch, lookUp_of_agrees h hcurrent, reach_of_agrees h hcurrent]
  rcases d.lookUp current p with f | _ | content | db
  · rfl
  · rfl
  all_goals
    rcases hreach : d.reach current p with f | ⟨place, access⟩
    · rfl
    · dsimp only
      by_cases hmemory : access = .memory
      · rw [if_pos (.inl hmemory), if_pos (.inl hmemory)]
      · have hproper := isProper_of_reach hcurrent hreach hmemory
        have hne : place ≠ memoryPlace := by
          rintro rfl
          exact hproper (List.mem_singleton_self [])
        rw [h place hproper]
        split
        · rfl
        · exact remove_put d hne _

end Disk

namespace CommandLine

/-! ### What queries are answered from -/

/-- What is opened only depends on what paths lead to. -/
theorem opened?_of_agrees {env : Host} (hcurrent : env.current.IsProper) {d d' : Disk}
    (h : d.Agrees d') (o : Options) (database : Path) (threshold : Float) (text : Text) :
    opened? env o d' database threshold text = opened? env o d database threshold text := by
  have hexists : d'.exists? env.current database = d.exists? env.current database := by
    rw [Disk.exists?, Disk.exists?, Disk.lookUp_of_agrees h hcurrent]
  rw [opened?, opened?, hexists, Disk.openDatabase_of_agrees h hcurrent]
  cases hopen : d.openDatabase env.current database !(o.has .noFuzzy) with
  | error e => rfl
  | ok handle =>
    have hstore := Disk.store_of_agrees h hcurrent hopen env.engine
    simp only [Except.mapError, bind, Except.bind, hstore]

/-- Responding to a query only depends on the store, and leaves the disk as it is. -/
theorem outcome_respond_of_disk (o : Options) (s : Store) (q : Query) (d d' : Disk)
    (input : Text) : (respond o s q).outcome d' input =
      { (respond o s q).outcome d input with disk := d' } := by
  rw [outcome_respond, outcome_respond, outcome_hold, outcome_hold]
  cases (((consult o s q).run (answer o) (listen o)).play input).result with
  | error e => rfl
  | ok hits? =>
    simp only [Except.mapError, Outcome.andThen_ok, Outcome.ofReport]
    cases finish o (.ok hits?) <;> rfl

theorem disk_respond (o : Options) (s : Store) (q : Query) (d : Disk) (input : Text) :
    ((respond o s q).outcome d input).disk = d := by
  rw [outcome_respond_of_disk o s q d d]

/-- A search does no more to the disk than opening the database does. -/
theorem disk_search (env : Host) (o : Options) (database : Path) (threshold : Float)
    (text : Text) (d : Disk) (input : Text) :
    ((search env o database threshold text).outcome d input).disk =
      d.touch env.current database := by
  obtain ⟨opening, hsearch⟩ := goesOn_search env o database threshold text d
  rw [hsearch]
  cases opened? env o d database threshold text with
  | error failure => rfl
  | ok opened => exact disk_respond o _ _ _ input

/-- A search comes to the same on disks that hold the same wherever paths can lead. -/
theorem search_of_agrees {env : Host} (hcurrent : env.current.IsProper) {d d' : Disk}
    (h : d.Agrees d') (o : Options) (database : Path) (threshold : Float) (text input : Text) :
    let u := (search env o database threshold text).outcome d input
    let u' := (search env o database threshold text).outcome d' input
    u'.printed = u.printed ∧ u'.result = u.result := by
  obtain ⟨opening, hsearch⟩ := goesOn_search env o database threshold text d
  obtain ⟨opening', hsearch'⟩ := goesOn_search env o database threshold text d'
  rw [hsearch, hsearch', opened?_of_agrees hcurrent h]
  cases opened? env o d database threshold text with
  | error failure => exact ⟨rfl, rfl⟩
  | ok opened =>
    rw [Outcome.andThen_ok, Outcome.andThen_ok,
      outcome_respond_of_disk o _ _ (d.touch env.current database) (d'.touch env.current database)]
    exact ⟨rfl, rfl⟩

/-! ### Options that differ in what there is to do -/

/-- Options are the same but for the directory to be loaded and the words of the query. -/
structure Options.SameFlags (o o' : Options) : Prop where
  /-- The same switches are on. -/
  switches : ∀ s, o'.has s = o.has s
  /-- The same database is given, or none is. -/
  database : o'.value? .database = o.value? .database
  /-- The same threshold is given, or none is. -/
  goodThreshold : o'.value? .goodThreshold = o.value? .goodThreshold

namespace Options.SameFlags

variable {o o' : Options} (h : o.SameFlags o')

include h

theorem databasePath_eq (env : Host) : databasePath env o' = databasePath env o := by
  rw [databasePath, databasePath, h.database]

theorem goodThreshold_eq : CommandLine.goodThreshold o' = CommandLine.goodThreshold o := by
  rw [CommandLine.goodThreshold, CommandLine.goodThreshold, h.goodThreshold]

theorem detail_eq : detail o' = detail o := by
  funext part t
  rw [detail, detail, h.switches]

theorem hold_eq {α : Type} (d : Dialogue Float α) : hold o' d = hold o d := by
  have hanswer : answer o' = answer o := by
    funext q
    rw [answer, answer, h.switches]
  have hlisten : listen o' = listen o := by
    funext event
    cases event <;> simp only [listen, h.detail_eq]
  rw [hold, hold, hanswer, hlisten]

theorem loadInto_eq (env : Host) (database directory : Path) :
    loadInto env o' database directory = loadInto env o database directory := by
  simp only [loadInto, h.detail_eq, h.switches]

theorem search_eq (env : Host) (database : Path) (threshold : Float) (text : Text) :
    search env o' database threshold text = search env o database threshold text := by
  simp only [search, h.detail_eq, h.hold_eq, h.switches]

end Options.SameFlags

/-- Options to load a directory and to answer a query are split into options only to load it and
options only to answer the query. -/
structure Options.Splits (o load query : Options) : Prop where
  /-- The flags for loading. -/
  loadFlags : o.SameFlags load
  /-- The flags for the query. -/
  queryFlags : o.SameFlags query
  /-- The directory is loaded once. -/
  directory : ∃ directory, o.value? .load = some directory ∧ load.value? .load = some directory
  /-- It is not loaded for the query. -/
  noDirectory : query.value? .load = none
  /-- The query is answered once. -/
  text : ∃ text, o.query? = some text ∧ query.query? = some text
  /-- There is no query when it is loaded. -/
  noText : load.query? = none

/-- Without a directory to load, or with directives to be listed, all that is on the disk stays as
it is. Nothing else comes to it, unless the address of a database has parts. -/
theorem disk_perform {env : Host} {o : Options}
    (h : o.value? .load = none ∨ o.has .listDirectives = true) (d : Disk) (input : Text) :
    let after := ((perform env o).outcome d input).disk
    d.Keeps after ∧
      (o.has .listDirectives = true ∨ ¬"file:".toList <+: databasePath env o → after = d) := by
  have hsame : d.Keeps d := fun _ _ => id
  cases hthreshold : goodThreshold o with
  | error fault =>
    rw [perform_of_error hthreshold]
    exact ⟨hsame, fun _ => rfl⟩
  | ok threshold =>
    cases hlist : o.has .listDirectives with
    | true =>
      rw [perform_listDirectives hthreshold hlist]
      exact ⟨hsame, fun _ => rfl⟩
    | false =>
      have hload : o.value? .load = none := h.resolve_right (by rw [hlist]; decide)
      cases htext : o.query? with
      | none =>
        rw [perform_nothing hthreshold hlist hload htext]
        exact ⟨hsame, fun _ => rfl⟩
      | some text =>
        rw [perform_search hthreshold hlist hload htext]
        dsimp only
        rw [disk_search]
        refine ⟨d.keeps_touch _ _, fun hplain => ?_⟩
        exact Disk.touch_of_not_isPrefix (hplain.resolve_left nofun) d _

/-- What comes of options that are split, in one run and in two. -/
theorem ended_perform_of_splits {env : Host} (hcurrent : env.current.IsProper)
    {o load query : Options} (h : o.Splits load query) (d : Disk) (input other : Text) :
    let once := ((perform env o).outcome d input).ended
    let loaded := ((perform env load).outcome d other).ended
    let asked := ((perform env query).outcome loaded.result.1.stored input).ended
    (loaded.result.2 = 0 → once.result.2 = asked.result.2 ∧ once.printed = asked.printed ∧
      once.result.1.stored = asked.result.1) ∧
    (loaded.result.2 ≠ 0 → once = loaded) := by
  cases hthreshold : goodThreshold o with
  | error fault =>
    have hload := h.loadFlags.goodThreshold_eq.trans hthreshold
    rw [perform_of_error hthreshold, perform_of_error hload]
    exact ⟨fun h => absurd h Nat.one_ne_zero, fun _ => rfl⟩
  | ok threshold =>
    have hthreshold₁ := h.loadFlags.goodThreshold_eq.trans hthreshold
    have hthreshold₂ := h.queryFlags.goodThreshold_eq.trans hthreshold
    cases hlist : o.has .listDirectives with
    | true =>
      rw [perform_listDirectives hthreshold hlist,
        perform_listDirectives hthreshold₁ ((h.loadFlags.switches _).trans hlist),
        perform_listDirectives hthreshold₂ ((h.queryFlags.switches _).trans hlist)]
      simp [Outcome.ended]
    | false =>
      have hlist₁ := (h.loadFlags.switches _).trans hlist
      have hlist₂ := (h.queryFlags.switches _).trans hlist
      obtain ⟨directory, hdirectory, hdirectory₁⟩ := h.directory
      obtain ⟨text, htext, htext₂⟩ := h.text
      rw [perform_load_search hthreshold hlist hdirectory htext, Run.outcome_bind,
        outcome_perform_load hthreshold₁ hlist₁ hdirectory₁ h.noText,
        perform_search hthreshold₂ hlist₂ h.noDirectory htext₂,
        h.loadFlags.databasePath_eq, h.queryFlags.databasePath_eq, h.loadFlags.loadInto_eq,
        h.queryFlags.search_eq]
      rw [isQuiet_loadInto env o _ directory d input, isQuiet_loadInto env o _ directory d other]
      generalize (loadInto env o (databasePath env o) directory).outcome d [] = u
      obtain ⟨-, logged, result, disk, -⟩ := u
      cases result with
      | error failure => exact ⟨fun h => absurd h Nat.one_ne_zero, fun _ => rfl⟩
      | ok done =>
        refine ⟨fun _ => ?_, fun hfailed => absurd rfl hfailed⟩
        -- the search finds the same, whether or not what is in memory is gone
        let found := (search env o (databasePath env o) threshold text).outcome disk input
        obtain ⟨hprinted, hresult⟩ := search_of_agrees hcurrent disk.agrees_stored o
          (databasePath env o) threshold text input
        have hsame := Outcome.ended_of_eq (u := { found with logged := logged ++ found.logged })
          hprinted hresult
        refine ⟨hsame.1.symm, hsame.2.symm, ?_⟩
        have hdisk := disk_search env o (databasePath env o) threshold text disk input
        have hdisk' := disk_search env o (databasePath env o) threshold text disk.stored input
        rw [← Disk.stored_touch hcurrent, ← hdisk] at hdisk'
        refine Eq.trans (congrArg Disk.stored ?_) ((Outcome.disk_ended _).trans hdisk').symm
        exact Outcome.disk_ended { found with logged := logged ++ found.logged }

/-- A disk with the files of `DataFile.entangled` in a directory, and another file where a database
is wanted. -/
def entangledDisk : Disk :=
  let home : Disk := (Disk.empty.put ["home".toList] .directory).put
    ["home".toList, "films".toList] (.file (Utf8.encode "films".toList))
  DataFile.all.foldl
    (fun d f =>
      match (DataFile.entangled f).content with
      | .ok stream => d.put ["home".toList, "data".toList, f.fileName] (.file stream.bytes)
      | .error _ => d)
    (home.put ["home".toList, "data".toList] .directory)

end CommandLine

end Filmography
