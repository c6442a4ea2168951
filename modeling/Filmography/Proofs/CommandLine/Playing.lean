import Filmography.CommandLine.Program

/-!
# What comes of a part of a run

A part of a run is played on a disk and against an input. What comes of it is what is printed and
what is logged, its result, the disk after it, and the input that is left. If one part follows
another, it is played on the disk and against the input that the first one leaves, and what it
prints and logs comes after what the first one does; if the first one fails, it is left out. So a
run can be taken apart step by step (`Run.outcome_bind`).

A part is **quiet** if it neither prints nor reads: the input is left as it is, and nothing else
depends on it.
-/

namespace Filmography.CommandLine

variable {α β : Type}

/-! ### Consoles -/

namespace Console

/-- The input that is left after playing. -/
def left : Console α → (input : Text) → Text
  | done _, input => input
  | print _ next, input => next.left input
  | log _ next, input => next.left input
  | readLine next, input =>
    let (line, rest) := cutLine input
    (next (if line = [] then none else some line)).left rest

/-- What follows is played against the input that is left. -/
theorem play_bind (c : Console α) (f : α → Console β) (input : Text) :
    (c.bind f).play input =
      { (f (c.play input).result).play (c.left input) with
        printed := (c.play input).printed ++ ((f (c.play input).result).play (c.left input)).printed
        logged :=
          (c.play input).logged ++ ((f (c.play input).result).play (c.left input)).logged } := by
  induction c generalizing input with
  | done a => rfl
  | print t next ih =>
    simp only [bind, play, left, ih, List.append_assoc]
  | log t next ih =>
    simp only [bind, play, left, ih, List.append_assoc, List.cons_append]
  | readLine next ih =>
    simp only [bind, play, left, ih]

theorem left_bind (c : Console α) (f : α → Console β) (input : Text) :
    (c.bind f).left input = (f (c.play input).result).left (c.left input) := by
  induction c generalizing input with
  | done a => rfl
  | print t next ih => exact ih input
  | log t next ih => exact ih input
  | readLine next ih => exact ih _ _

end Console

/-! ### Outcomes -/

/-- What comes of a part of a run. -/
structure Outcome (α : Type) where
  /-- What is printed. -/
  printed : Text
  /-- What is logged. -/
  logged : Text
  /-- The result. -/
  result : Except Failure α
  /-- The disk after it. -/
  disk : Disk
  /-- The input that is left. -/
  left : Text

/-- What comes of a part and what follows it, which is left out after a failure. -/
def Outcome.andThen (u : Outcome α) (f : α → Disk → Text → Outcome β) : Outcome β :=
  match u.result with
  | .error e => { u with result := .error e }
  | .ok a =>
    let v := f a u.disk u.left
    { v with printed := u.printed ++ v.printed, logged := u.logged ++ v.logged }

namespace Outcome

variable (printed logged : Text) (d : Disk) (input : Text) (f : α → Disk → Text → Outcome β)

/-- What would follow a failure is left out. -/
@[simp]
theorem andThen_error (e : Failure) :
    andThen ⟨printed, logged, .error e, d, input⟩ f = ⟨printed, logged, .error e, d, input⟩ := rfl

@[simp]
theorem andThen_ok (a : α) :
    andThen ⟨printed, logged, .ok a, d, input⟩ f =
      { f a d input with
        printed := printed ++ (f a d input).printed
        logged := logged ++ (f a d input).logged } := rfl

theorem andThen_assoc {γ : Type} (u : Outcome α) (f : α → Disk → Text → Outcome β)
    (g : β → Disk → Text → Outcome γ) :
    (u.andThen f).andThen g = u.andThen fun a d input => (f a d input).andThen g := by
  obtain ⟨printed, logged, result, d, input⟩ := u
  cases result with
  | error e => rfl
  | ok a =>
    rw [andThen_ok, andThen_ok]
    obtain ⟨printed', logged', result', d', input'⟩ := f a d input
    cases result' <;> simp

end Outcome

namespace Run

/-- What comes of a part of a run on a disk and against an input. -/
def outcome (x : Run α) (d : Disk) (input : Text) : Outcome α :=
  let c := x.run.run d
  let played := c.play input
  ⟨played.printed, played.logged, played.result.1, played.result.2, c.left input⟩

variable (d : Disk) (input : Text)

/-- A part that follows another is played on what that one leaves. -/
theorem outcome_bind (x : Run α) (f : α → Run β) :
    (x >>= f).outcome d input =
      (x.outcome d input).andThen fun a d input => (f a).outcome d input := by
  have hbind : (x >>= f).run.run d = (x.run.run d).bind fun p =>
      match p.1 with
      | .ok a => (f a).run.run p.2
      | .error e => .done (.error e, p.2) := by
    refine congrArg (Console.bind _) (funext fun p => ?_)
    obtain ⟨r, d'⟩ := p
    cases r <;> rfl
  simp only [outcome, hbind, Console.play_bind, Console.left_bind, Outcome.andThen]
  cases ((x.run.run d).play input).result.1 with
  | error e => simp [Console.play, Console.left]
  | ok a => rfl

@[simp]
theorem outcome_pure (a : α) : (pure a : Run α).outcome d input = ⟨[], [], .ok a, d, input⟩ := rfl

@[simp]
theorem outcome_throw (e : Failure) :
    (throw e : Run α).outcome d input = ⟨[], [], .error e, d, input⟩ := rfl

@[simp]
theorem outcome_get : (get : Run Disk).outcome d input = ⟨[], [], .ok d, d, input⟩ := rfl

@[simp]
theorem outcome_set (d' : Disk) :
    (set d' : Run Unit).outcome d input = ⟨[], [], .ok (), d', input⟩ := rfl

@[simp]
theorem outcome_check (r : Except Error α) :
    (check r).outcome d input = ⟨[], [], r.mapError .error, d, input⟩ := by
  cases r <;> rfl

theorem outcome_atConsole (c : Console α) :
    (atConsole c).outcome d input =
      ⟨(c.play input).printed, (c.play input).logged, .ok (c.play input).result, d,
        c.left input⟩ := by
  have hlift : (atConsole c).run.run d =
      (c.bind fun a => .done (a, d)).bind fun p => .done (.ok p.1, p.2) := rfl
  simp [outcome, hlift, Console.play_bind, Console.left_bind, Console.play, Console.left]

@[simp]
theorem outcome_say (t : Text) : (say t).outcome d input = ⟨t, [], .ok (), d, input⟩ := by
  rw [say, outcome_atConsole]
  simp [Console.say, Console.play, Console.left]

@[simp]
theorem outcome_inform (t : Text) :
    (inform t).outcome d input = ⟨[], "INFO: ".toList ++ t ++ ['\n'], .ok (), d, input⟩ := by
  rw [inform, outcome_atConsole]
  simp [Console.tell, Console.play, Console.left]

/-! ### Quiet parts -/

/-- A part is quiet if it prints nothing, and neither reads the input nor depends on it. -/
def IsQuiet (x : Run α) : Prop :=
  ∀ d input, x.outcome d input = { x.outcome d [] with printed := [], left := input }

namespace IsQuiet

theorem bind {x : Run α} {f : α → Run β} (hx : x.IsQuiet) (hf : ∀ a, (f a).IsQuiet) :
    (x >>= f).IsQuiet := by
  intro d input
  rw [outcome_bind, outcome_bind, hx d input, hx d []]
  obtain ⟨printed, logged, result, disk, left⟩ := x.outcome d []
  cases result with
  | error e => rfl
  | ok a =>
    simp only [Outcome.andThen]
    rw [hf a disk input, hf a disk []]
    rfl

theorem pure (a : α) : IsQuiet (Pure.pure a) := fun _ _ => rfl

theorem throw (e : Failure) : IsQuiet (MonadExcept.throw e : Run α) := fun _ _ => rfl

theorem get : IsQuiet (MonadState.get : Run Disk) := fun _ _ => rfl

theorem set (d : Disk) : IsQuiet (MonadStateOf.set d : Run Unit) := fun _ _ => rfl

theorem check (r : Except Error α) : (Run.check r).IsQuiet := by
  intro d input
  rw [outcome_check, outcome_check]

theorem inform (t : Text) : (Run.inform t).IsQuiet := by
  intro d input
  rw [outcome_inform, outcome_inform]

theorem detail (o : Options) (part : String) (t : Text) :
    (atConsole (CommandLine.detail o part t)).IsQuiet := by
  intro d input
  rw [outcome_atConsole, outcome_atConsole, CommandLine.detail]
  cases o.has .debug <;> rfl

/-- What is done for each member of a list is quiet if it is for every member. -/
theorem forIn {γ : Type} {f : γ → β → Run (ForInStep β)} (hf : ∀ c b, (f c b).IsQuiet)
    (cs : List γ) (b : β) : (ForIn.forIn cs b f).IsQuiet := by
  induction cs generalizing b with
  | nil => exact pure b
  | cons c cs ih =>
    rw [List.forIn_cons]
    refine (hf c b).bind fun r => ?_
    cases r with
    | done b => exact pure b
    | yield b => exact ih b

end IsQuiet

end Run

open Run in
/-- Loading neither prints nor reads. -/
theorem isQuiet_loadInto (env : Host) (o : Options) (database directory : Path) :
    (loadInto env o database directory).IsQuiet := by
  rw [loadInto]
  refine .bind .get fun d => .bind (.set _) fun _ => .bind (.check _) fun _ =>
    .bind (.inform _) fun _ => .bind (.set _) fun _ => .bind (.check _) fun _ =>
    .bind (.check _) fun loaded => ?_
  obtain ⟨d, loading⟩ := loaded
  have htotals : IsQuiet (inform (totalText loading directory) >>= fun _ =>
      inform (countsText loading)) := .bind (.inform _) fun _ => .inform _
  refine .bind (.set _) fun _ => .bind (.forIn (fun l _ => ?_) _ _) fun _ => ?_
  · exact .bind (.detail o _ _) fun _ => .pure _
  · dsimp only
    split
    · exact .bind (.throw _) fun _ => htotals
    · exact htotals

/-! ### Runs -/

/-- Without a threshold that can be read there is nothing done. -/
theorem perform_of_error {env : Host} {o : Options} {fault : FloatFault}
    (h : goodThreshold o = .error fault) : perform env o = throw (.threshold fault) := by
  rw [perform, h]
  rfl

section

variable {env : Host} {o : Options} {threshold : Float}
  (hthreshold : goodThreshold o = .ok threshold)

include hthreshold

/-- With directives to be listed there is nothing else to do. -/
theorem perform_listDirectives (hlist : o.has .listDirectives = true) :
    perform env o = Run.say Report.directives := by
  rw [perform, hthreshold, hlist]
  rfl

/-- Without a query and a directory to load there is nothing to do. -/
theorem perform_nothing (hlist : o.has .listDirectives = false) (hload : o.value? .load = none)
    (htext : o.query? = none) : perform env o = throw .nothingToDo := by
  rw [perform, hthreshold, hlist, hload, htext]
  rfl

/-- With a query and no directory to load there is only the search. -/
theorem perform_search (hlist : o.has .listDirectives = false) (hload : o.value? .load = none)
    {text : Text} (htext : o.query? = some text) :
    perform env o = search env o (databasePath env o) threshold text := by
  rw [perform, hthreshold, hlist, hload, htext]
  rfl

/-- With a directory to load and no query there is only the loading. -/
theorem outcome_perform_load (hlist : o.has .listDirectives = false) {directory : Path}
    (hload : o.value? .load = some directory) (htext : o.query? = none) (d : Disk) (input : Text) :
    (perform env o).outcome d input =
      (loadInto env o (databasePath env o) directory).outcome d input := by
  have hperform : perform env o = loadInto env o (databasePath env o) directory >>= pure := by
    rw [perform, hthreshold, hlist, hload, htext]
    rfl
  rw [hperform, Run.outcome_bind]
  obtain ⟨printed, logged, result, d, input⟩ :=
    (loadInto env o (databasePath env o) directory).outcome d input
  cases result <;> simp

/-- With both, the search follows the loading. -/
theorem perform_load_search (hlist : o.has .listDirectives = false) {directory : Path}
    (hload : o.value? .load = some directory) {text : Text} (htext : o.query? = some text) :
    perform env o = loadInto env o (databasePath env o) directory >>= fun _ =>
      search env o (databasePath env o) threshold text := by
  rw [perform, hthreshold, hlist, hload, htext]
  rfl

end

/-- The end of a run: a failure is logged, and the exit code tells of it. -/
def Outcome.ended (u : Outcome Unit) : Console.Played (Disk × Nat) :=
  match u.result with
  | .ok () => ⟨u.printed, u.logged, u.disk, 0⟩
  | .error failure => ⟨u.printed, u.logged ++ failure.report ++ ['\n'], u.disk, 1⟩

theorem Outcome.disk_ended (u : Outcome Unit) : u.ended.result.1 = u.disk := by
  rw [ended]
  cases u.result <;> rfl

/-- Parts that print the same and come to the same end with the same exit code and output. -/
theorem Outcome.ended_of_eq {u v : Outcome Unit} (hprinted : v.printed = u.printed)
    (hresult : v.result = u.result) :
    v.ended.result.2 = u.ended.result.2 ∧ v.ended.printed = u.ended.printed := by
  rw [ended, ended, hresult]
  cases u.result <;> exact ⟨rfl, hprinted⟩

theorem play_runOptions (env : Host) (o : Options) (d : Disk) (input : Text) :
    (runOptions env o d).play input = ((perform env o).outcome d input).ended := by
  change (((perform env o).run.run d).bind _).play input = _
  rw [Console.play_bind, Outcome.ended]
  simp only [Run.outcome]
  obtain ⟨result, d'⟩ := (((perform env o).run.run d).play input).result
  cases result <;> simp [Bind.bind, Pure.pure, Console.play, Console.tell, Console.bind]

/-- A run whose command line can be read goes by its options. -/
theorem play_program {env : Host} {words : List Text} {o : Options}
    (h : Options.read words = .ok o) (d : Disk) (input : Text) :
    (program env words d).play input = ((perform env o).outcome d input).ended := by
  rw [program, h]
  exact play_runOptions env o d input

/-- A command line that cannot be read leaves the disk as it is. -/
theorem disk_program_of_error {env : Host} {words : List Text} {why : Interruption}
    (h : Options.read words = .error why) (d : Disk) (input : Text) :
    ((program env words d).play input).result.1 = d := by
  rw [program, h]
  cases why <;> rfl

end Filmography.CommandLine
