import Filmography.Proofs.CommandLine.Playing
import Filmography.Proofs.Disk.Creating
import Filmography.Proofs.Number.Numerals
import Filmography.Proofs.Search.Meaning
import Filmography.Proofs.Search.Visits
import Filmography.Proofs.Text.Trimming

/-!
# Choosing at a console

A person who is asked to choose reads the candidates and answers with a line: a blank line for none
of them, the number of a candidate, counted from one, or something that is refused. So what a person
does is a search with a chooser whose script is the input: it remembers the lines that have not been
read, and answers each question with the next one.

* `Chooses`: what a line chooses among candidates;
* `play_choose`: each question takes one line;
* `play_run`: a dialogue at the console is held with the lines of the input;
* `play_program_of_interactive`: so is what a run does with a query.
-/

namespace Filmography

/-- The lines of a text: what stands before each newline, and what follows the last one unless that
is nothing. -/
def Text.lines : Text → List Text
  | [] => []
  | c :: t =>
    if c = '\n' then [] :: lines t
    else
      match lines t with
      | [] => [[c]]
      | l :: ls => (c :: l) :: ls

namespace CommandLine

/-! ### Lines -/

theorem Console.cutLine_fst_eq_nil_iff {input : Text} :
    (cutLine input).1 = [] ↔ input = [] := by
  cases input with
  | nil => exact iff_of_true rfl rfl
  | cons c t =>
    rw [cutLine]
    split <;> simp

/-- What is read first is the first line, perhaps with its newline, and the other lines are left. -/
theorem Console.lines_eq_cons {input : Text} (h : input ≠ []) :
    ∃ l, input.lines = l :: (cutLine input).2.lines ∧
      ((cutLine input).1 = l ∨ (cutLine input).1 = l ++ ['\n']) := by
  induction input with
  | nil => exact absurd rfl h
  | cons c t ih =>
    rw [Text.lines, cutLine]
    by_cases hc : c = '\n'
    · rw [if_pos hc, if_pos hc]
      exact ⟨[], rfl, .inr (by rw [hc]; rfl)⟩
    · rw [if_neg hc, if_neg hc]
      rcases eq_or_ne t [] with rfl | ht
      · exact ⟨[c], rfl, .inl rfl⟩
      · obtain ⟨l, hlines, hline⟩ := ih ht
        rw [hlines]
        refine ⟨c :: l, rfl, ?_⟩
        rcases hline with hline | hline
        · exact .inl (congrArg (c :: ·) hline)
        · exact .inr (congrArg (c :: ·) hline)

/-- A newline ends a line, and the last line may do without. -/
example : Text.lines "1\n\n2".toList = ["1".toList, [], "2".toList] ∧
    Text.lines "1\n\n2\n".toList = ["1".toList, [], "2".toList] := by
  decide

/-! ### Answers -/

/-- What a line, or the end of the input, chooses among candidates. -/
inductive Chooses (candidates : List Hit) (line : Option Text) : Answer → Prop
  /-- The end of the input chooses nothing, and so does a blank line. -/
  | nothing (h : ∀ l, line = some l → l.trim = []) : Chooses candidates line (.ok none)
  /-- The number of a candidate chooses it. -/
  | candidate {l : Text} {k : Nat} (hline : line = some l)
      (hk : Integer.Format.unsigned64.Spells l.trim k) (hpos : 1 ≤ k)
      (hle : k ≤ candidates.length) :
      Chooses candidates line (.ok (some (candidates.get ⟨k - 1, by omega⟩)))
  /-- Another line is refused. -/
  | refused {l : Text} (hline : line = some l) (hblank : l.trim ≠ [])
      (hother : ∀ k : Nat, Integer.Format.unsigned64.Spells l.trim k →
        ¬(1 ≤ k ∧ k ≤ candidates.length)) (message : String) :
      Chooses candidates line (.error (.chooser message))

/-- An unsigned integer is a natural number. -/
theorem exists_nat_of_spells {t : Text} {n : Int} (h : Integer.Format.unsigned64.Spells t n) :
    ∃ k : Nat, n = k := by
  cases h with
  | plain => exact ⟨_, rfl⟩
  | plus => exact ⟨_, rfl⟩
  | minus hleast => cases hleast

/-- Whatever is answered, it is what the line chooses. In particular the number that is looked up is
always that of a candidate. -/
theorem chooses_readChoice (candidates : List Hit) (line : Option Text) :
    Chooses candidates line (readChoice candidates line) := by
  rw [readChoice]
  by_cases hblank : (line.getD []).trim = []
  · rw [if_pos hblank]
    refine .nothing fun l hl => ?_
    rwa [hl] at hblank
  · rw [if_neg hblank]
    obtain ⟨l, hl⟩ : ∃ l, line = some l := by
      cases line with
      | none => exact absurd rfl hblank
      | some l => exact ⟨l, rfl⟩
    subst hl
    rw [Option.getD_some] at hblank ⊢
    split
    · next fault hfault =>
      refine .refused rfl hblank (fun k hk => ?_) _
      rw [Integer.Format.parse_eq_ok_iff.mpr hk] at hfault
      cases hfault
    · next n hn =>
      have hspells := Integer.Format.parse_eq_ok_iff.mp hn
      obtain ⟨k, rfl⟩ := exists_nat_of_spells hspells
      split
      · next hrange =>
        have hle : k ≤ candidates.length := by omega
        have hpos : 1 ≤ k := by omega
        rw [Int.toNat_natCast, List.getElem?_eq_getElem (by omega)]
        exact .candidate rfl hspells hpos hle
      · next hrange =>
        refine .refused rfl hblank (fun m hm hin => hrange ?_) _
        rw [Integer.Format.parse_eq_ok_iff.mpr hm] at hn
        have hmk : (m : Int) = k := Except.ok.inj hn
        omega

/-- The newline at the end of a line does not count. -/
theorem readChoice_newline (candidates : List Hit) (l : Text) :
    readChoice candidates (some (l ++ ['\n'])) = readChoice candidates (some l) := by
  have hnewline : ∀ c ∈ ['\n'], Text.isSpace c = true := List.forall_mem_singleton.mpr rfl
  rw [readChoice, readChoice, Option.getD_some, Option.getD_some,
    Text.trim_append_of_isSpace hnewline]

/-! ### Questions -/

/-- What is printed when a question is asked. -/
def questionText (q : Question) : Text :=
  candidatesText q ++ promptText q.candidates.length

/-- The chooser whose script is a list of lines. It answers with the next one. -/
def Chooser.ofLines : Chooser (List Text) :=
  fun q lines => (readChoice q.candidates lines.head?, lines.tail)

/-- **A question takes one line.** It is printed, the answer is what the first line of the input
chooses, or its end, and the other lines are left. -/
theorem play_choose (q : Question) (input : Text) :
    (choose q).play input = ⟨questionText q, [], (Chooser.ofLines q input.lines).1⟩ ∧
      ((choose q).left input).lines = (Chooser.ofLines q input.lines).2 := by
  have hchoose : choose q = .print (candidatesText q) (.print (promptText q.candidates.length)
      (.readLine fun line => .done (readChoice q.candidates line))) := rfl
  have hplay : (choose q).play input = ⟨questionText q, [], readChoice q.candidates
      (if (Console.cutLine input).1 = [] then none else some (Console.cutLine input).1)⟩ := by
    simp [hchoose, Console.play, questionText]
  have hleft : (choose q).left input = (Console.cutLine input).2 := rfl
  rw [hplay, hleft, Chooser.ofLines]
  rcases eq_or_ne input [] with rfl | hinput
  · exact ⟨rfl, rfl⟩
  · obtain ⟨l, hlines, hline⟩ := Console.lines_eq_cons hinput
    rw [if_neg (mt Console.cutLine_fst_eq_nil_iff.mp hinput), hlines]
    refine ⟨?_, rfl⟩
    rcases hline with hline | hline
    · rw [hline]
      rfl
    · rw [hline, readChoice_newline]
      rfl

end CommandLine

/-! ### Dialogues -/

/-- What a dialogue reports when it is held with a chooser. -/
def Dialogue.heard {σ ν α : Type} (choose : Chooser σ ν) : Dialogue ν α → σ → List (Event ν)
  | done _, _ => []
  | report event next, memory => event :: next.heard choose memory
  | ask question next, memory =>
    (next (choose question memory).1).heard choose (choose question memory).2

namespace CommandLine

variable {α β : Type}

/-- What is logged of an event. -/
def eventText (o : Options) (e : Event) : Text :=
  ((listen o e).play []).logged

/-- Listening neither prints nor reads. -/
theorem play_listen (o : Options) (e : Event) (input : Text) :
    (listen o e).play input = ⟨[], eventText o e, ()⟩ ∧ (listen o e).left input = input := by
  have hdetail : ∀ (part : String) (t : Text) (input : Text), (detail o part t).play input =
      ⟨[], ((detail o part t).play []).logged, ()⟩ ∧ (detail o part t).left input = input := by
    intro part t input
    rw [detail]
    cases o.has .debug <;> exact ⟨rfl, rfl⟩
  rw [eventText]
  cases e with
  | compiled q statement =>
    rw [listen]
    split
    · exact ⟨rfl, rfl⟩
    · exact hdetail _ _ _
  | settled role q hit? => exact hdetail _ _ _

/-- **An interactive dialogue.** At the console a dialogue is held with the chooser whose script is
the input: the same questions are asked, the same is reported, and it comes to the same; and the
lines that are left are those that the chooser has not used. -/
theorem play_run {o : Options} (hi : o.has .interactive = true) (d : Dialogue Float α)
    (input : Text) :
    (d.run (answer o) (listen o)).play input =
        ⟨(d.hold Chooser.ofLines input.lines).questions.flatMap questionText,
          (d.heard Chooser.ofLines input.lines).flatMap (eventText o),
          (d.hold Chooser.ofLines input.lines).result⟩ ∧
      ((d.run (answer o) (listen o)).left input).lines =
        (d.hold Chooser.ofLines input.lines).memory := by
  induction d generalizing input with
  | done result => exact ⟨rfl, rfl⟩
  | report event next ih =>
    have hrun : (Dialogue.report event next).run (answer o) (listen o) =
        (listen o event).bind fun _ => next.run (answer o) (listen o) := rfl
    obtain ⟨hplay, hleft⟩ := play_listen o event input
    obtain ⟨ihplay, ihleft⟩ := ih input
    rw [hrun, Console.play_bind, Console.left_bind, hplay, hleft, ihplay, ihleft]
    exact ⟨rfl, rfl⟩
  | ask question next ih =>
    have hrun : (Dialogue.ask question next).run (answer o) (listen o) =
        (choose question).bind fun given => (next given).run (answer o) (listen o) := by
      rw [Dialogue.run, answer, if_pos hi]
      rfl
    obtain ⟨hplay, hleft⟩ := play_choose question input
    obtain ⟨ihplay, ihleft⟩ := ih (Chooser.ofLines question input.lines).1
      ((choose question).left input)
    rw [hleft] at ihplay ihleft
    rw [hrun, Console.play_bind, Console.left_bind, hplay]
    dsimp only
    rw [ihplay, ihleft]
    exact ⟨rfl, rfl⟩

/-! ### Queries -/

/-- What a query is answered from: the store that is opened, and the query with the threshold of the
options. -/
def opened? (env : Host) (o : Options) (disk : Disk) (database : Path) (threshold : Float)
    (text : Text) : Except Failure (Store × Query) := do
  if !disk.exists? env.current database then throw (.noDatabase database)
  let handle ← (disk.openDatabase env.current database !(o.has .noFuzzy)).mapError .error
  let query ← (Query.parse text).mapError .error
  let store ← (disk.store handle env.engine).mapError .error
  return (store, { query with goodThreshold := threshold })

/-- A search and, if one result is to be picked, the choice of it. Nothing is there to be picked if
nothing is found. -/
def consult (o : Options) (s : Store) (q : Query) : Dialogue Float (Option (List Hit)) :=
  (q.search s).bind fun hits =>
    if o.has .pick then
      (pick .result q.goodThreshold hits).bind fun hit? =>
        .done (.ok (hit?.map fun hit => [hit]))
    else .done (.ok (some hits))

/-- What is printed of the results of a query, or why nothing is. -/
def finish (o : Options) : Except Error (Option (List Hit)) → Except Failure Text
  | .error e => .error (.error e)
  | .ok none => .error .noResults
  | .ok (some hits) => .ok (if o.has .json then Report.jsonLines hits else Report.table hits)

/-- What comes of a report that is printed, or of the failure instead of it. -/
def Outcome.ofReport (report : Except Failure Text) (disk : Disk) (input : Text) : Outcome Unit :=
  match report with
  | .ok t => ⟨t, [], .ok (), disk, input⟩
  | .error failure => ⟨[], [], .error failure, disk, input⟩

/-- What comes of a dialogue at the console. -/
theorem outcome_hold (o : Options) (d : Dialogue Float α) (disk : Disk) (input : Text) :
    let c := d.run (answer o) (listen o)
    (hold o d).outcome disk input = ⟨(c.play input).printed, (c.play input).logged,
      (c.play input).result.mapError .error, disk, c.left input⟩ := by
  rw [hold, Run.outcome_bind, Run.outcome_atConsole]
  simp [Outcome.andThen]

theorem Console.bind_assoc {γ : Type} (c : Console α) (f : α → Console β) (g : β → Console γ) :
    (c.bind f).bind g = c.bind fun a => (f a).bind g := by
  induction c with
  | done a => rfl
  | print t next ih => exact congrArg (print t) ih
  | log t next ih => exact congrArg (log t) ih
  | readLine next ih => exact congrArg readLine (funext ih)

theorem outcome_hold_done (o : Options) (a : α) (disk : Disk) (input : Text) :
    (hold o (.done (.ok a))).outcome disk input = ⟨[], [], .ok a, disk, input⟩ := rfl

/-- A dialogue that goes on with the result of another is held after it. -/
theorem outcome_hold_bind (o : Options) (d : Dialogue Float α) (f : α → Dialogue Float β)
    (disk : Disk) (input : Text) :
    (hold o (d.bind f)).outcome disk input =
      ((hold o d).outcome disk input).andThen fun a disk input =>
        (hold o (f a)).outcome disk input := by
  have hrun : (d.bind f).run (answer o) (listen o) =
      (d.run (answer o) (listen o)).bind fun r =>
        ((Dialogue.done r).bind f).run (answer o) (listen o) := by
    induction d with
    | done result => rfl
    | report event next ih =>
      simp only [Dialogue.bind, Dialogue.run, ih]
      exact (Console.bind_assoc ..).symm
    | ask question next ih =>
      simp only [Dialogue.bind, Dialogue.run, ih]
      exact (Console.bind_assoc ..).symm
  rw [outcome_hold, outcome_hold, hrun, Console.play_bind, Console.left_bind, Outcome.andThen]
  cases ((d.run (answer o) (listen o)).play input).result with
  | error e =>
    simp [Pure.pure, Dialogue.bind, Dialogue.run, Console.play, Console.left, Except.mapError]
  | ok a =>
    simp only [Dialogue.bind, Except.mapError]
    rw [outcome_hold]
    rfl

/-- What comes of a part of a run that first comes to a result and a disk, quietly, and then goes on
with them. -/
def GoesOn (x : Run β) (disk : Disk) (r : Except Failure α) (after : Disk)
    (f : α → Disk → Text → Outcome β) : Prop :=
  ∃ logged, ∀ input, x.outcome disk input = Outcome.andThen ⟨[], logged, r, after, input⟩ f

namespace GoesOn

variable {γ : Type} {disk disk' after : Disk} {r : Except Failure α}
  {f : α → Disk → Text → Outcome β} {y : Run γ} {g : γ → Run β} {logged : Text}

theorem step {c : γ} (hy : ∀ input, y.outcome disk input = ⟨[], logged, .ok c, disk', input⟩)
    (h : GoesOn (g c) disk' r after f) : GoesOn (y >>= g) disk r after f := by
  obtain ⟨later, hlater⟩ := h
  refine ⟨logged ++ later, fun input => ?_⟩
  rw [Run.outcome_bind, hy, Outcome.andThen_ok, hlater]
  cases r with
  | error e => rfl
  | ok a => simp

/-- A check fails, or it has a result with which both go on. -/
theorem check {k : γ → Except Failure α} (e : Except Error γ)
    (h : ∀ c, GoesOn (g c) disk (k c) disk f) :
    GoesOn (Run.check e >>= g) disk (e.mapError .error >>= k) disk f := by
  cases e with
  | error e => exact ⟨[], fun _ => rfl⟩
  | ok c => exact .step (Run.outcome_check disk · _) (h c)

theorem now {x : Run β} {a : α} (h : ∀ input, x.outcome disk input = f a disk input) :
    GoesOn x disk (.ok a) disk f :=
  ⟨[], fun input => h input⟩

end GoesOn

/-- What comes of a detail. -/
theorem outcome_detail (o : Options) (part : String) (t : Text) (disk : Disk) (input : Text) :
    (Run.atConsole (detail o part t)).outcome disk input =
      ⟨[], ((detail o part t).play []).logged, .ok (), disk, input⟩ := by
  rw [Run.outcome_atConsole, detail]
  cases o.has .debug <;> rfl

/-- What is done with a query once the store is open. -/
def respond (o : Options) (s : Store) (q : Query) : Run Unit := do
  let hits ← hold o (q.search s)
  let hits ←
    if o.has .pick then
      match ← hold o (pick .result q.goodThreshold hits) with
      | none => throw .noResults
      | some hit => pure [hit]
    else pure hits
  Run.say (if o.has .json then Report.jsonLines hits else Report.table hits)

/-- What is consulted is reported. -/
theorem outcome_respond (o : Options) (s : Store) (q : Query) (disk : Disk) (input : Text) :
    (respond o s q).outcome disk input =
      ((hold o (consult o s q)).outcome disk input).andThen fun hits? =>
        .ofReport (finish o (.ok hits?)) := by
  rw [respond, consult, Run.outcome_bind, outcome_hold_bind, Outcome.andThen_assoc]
  refine congrArg (Outcome.andThen _) (funext fun hits => funext fun disk => funext fun input => ?_)
  cases o.has .pick with
  | false => simp [Run.outcome_bind, outcome_hold_done, finish, Outcome.ofReport]
  | true =>
    simp only [if_true]
    rw [Run.outcome_bind, outcome_hold_bind, Outcome.andThen_assoc]
    refine congrArg (Outcome.andThen _)
      (funext fun hit? => funext fun disk => funext fun input => ?_)
    cases hit? <;>
      simp [Run.outcome_bind, outcome_hold_done, finish, Outcome.ofReport]

/-- A query is answered by consulting the store that is opened. -/
theorem goesOn_search (env : Host) (o : Options) (database : Path) (threshold : Float)
    (text : Text) (disk : Disk) :
    GoesOn (search env o database threshold text) disk
      (opened? env o disk database threshold text) (disk.touch env.current database)
      fun p disk input => (respond o p.1 p.2).outcome disk input := by
  rw [search, opened?]
  refine .step (Run.outcome_get disk) ?_
  cases hexists : disk.exists? env.current database with
  | false =>
    rw [Disk.touch_of_not_exists hexists]
    exact ⟨[], fun _ => rfl⟩
  | true =>
    refine .step (outcome_detail o _ _ disk) ?_
    refine .step (Run.outcome_set disk · _) ?_
    refine .check _ fun handle => .check _ fun q => .check _ fun s => ?_
    dsimp only
    split
    · exact .step (outcome_detail o _ _ _) (.now fun _ => rfl)
    · exact .now fun _ => rfl

/-! ### Runs -/

/-- What a query is answered from in a run, and the disk then: if there is a directory to be loaded,
the store is opened after that. -/
def prepared (env : Host) (o : Options) (disk : Disk) (threshold : Float) (text : Text) :
    Except Failure (Store × Query) × Disk :=
  let database := databasePath env o
  let opened (disk : Disk) :=
    (opened? env o disk database threshold text, disk.touch env.current database)
  match o.value? .load with
  | none => opened disk
  | some directory =>
    let loaded := (loadInto env o database directory).outcome disk []
    match loaded.result with
    | .error failure => (.error failure, loaded.disk)
    | .ok () => opened loaded.disk

/-- A run with a query prepares quietly, and then responds. -/
theorem outcome_perform {env : Host} {o : Options} {threshold : Float} {text : Text}
    (hthreshold : goodThreshold o = .ok threshold) (hlist : o.has .listDirectives = false)
    (htext : o.query? = some text) (disk : Disk) :
    ∃ opening, ∀ input, (perform env o).outcome disk input =
      let (opened, after) := prepared env o disk threshold text
      Outcome.andThen ⟨[], opening, opened, after, input⟩ fun p disk input =>
        (respond o p.1 p.2).outcome disk input := by
  cases hload : o.value? .load with
  | none =>
    rw [perform_search hthreshold hlist hload htext, prepared, hload]
    exact goesOn_search env o (databasePath env o) threshold text disk
  | some directory =>
    rw [perform_load_search hthreshold hlist hload htext, prepared, hload]
    dsimp only
    have hquiet := isQuiet_loadInto env o (databasePath env o) directory disk
    generalize (loadInto env o (databasePath env o) directory).outcome disk [] = u at hquiet ⊢
    obtain ⟨_, logged, result, after, _⟩ := u
    cases result with
    | error failure =>
      refine ⟨logged, fun input => ?_⟩
      rw [Run.outcome_bind, hquiet]
      rfl
    | ok done =>
      obtain ⟨opening, hsearch⟩ :=
        goesOn_search env o (databasePath env o) threshold text after
      refine ⟨logged ++ opening, fun input => ?_⟩
      rw [Run.outcome_bind, hquiet, Outcome.andThen_ok, hsearch]
      dsimp only
      cases opened? env o after (databasePath env o) threshold text with
      | error failure => rfl
      | ok opened => simp

/-- A run with a script: what a query is answered from is prepared, or that fails, and it is
consulted with the chooser whose script is a list of lines. What is asked is printed, and then the
results; what is reported on the way is logged after what is said while preparing. -/
def scripted (o : Options) (prepared : Except Failure (Store × Query) × Disk) (opening : Text)
    (lines : List Text) : Console.Played (Disk × Nat) :=
  match prepared with
  | (.error failure, disk) => ⟨[], opening ++ failure.report ++ ['\n'], disk, 1⟩
  | (.ok (s, q), disk) =>
    let held := (consult o s q).hold Chooser.ofLines lines
    let asked := held.questions.flatMap questionText
    let heard := ((consult o s q).heard Chooser.ofLines lines).flatMap (eventText o)
    match finish o held.result with
    | .ok report => ⟨asked ++ report, opening ++ heard, disk, 0⟩
    | .error failure => ⟨asked, opening ++ heard ++ failure.report ++ ['\n'], disk, 1⟩

/-- **An interactive run follows its input.** The chooser whose script is a list of lines answers
with what the first one chooses, and keeps the others. At the console a question is printed and
answered like that, and takes one line of the input. So a run in which a person is asked comes to
what a search comes to, and the choice of one result if that is wanted, whose chooser answers with
the successive lines of the input. -/
theorem play_program_of_interactive :
    (∀ (q : Question) (lines : List Text),
      Chooses q.candidates lines.head? (Chooser.ofLines q lines).1 ∧
        (Chooser.ofLines q lines).2 = lines.tail) ∧
    (∀ (q : Question) (input : Text),
      (choose q).play input = ⟨questionText q, [], (Chooser.ofLines q input.lines).1⟩ ∧
        ((choose q).left input).lines = (Chooser.ofLines q input.lines).2) ∧
    ∀ (env : Host) (words : List Text) (o : Options) (threshold : Float) (text : Text),
      Options.read words = .ok o → o.has .interactive = true → o.has .listDirectives = false →
      goodThreshold o = .ok threshold → o.query? = some text →
      ∀ disk : Disk, ∃ opening : Text, ∀ input : Text,
        (program env words disk).play input =
          scripted o (prepared env o disk threshold text) opening input.lines := by
  refine ⟨fun q lines => ⟨chooses_readChoice _ _, rfl⟩, play_choose, ?_⟩
  intro env words o threshold text hread hi hlist hthreshold htext disk
  obtain ⟨opening, hperform⟩ := outcome_perform hthreshold hlist htext disk
  refine ⟨opening, fun input => ?_⟩
  rw [play_program hread, hperform]
  obtain ⟨opened, after⟩ := prepared env o disk threshold text
  cases opened with
  | error failure => rfl
  | ok opened =>
    obtain ⟨s, q⟩ := opened
    dsimp only
    rw [Outcome.andThen_ok, outcome_respond, outcome_hold, (play_run hi _ input).1, scripted]
    cases ((consult o s q).hold Chooser.ofLines input.lines).result with
    | error e => rfl
    | ok hits? =>
      simp only [Except.mapError, Outcome.andThen_ok, Outcome.ofReport, Outcome.ended]
      cases finish o (.ok hits?) <;> simp

/-- A person is asked which of the entities of a database is meant. -/
theorem play_program_of_interactive_tangled :
    let env : Host := { current := ["home".toList], temporary := "/tmp".toList }
    let words : List Text := ["-ip".toList, "--db=films".toList, "{limit:9}".toList]
    let o : Options :=
      { switches := [.interactive, .pick], settings := [(.database, some "films".toList)]
        words := ["{limit:9}".toList] }
    let disk : Disk := (Disk.empty.put ["home".toList] .directory).put
      ["home".toList, "films".toList] (.database ⟨.tangled, Database.currentVersion⟩)
    (Options.read words = .ok o ∧ o.has .interactive = true ∧ o.has .listDirectives = false ∧
      goodThreshold o = .ok 0.25 ∧ o.query? = some "{limit:9}".toList) ∧
      ∃ opening : Text, ∀ input : Text, (program env words disk).play input =
        scripted o (prepared env o disk 0.25 "{limit:9}".toList) opening input.lines := by
  intro env words o disk
  have hread : Options.read words = .ok o := by decide
  have htext : o.query? = some "{limit:9}".toList := by decide
  exact ⟨⟨hread, rfl, rfl, rfl, htext⟩, play_program_of_interactive.2.2 env words o 0.25 _ hread rfl
    rfl rfl htext disk⟩

end CommandLine

end Filmography
