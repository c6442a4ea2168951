import Filmography.Error
import Filmography.Role
import Filmography.Search.Hit
import Filmography.Search.Statement

/-!
# Dialogues

A search may have to ask which of several candidates is meant before it can go on. A dialogue is a
computation that is done, or has something to report, or asks and goes on with the answer. So it
says what is asked and in which order whoever answers, and the answers may come from a script, from
a person, or from nobody.

* `Dialogue.hold` lets a chooser with a memory answer, and tells what was asked;
* `Dialogue.unattended` answers every question with the first candidate;
* `Dialogue.run` lets an arbitrary effect answer and listen;
* `pick` asks only if there is no clear winner.
-/

namespace Filmography

/-- What a search reports on its way. -/
inductive Event (ν : Type := Float) where
  /-- A query was compiled. -/
  | compiled (query : Query ν) (statement : Statement ν)
  /-- A sub-query was settled: it stands for a hit, or for nothing. -/
  | settled (role : Role) (query : Query ν) (hit : Option (Hit ν))

/-- A question: which of some candidates plays a role. -/
structure Question (ν : Type := Float) where
  /-- The role. -/
  role : Role
  /-- The candidates, the best one first. -/
  candidates : List (Hit ν)

/-- The answer to a question: one of the candidates, none of them, or a refusal. -/
abbrev Answer (ν : Type := Float) := Except Error (Option (Hit ν))

/-- A computation that asks for choices among hits. -/
inductive Dialogue (ν α : Type) where
  /-- There is a result. -/
  | done (result : Except Error α)
  /-- Something is reported. -/
  | report (event : Event ν) (next : Dialogue ν α)
  /-- Something is asked. -/
  | ask (question : Question ν) (next : Answer ν → Dialogue ν α)

/-- Whoever answers questions, with a memory that carries over from one to the next. -/
abbrev Chooser (σ : Type) (ν : Type := Float) := Question ν → σ → Answer ν × σ

/-- What came of holding a dialogue. -/
structure Held (σ ν α : Type) where
  /-- The result. -/
  result : Except Error α
  /-- What the chooser remembers. -/
  memory : σ
  /-- What was asked, in order. -/
  questions : List (Question ν)

namespace Dialogue

variable {σ ν α β : Type}

/-- Go on with the result, unless it is an error. -/
def bind (d : Dialogue ν α) (f : α → Dialogue ν β) : Dialogue ν β :=
  match d with
  | done (.ok a) => f a
  | done (.error e) => done (.error e)
  | report event next => report event (next.bind f)
  | ask question next => ask question fun answer => (next answer).bind f

instance : Monad (Dialogue ν) where
  pure a := done (.ok a)
  bind := bind

/-- Put an error into its context. -/
def mapError (f : Error → Error) : Dialogue ν α → Dialogue ν α
  | done result => done (result.mapError f)
  | report event next => report event (next.mapError f)
  | ask question next => ask question fun answer => (next answer).mapError f

/-- Hold a dialogue with a chooser. -/
def hold (choose : Chooser σ ν) : Dialogue ν α → (memory : σ) → Held σ ν α
  | done result, memory => ⟨result, memory, []⟩
  | report _ next, memory => next.hold choose memory
  | ask question next, memory =>
    let (answer, memory) := choose question memory
    let later := (next answer).hold choose memory
    { later with questions := question :: later.questions }

/-- The result if the first candidate is the answer to every question. -/
def unattended : Dialogue ν α → Except Error α
  | done result => result
  | report _ next => next.unattended
  | ask question next => (next (.ok question.candidates.head?)).unattended

/-- Hold a dialogue with whoever answers and whoever listens. -/
def run {m : Type → Type} [Monad m] (answer : Question ν → m (Answer ν))
    (listen : Event ν → m Unit) : Dialogue ν α → m (Except Error α)
  | done result => pure result
  | report event next => do
    listen event
    next.run answer listen
  | ask question next => do
    let given ← answer question
    (next given).run answer listen

end Dialogue

variable {ν : Type} [Score ν]

/-- Whether the first of two hits is so much more similar than the second that it is meant. -/
def Hit.leads (threshold : ν) (first second : Hit ν) : Bool :=
  first.hasSimilarity && second.hasSimilarity &&
    Score.reaches (Score.lead first.similarity second.similarity) threshold

/-- Pick one of several candidates, of which the best comes first. A single candidate is picked, and
so is the first if it leads; otherwise it is asked which one is meant. -/
def pick (role : Role) (threshold : ν) (candidates : List (Hit ν)) :
    Dialogue ν (Option (Hit ν)) :=
  match candidates with
  | [] => pure none
  | [only] => pure (some only)
  | first :: second :: _ =>
    if first.leads threshold second then pure (some first)
    else .ask ⟨role, candidates⟩ .done

end Filmography
