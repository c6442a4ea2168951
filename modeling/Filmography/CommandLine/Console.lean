import Filmography.Text.Basic

/-!
# Consoles

What a program does at a console: it prints text, logs messages and reads lines, and in the end it
has a result. As in a dialogue, what is done is a value, so it can be played against a text that
stands for all input, or against a terminal.

* `Console.run` lets an arbitrary effect print, log and read;
* `Console.play` plays it against a given input.
-/

namespace Filmography.CommandLine

/-- A computation at a console. -/
inductive Console (α : Type) where
  /-- There is a result. -/
  | done (a : α)
  /-- Text is printed. -/
  | print (t : Text) (next : Console α)
  /-- A message is logged, which makes a line. -/
  | log (t : Text) (next : Console α)
  /-- A line is read, with what ends it. There is none at the end of the input. -/
  | readLine (next : Option Text → Console α)

namespace Console

variable {α β : Type}

/-- Go on with the result. -/
def bind (c : Console α) (f : α → Console β) : Console β :=
  match c with
  | done a => f a
  | print t next => print t (next.bind f)
  | log t next => log t (next.bind f)
  | readLine next => readLine fun line => (next line).bind f

instance : Monad Console where
  pure := done
  bind := bind

/-- Print text. -/
def say (t : Text) : Console Unit := print t (done ())

/-- Log a message. -/
def tell (t : Text) : Console Unit := log t (done ())

/-- Read a line. -/
def hear : Console (Option Text) := readLine done

/-- Let effects print, log and read. -/
def run {m : Type → Type} [Monad m] (say tell : Text → m Unit) (hear : m (Option Text)) :
    Console α → m α
  | done a => pure a
  | print t next => do
    say t
    next.run say tell hear
  | log t next => do
    tell t
    next.run say tell hear
  | readLine next => do
    let line ← hear
    (next line).run say tell hear

/-- The first line of a text with what ends it, and the rest of the text. -/
def cutLine : Text → Text × Text
  | [] => ([], [])
  | c :: t =>
    if c = '\n' then ([c], t)
    else
      let r := cutLine t
      (c :: r.1, r.2)

/-- What came of playing against a given input. -/
structure Played (α : Type) where
  /-- What was printed. -/
  printed : Text
  /-- What was logged. -/
  logged : Text
  /-- The result. -/
  result : α

/-- Play against a given input. -/
def play : Console α → (input : Text) → Played α
  | done a, _ => ⟨[], [], a⟩
  | print t next, input =>
    let r := next.play input
    { r with printed := t ++ r.printed }
  | log t next, input =>
    let r := next.play input
    { r with logged := t ++ '\n' :: r.logged }
  | readLine next, input =>
    let (line, rest) := cutLine input
    (next (if line = [] then none else some line)).play rest

end Console

end Filmography.CommandLine
