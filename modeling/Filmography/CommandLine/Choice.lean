import Filmography.CommandLine.Console
import Filmography.Report.Hits
import Filmography.Search.Dialogue

/-!
# Asking a person

A person is asked to choose among candidates by a numbered table and a prompt. The answer is one
line: the number of a candidate, or nothing for none of them.
-/

namespace Filmography.CommandLine

/-- What is said before candidates are listed. -/
def candidatesText (q : Question) : Text :=
  "Several ".toList ++ q.role.label ++ " candidates match:\n".toList ++ Report.table q.candidates

/-- The range of numbers to choose from. -/
def choicesText (count : Nat) : Text :=
  "[1-".toList ++ Text.ofNat count ++ [']']

/-- The prompt for a number. -/
def promptText (count : Nat) : Text :=
  "Please enter your choice ".toList ++ choicesText count ++ ": ".toList

/-- What a line chooses among candidates. No line, or a blank one, chooses none of them. -/
def readChoice (candidates : List Hit) (line : Option Text) : Answer :=
  let response := (line.getD []).trim
  if response = [] then .ok none
  else
    match Integer.Format.unsigned64.parse response with
    | .error fault => .error (.chooser fault.message)
    | .ok n =>
      if 1 ≤ n ∧ n ≤ candidates.length then .ok candidates[n.toNat - 1]?
      else
        let range := String.ofList (choicesText candidates.length)
        .error (.chooser s!"invalid choice: {n} is not in range {range}")

/-- Ask a person to choose among candidates. -/
def choose (q : Question) : Console Answer := do
  Console.say (candidatesText q)
  Console.say (promptText q.candidates.length)
  return readChoice q.candidates (← Console.hear)

end Filmography.CommandLine
