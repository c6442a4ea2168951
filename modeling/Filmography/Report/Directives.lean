import Filmography.Query.Handler
import Filmography.Report.Hits
import Filmography.Text.Quoted

/-!
# The table of directives

A table that tells people how every directive is written and what it is for.
-/

namespace Filmography

namespace Directive

/-- The other ways to write a directive, with dots for its argument. -/
def otherUsages (d : Directive) : List Text :=
  d.synonyms.map fun s => braced s.toList (d.argument?.map fun _ => "...".toList)

/-- A directive as a record of its name, its synonyms and the argument it takes. -/
def record (d : Directive) : Text :=
  "Directive \x7b name: ".toList ++ Text.quoted d.name.toList ++ ", synonyms: [".toList ++
    Text.joined ", ".toList (d.synonyms.map fun s => Text.quoted s.toList) ++ "], arity: ".toList ++
    (match d.argument? with
      | none => "None".toList
      | some a => "Required(".toList ++ Text.quoted a.toList ++ [')']) ++ " \x7d".toList

end Directive

/-- The table of directives. -/
def Report.directives : Text :=
  Aligned.align (Report.line ["directive".toList, "synonyms".toList, "description".toList] ++
    Directive.all.flatMap fun d =>
      Report.line [d.usage, Text.joined [' '] d.otherUsages, d.description.toList])

end Filmography
