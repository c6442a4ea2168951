import Filmography.Error
import Filmography.Query.Basic

/-!
# What directives do

A directive changes a query, as its argument says. Some are flags and take no argument; the others
need one: a range, a number, a sort key or a query in its own right.

* `Directive.handle`: what a directive does to a query, given its argument;
* `Directive.apply`: that, or why there is an argument too many or too few.
-/

namespace Filmography

namespace Directive

/-- The word for the argument of a directive, if it takes one. -/
def argument? : Directive → Option String
  | movie | tvshow | episode | actor | notv | novideo | nofuzzy | nocase | debug => none
  | years | rank | votes | billed | seasons | episodes => some "RANGE"
  | limit => some "N"
  | sort => some "COLUMN [asc|desc]"
  | «show» | credits | cast => some "QUERY"
  | similar => some "FLOAT"

/-- How a directive is written. -/
def usage (d : Directive) : Text :=
  braced d.name.toList (d.argument?.map String.toList)

/-! ### Arguments -/

/-- The range that is the argument of a directive. -/
def readRange (d : Directive) (argument : Text) : Except Error Range :=
  (Range.parse argument).mapError fun fault => .directiveArgument d (.range argument fault)

/-- The limit that is the argument of a directive. A negative one is no limit. -/
def readLimit (d : Directive) (argument : Text) : Except Error (Option UInt64) :=
  match Integer.Format.signed64.parse argument with
  | .error fault => .error (.directiveArgument d (.integer argument fault))
  | .ok n => .ok (if n < 0 then none else some (UInt64.ofNat n.toNat))

/-- The least similarity that is the argument of a directive. It lies between zero and one. -/
def readSimilarity (d : Directive) (argument : Text) : Except Error Float :=
  match FloatText.parse argument with
  | .error fault => .error (.directiveArgument d (.float argument fault))
  | .ok x =>
    if 0.0 ≤ x && x ≤ 1.0 then .ok x
    else .error (.directiveArgument d (.outsideUnit argument))

/-- The sort key that is the argument of a directive. -/
def readSort (d : Directive) (argument : Text) : Except Error SortKey :=
  match SortKey.parse argument with
  | .ok key => .ok key
  | .error (.unknown word) => .error (.unknownSort word)
  | .error .wordCount => .error (.directiveArgument d (.sortWords argument))

/-! ### Handlers -/

/-- What a directive does to a query, given its argument, which is empty for a flag. `sub` reads the
argument as a query. -/
def handle (d : Directive) (argument : Text) (sub : Unit → Except Error Query) (q : Query) :
    Except Error Query :=
  match d with
  | movie => return q.entity .movie
  | tvshow => return q.entity .tvshow
  | episode => return q.entity .episode
  | actor => return q.entity .actor
  | years => return { q with years := ← readRange .years argument }
  | rank => return { q with rank := ← readRange .rank argument }
  | votes => return { q with votes := ← readRange .votes argument }
  | billed => return { q with billed := ← readRange .billed argument }
  | seasons => do
    let q := { q with seasons := ← readRange .seasons argument }
    return q.entity .episode
  | episodes => do
    let q := { q with episodes := ← readRange .episodes argument }
    return q.entity .episode
  | notv => return { q with noTv := true }
  | novideo => return { q with noVideo := true }
  | limit => return { q with limit := ← readLimit .limit argument }
  | sort => return { q with sorts := q.sorts ++ [← readSort .sort argument] }
  | «show» => return q.ofTvshow (← (sub ()).mapError (Error.subSearch .tvshow))
  | credits => return q.ofCredits (← (sub ()).mapError (Error.subSearch .credits))
  | cast => return q.ofCast (← (sub ()).mapError (Error.subSearch .cast))
  | similar => return { q with minSimilarity := ← readSimilarity .similar argument }
  | nofuzzy => return { q with fuzzy := false }
  | nocase => return { q with ignoreCase := true }
  | debug => return { q with debug := true }

/-- What a directive does to a query, with an argument or without one. `sub` reads the argument as a
query. -/
def apply (d : Directive) (argument : Option Text)
    (sub : ∀ a, argument = some a → Except Error Query) (q : Query) : Except Error Query :=
  match d.argument?, argument, sub with
  | none, none, _ => d.handle [] (fun _ => .ok .empty) q
  | none, some a, _ => .error (.directiveArgument d (.unwanted a))
  | some what, none, _ => .error (.directiveArgument d (.missing what))
  | some _, some a, sub => d.handle a (fun _ => sub a rfl) q

end Directive

end Filmography
