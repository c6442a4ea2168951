import Filmography.Query.Call
import Filmography.Query.Parser

/-!
# Texts as lists of calls

A query text is another way to write a list of calls: a word is a term, and every directive stands
for one call. Some directives are flags and stand for a fixed call; the others take an argument and
stand for a call with what the argument says. `Directive.form` is the table.

What a directive does to a query is what its call does to it, and whether it can be applied at all
does not depend on the query. So reading a text is reading its calls first, and then applying them.

* `Directive.apply_eq`: every directive agrees with its call;
* `Query.calls?`: the calls of a text;
* `Query.extend_eq`: applying a text is applying its calls.
-/

namespace Filmography

/-- How a directive becomes a call. -/
inductive Form where
  /-- A flag, for a fixed call. -/
  | flag (call : Call)
  /-- A call with a range. -/
  | range (call : Range → Call)
  /-- A call with a sub-query in a role. -/
  | sub (role : Role) (call : Query → Call)
  /-- The call that limits the number of results. -/
  | limit
  /-- The call that adds a sort key. -/
  | sort
  /-- The call that sets the least similarity. -/
  | similarity

/-- The word for the argument that a form takes, if it takes one. -/
def Form.argument? : Form → Option String
  | flag _ => none
  | range _ => some "RANGE"
  | sub _ _ => some "QUERY"
  | limit => some "N"
  | sort => some "COLUMN [asc|desc]"
  | similarity => some "FLOAT"

namespace Directive

/-- What a directive stands for. -/
def form : Directive → Form
  | movie => .flag (.entity .movie)
  | tvshow => .flag (.entity .tvshow)
  | episode => .flag (.entity .episode)
  | actor => .flag (.entity .actor)
  | years => .range .years
  | rank => .range .rank
  | votes => .range .votes
  | billed => .range .billed
  | seasons => .range .seasons
  | episodes => .range .episodes
  | notv => .flag (.noTv true)
  | novideo => .flag (.noVideo true)
  | limit => .limit
  | sort => .sort
  | «show» => .sub .tvshow .tvshow
  | credits => .sub .credits .credits
  | cast => .sub .cast .cast
  | similar => .similarity
  | nofuzzy => .flag (.fuzzy false)
  | nocase => .flag (.ignoreCase true)
  | debug => .flag (.debug true)

/-- A directive takes the argument that its form takes. -/
theorem argument?_eq (d : Directive) : d.argument? = d.form.argument? := by
  cases d <;> rfl

/-- The call that a directive stands for. `sub` reads the argument as a query. -/
def read (d : Directive) (argument : Option Text)
    (sub : ∀ a, argument = some a → Except Error Query) : Except Error Call :=
  match d.form, argument, sub with
  | .flag call, none, _ => .ok call
  | .flag _, some a, _ => .error (.directiveArgument d (.unwanted a))
  | form, none, _ => .error (.directiveArgument d (.missing (form.argument?.getD "")))
  | .range call, some a, _ => call <$> d.readRange a
  | .sub role call, some a, sub =>
    call <$> (sub a (Option.mem_some_self a)).mapError (Error.subSearch role)
  | .limit, some a, _ => (fun n => n.elim Call.unlimited Call.limit) <$> d.readLimit a
  | .sort, some a, _ => .sort <$> d.readSort a
  | .similarity, some a, _ => .minSimilarity <$> d.readSimilarity a

/-- What a directive does to a query is what its call does, and it fails as its call fails to be
read. -/
theorem apply_eq (d : Directive) (argument : Option Text)
    (sub : ∀ a, argument = some a → Except Error Query) (q : Query) :
    d.apply argument sub q = (d.read argument sub).map q.apply := by
  rcases argument with _ | a
  · cases d <;> rfl
  · cases d <;> simp only [apply, argument?, handle, read, form]
    case years | rank | votes | billed | seasons | episodes => cases readRange _ a <;> rfl
    case limit => rcases readLimit .limit a with e | _ | n <;> rfl
    case sort => cases readSort .sort a <;> rfl
    case similar => cases readSimilarity .similar a <;> rfl
    case «show» | credits | cast => cases sub a rfl <;> rfl
    all_goals rfl

end Directive

/-- The call that a token stands for. `sub` reads the argument of a directive as a query. -/
def Token.call? (token : Text)
    (sub : ∀ a, Token.argument? token = some a → Except Error Query) : Except Error Call :=
  if Token.isDirective token then
    match Directive.find? (Token.name token) with
    | none => .error (.unknownDirective (Token.name token))
    | some d => d.read (Token.argument? token) sub
  else .ok (.text token)

theorem Token.apply_eq (token : Text)
    (sub : ∀ a, Token.argument? token = some a → Except Error Query) (q : Query) :
    Token.apply token sub q = (Token.call? token sub).map q.apply := by
  rw [Token.apply, Token.call?]
  split
  · cases Directive.find? (Token.name token) with
    | none => rfl
    | some d => exact d.apply_eq _ _ q
  · rfl

namespace Query

/-- The calls that the tokens of a text stand for. -/
def calls? (t : Text) : Except Error (List Call) :=
  (tokens t).attach.mapM fun ⟨token, h⟩ =>
    Token.call? token fun a ha =>
      have : a.length < t.length :=
        Nat.lt_of_lt_of_le (Token.length_argument?_lt ha) (Token.length_le_of_mem_tokens h)
      (calls? a).map empty.applyAll
termination_by t.length

/-- Steps that do what calls do, and fail as the calls fail to be read, can be taken once all calls
are read. -/
theorem foldlM_eq_mapM {α : Type} {step : Query → α → Except Error Query}
    {read : α → Except Error Call} (h : ∀ q x, step q x = (read x).map q.apply) (q : Query)
    (xs : List α) : xs.foldlM step q = (xs.mapM read).map q.applyAll := by
  induction xs generalizing q with
  | nil => rfl
  | cons x xs ih =>
    rw [List.foldlM_cons, List.mapM_cons, h]
    cases read x with
    | error e => rfl
    | ok c =>
      refine (ih (q.apply c)).trans ?_
      show _ = (xs.mapM read >>= fun cs => pure (c :: cs)).map q.applyAll
      cases xs.mapM read <;> rfl

/-- A text does to a query what its calls do, one after the other. -/
theorem extend_eq (q : Query) (t : Text) : q.extend t = (calls? t).map q.applyAll := by
  induction hn : t.length using Nat.strongRecOn generalizing q t with
  | ind n ih =>
    subst hn
    rw [extend, calls?]
    refine foldlM_eq_mapM (fun q ⟨token, h⟩ => ?_) q _
    refine (Token.apply_eq token _ q).trans ?_
    refine congrArg (fun sub => (Token.call? token sub).map q.apply)
      (funext fun a => funext fun ha => ?_)
    exact ih a.length
      (Nat.lt_of_lt_of_le (Token.length_argument?_lt ha) (Token.length_le_of_mem_tokens h)) _ a rfl

end Query

end Filmography
