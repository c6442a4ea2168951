import Filmography.Query.Handler
import Filmography.Query.Token

/-!
# Reading queries

The tokens of a text are applied to a query one after the other: a word is added as a term, and a
directive is handled. Reading fails at the first token that cannot be applied.

The argument of a directive is shorter than its token, and a token is no longer than the text, so
the sub-queries inside a text are read by recursion on its length.

* `Token.apply` is what a token does to a query, given a reader for sub-queries;
* `Query.extend` applies the tokens of a text, `Query.parse` applies them to the empty query.
-/

namespace Filmography

/-- What a token does to a query. `sub` reads the argument of a directive as a query. -/
def Token.apply (token : Text)
    (sub : ∀ a, Token.argument? token = some a → Except Error Query) (q : Query) :
    Except Error Query :=
  if Token.isDirective token then
    match Directive.find? (Token.name token) with
    | none => .error (.unknownDirective (Token.name token))
    | some d => d.apply (Token.argument? token) sub q
  else .ok (q.text token)

namespace Query

/-- A query with everything that a text asks for. -/
def extend (q : Query) (t : Text) : Except Error Query :=
  (tokens t).attach.foldlM (fun q ⟨token, h⟩ =>
    Token.apply token (fun a ha =>
      have : a.length < t.length :=
        Nat.lt_of_lt_of_le (Token.length_argument?_lt ha) (Token.length_le_of_mem_tokens h)
      empty.extend a) q) q
termination_by t.length

/-- The query that a text asks for. -/
def parse (t : Text) : Except Error Query :=
  empty.extend t

end Query

end Filmography
