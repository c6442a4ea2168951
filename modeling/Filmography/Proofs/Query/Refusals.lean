import Filmography.Proofs.Query.Directives
import Filmography.Proofs.Query.Paths

/-!
# Texts that are refused

Reading a text stops at the first token that stands for no call. Either this token is refused
itself: it names no directive, or its directive cannot do with the argument. Or its argument is read
as a query and is refused in turn, and then the token to blame is inside of the argument. So an
error tells two things: the path of roles that leads to the token to blame, and what is wrong with
this token. It tells nothing of the query that is extended, and nothing of what comes later.

* `Token.Refused`: what is wrong with a token, other than with a token inside of it;
* `Query.FailsAt`: where the token is for which a text is refused;
* `Query.calls?_eq_error_iff`, `Query.readToken_eq_error_iff`: why texts and tokens are not read;
* `Query.refusal`: what errors say of a text.
-/

namespace Filmography

/-! ### What is wrong with a token -/

/-- A token stands for no call, and the reason is not inside of its argument. -/
inductive Token.Refused (token : Text) : Error → Prop
  /-- It is a directive that there is not. -/
  | unknown (hdirective : isDirective token = true) (hname : Directive.find? (name token) = none) :
      Refused token (.unknownDirective (name token))
  /-- Its directive cannot do with the argument. -/
  | argument {d : Directive} {e : Error} (hd : directive? token = some d)
      (h : d.Refuses (argument? token) e) : Refused token e

/-- An error that says what is wrong with a token. -/
inductive Error.IsLeaf : Error → Prop
  /-- There is no such directive. -/
  | unknownDirective (name : Text) : IsLeaf (.unknownDirective name)
  /-- The argument is wrong. -/
  | directiveArgument (d : Directive) (fault : ArgumentFault) : IsLeaf (.directiveArgument d fault)
  /-- There is no such sort column or direction. -/
  | unknownSort (word : Text) : IsLeaf (.unknownSort word)

theorem Directive.Refuses.isLeaf {d : Directive} {arg : Option Text} {e : Error}
    (h : d.Refuses arg e) : e.IsLeaf := by
  rcases h with - | - | - | - | - | - | - | -
  all_goals constructor

theorem Token.Refused.isLeaf {token : Text} {e : Error} (h : Refused token e) : e.IsLeaf := by
  rcases h with - | ⟨-, h⟩
  · exact .unknownDirective _
  · exact h.isLeaf

namespace Query

open Token

/-- A token is not read if it is refused itself, or if it is a directive for a role whose argument
is refused. -/
theorem readToken_eq_error_iff {token : Text} {e : Error} :
    readToken token = .error e ↔ Refused token e ∨
      ∃ role a e', argumentIn? role token = some a ∧ parse a = .error e' ∧
        e = .subSearch role e' := by
  constructor
  · intro h
    rcases hdirective : isDirective token with _ | _
    · rw [readToken, Token.call?, hdirective] at h
      cases h
    · rw [readToken_directive hdirective] at h
      rcases hname : Directive.find? (Token.name token) with _ | d
      · rw [hname] at h
        cases h
        exact .inl (.unknown hdirective hname)
      · rw [hname] at h
        have hd := directive?_eq_some_iff.mpr ⟨hdirective, hname⟩
        rcases readDirective_eq_error_iff.mp h with h | ⟨role, call, a, e', hform, harg, he', rfl⟩
        · exact .inl (.argument hd h)
        · exact .inr ⟨role, a, e', argumentIn?_eq_some_iff.mpr ⟨d, call, hd, hform, harg⟩, he', rfl⟩
  · rintro (hrefused | ⟨role, a, e', harg, he', rfl⟩)
    · rcases hrefused with ⟨hdirective, hname⟩ | ⟨hd, h⟩
      · rw [readToken_directive hdirective, hname]
      · rw [readToken_of_directive? hd, readDirective_of_refuses h]
    · obtain ⟨d, call, hd, hform, harg⟩ := argumentIn?_eq_some_iff.mp harg
      rw [readToken_of_directive? hd, harg, readDirective_of_sub hform he']

/-! ### Where a text is refused -/

/-- The path to the token for which a text is refused. All tokens before it are read. It is refused
itself, or else it is the directive for the first role of the path, and its argument is refused for
a token to which the rest of the path leads. -/
inductive FailsAt : Text → List Role → Text → Prop
  /-- The token is refused itself. -/
  | here {t token : Text} {before after : List Text} {e : Error}
      (ht : tokens t = before ++ token :: after)
      (hbefore : ∀ u ∈ before, ∃ c, readToken u = .ok c) (h : Refused token e) :
      FailsAt t [] token
  /-- A token in its argument is refused. -/
  | inside {t token a inner : Text} {before after : List Text} {role : Role} {path : List Role}
      (ht : tokens t = before ++ token :: after)
      (hbefore : ∀ u ∈ before, ∃ c, readToken u = .ok c)
      (harg : argumentIn? role token = some a) (h : FailsAt a path inner) :
      FailsAt t (role :: path) inner

/-- A text is refused for its first token that is not read. -/
theorem calls?_eq_error_iff {t : Text} {e : Error} :
    calls? t = .error e ↔ ∃ before token after, tokens t = before ++ token :: after ∧
      (∀ u ∈ before, ∃ c, readToken u = .ok c) ∧ readToken token = .error e := by
  rw [calls?_eq_mapM, mapM_eq_error_iff]
  constructor
  · rintro ⟨before, token, after, cs, ht, hbefore, htoken⟩
    exact ⟨before, token, after, ht, forall_of_mapM_eq_ok hbefore, htoken⟩
  · rintro ⟨before, token, after, ht, hbefore, htoken⟩
    have hall : ∀ u ∈ before, ∃ c, readToken u = .ok c ∧ True := by simpa using hbefore
    obtain ⟨cs, hcs, -⟩ := mapM_eq_ok_of_forall (R := fun _ _ => True) hall
    exact ⟨before, token, after, cs, ht, hcs, htoken⟩

theorem extend_eq_error_iff {q : Query} {t : Text} {e : Error} :
    q.extend t = .error e ↔ calls? t = .error e := by
  rw [extend_eq]
  exact map_eq_error_iff

/-- The error says what is wrong with the token, as the queries on the path report it. -/
theorem FailsAt.calls?_eq {t token : Text} {path : List Role} (h : FailsAt t path token)
    {leaf : Error} (hleaf : Refused token leaf) : calls? t = .error (leaf.within path) := by
  induction h with
  | here ht hbefore _ =>
    exact calls?_eq_error_iff.mpr
      ⟨_, _, _, ht, hbefore, readToken_eq_error_iff.mpr (.inl hleaf)⟩
  | @inside t token a inner before after role path ht hbefore harg _ ih =>
    have hparse : parse a = .error (leaf.within path) := extend_eq_error_iff.mpr (ih hleaf)
    exact calls?_eq_error_iff.mpr
      ⟨_, _, _, ht, hbefore, readToken_eq_error_iff.mpr (.inr ⟨role, a, _, harg, hparse, rfl⟩)⟩

theorem length_lt_of_argumentIn? {role : Role} {t token a : Text} (h : token ∈ tokens t)
    (harg : argumentIn? role token = some a) : a.length < t.length := by
  obtain ⟨d, call, -, -, ha⟩ := argumentIn?_eq_some_iff.mp harg
  exact Nat.lt_of_lt_of_le (length_argument?_lt ha) (length_le_of_mem_tokens h)

/-- A text that is refused is refused for some token. -/
theorem exists_failsAt {t : Text} {e : Error} (h : calls? t = .error e) :
    ∃ path token leaf, FailsAt t path token ∧ Refused token leaf ∧ e = leaf.within path := by
  induction hn : t.length using Nat.strongRecOn generalizing t e with
  | ind n ih =>
    subst hn
    obtain ⟨before, token, after, ht, hbefore, htoken⟩ := calls?_eq_error_iff.mp h
    rcases readToken_eq_error_iff.mp htoken with hrefused | ⟨role, a, e', harg, he', rfl⟩
    · exact ⟨[], token, e, .here ht hbefore hrefused, hrefused, rfl⟩
    · have hmem : token ∈ tokens t := by
        rw [ht]
        exact List.mem_append_right before (List.mem_cons_self ..)
      obtain ⟨path, inner, leaf, hfails, hleaf, rfl⟩ :=
        ih a.length (length_lt_of_argumentIn? hmem harg) (extend_eq_error_iff.mp he') rfl
      exact ⟨role :: path, inner, leaf, .inside ht hbefore harg hfails, hleaf, rfl⟩

/-- A directive whose argument is read as a query can do with any argument. -/
theorem not_refuses_of_sub {d : Directive} {role : Role} {call : Query → Call}
    (hform : d.form = .sub role call) {a : Text} {e : Error} : ¬d.Refuses (some a) e := by
  have hargument : d.argument? = some "QUERY" := by
    rw [Directive.argument?_eq, hform, Form.argument?]
  rintro (h | - | ⟨h, -⟩ | ⟨h, -⟩ | ⟨h, -⟩ | ⟨h, -, -⟩ | ⟨h, -⟩ | ⟨h, -⟩)
  · rw [hargument] at h
    cases h
  all_goals
    rw [hform] at h
    cases h

/-- A token that is refused itself is no directive for a role with an argument. -/
theorem argumentIn?_of_refused {token : Text} {e : Error} (h : Refused token e) (role : Role) :
    argumentIn? role token = none := by
  rw [Option.eq_none_iff_forall_ne_some]
  intro a harg
  obtain ⟨d, call, hd, hform, ha⟩ := argumentIn?_eq_some_iff.mp harg
  rcases h with ⟨-, hname⟩ | ⟨hd', h⟩
  · rw [(directive?_eq_some_iff.mp hd).2] at hname
    cases hname
  · rw [hd] at hd'
    cases hd'
    rw [ha] at h
    exact not_refuses_of_sub hform h

theorem argumentIn?_inj {token a a' : Text} {role role' : Role}
    (h : argumentIn? role token = some a) (h' : argumentIn? role' token = some a') :
    role' = role ∧ a' = a := by
  obtain ⟨d, call, hd, hform, ha⟩ := argumentIn?_eq_some_iff.mp h
  obtain ⟨d', call', hd', hform', ha'⟩ := argumentIn?_eq_some_iff.mp h'
  rw [hd] at hd'
  cases hd'
  rw [hform] at hform'
  cases hform'
  rw [ha] at ha'
  cases ha'
  exact ⟨rfl, rfl⟩

theorem FailsAt.exists_refused {t token : Text} {path : List Role} (h : FailsAt t path token) :
    ∃ leaf, Refused token leaf := by
  induction h with
  | here _ _ h => exact ⟨_, h⟩
  | inside _ _ _ _ ih => exact ih

theorem not_read_of_refused {token : Text} {e : Error} (h : Refused token e) :
    ¬∃ c, readToken token = .ok c := by
  rw [readToken_eq_error_iff.mpr (.inl h)]
  rintro ⟨c, ⟨⟩⟩

theorem not_read_of_failsAt {token a inner : Text} {role : Role} {path : List Role}
    (harg : argumentIn? role token = some a) (h : FailsAt a path inner) :
    ¬∃ c, readToken token = .ok c := by
  obtain ⟨leaf, hleaf⟩ := h.exists_refused
  have hparse : parse a = .error (leaf.within path) := extend_eq_error_iff.mpr (h.calls?_eq hleaf)
  rw [readToken_eq_error_iff.mpr (.inr ⟨role, a, _, harg, hparse, rfl⟩)]
  rintro ⟨c, ⟨⟩⟩

/-- There is one token for which a text is refused. -/
theorem FailsAt.unique {t token token' : Text} {path path' : List Role} (h : FailsAt t path token)
    (h' : FailsAt t path' token') : path' = path ∧ token' = token := by
  induction h generalizing path' token' with
  | here ht hbefore hrefused =>
    have hnot := not_read_of_refused hrefused
    rcases h' with ⟨ht', hbefore', hrefused'⟩ | ⟨ht', hbefore', harg', hinner'⟩
    · obtain rfl := eq_of_append_cons_eq (ht.symm.trans ht') hbefore hbefore' hnot
        (not_read_of_refused hrefused')
      exact ⟨rfl, rfl⟩
    · obtain rfl := eq_of_append_cons_eq (ht.symm.trans ht') hbefore hbefore' hnot
        (not_read_of_failsAt harg' hinner')
      rw [argumentIn?_of_refused hrefused] at harg'
      cases harg'
  | inside ht hbefore harg hinner ih =>
    have hnot := not_read_of_failsAt harg hinner
    rcases h' with ⟨ht', hbefore', hrefused'⟩ | ⟨ht', hbefore', harg', hinner'⟩
    · obtain rfl := eq_of_append_cons_eq (ht.symm.trans ht') hbefore hbefore' hnot
        (not_read_of_refused hrefused')
      rw [argumentIn?_of_refused hrefused'] at harg
      cases harg
    · obtain rfl := eq_of_append_cons_eq (ht.symm.trans ht') hbefore hbefore' hnot
        (not_read_of_failsAt harg' hinner')
      obtain ⟨rfl, rfl⟩ := argumentIn?_inj harg harg'
      obtain ⟨rfl, rfl⟩ := ih hinner'
      exact ⟨rfl, rfl⟩

/-! ### What errors say -/

/-- The directives that are read as queries play the three roles of sub-queries. -/
theorem FailsAt.role {t token : Text} {path : List Role} (h : FailsAt t path token) :
    ∀ role ∈ path, role = .tvshow ∨ role = .credits ∨ role = .cast := by
  induction h with
  | here _ _ _ => exact List.forall_mem_nil _
  | inside _ _ harg _ ih =>
    refine List.forall_mem_cons.mpr ⟨?_, ih⟩
    obtain ⟨d, call, -, hform, -⟩ := argumentIn?_eq_some_iff.mp harg
    cases d <;> cases hform <;> decide

/-- What errors say of a text that is read. -/
structure Refusal (t : Text) : Prop where
  /-- The text is read or not, whatever query is extended, and it is refused with the same error. -/
  uniform : (∃ cs, ∀ q : Query, q.extend t = .ok (q.applyAll cs)) ∨
    ∃ e, ∀ q : Query, q.extend t = .error e
  /-- It is refused with the error of a token, within the roles of the directives around it. -/
  located : ∀ (q : Query) (e : Error), q.extend t = .error e ↔
    ∃ path token leaf, FailsAt t path token ∧ Refused token leaf ∧ e = leaf.within path
  /-- There is only one such token. -/
  unique : ∀ path path' token token', FailsAt t path token → FailsAt t path' token' →
    path' = path ∧ token' = token
  /-- Errors are of three kinds, within the roles of sub-queries. -/
  kind : ∀ (q : Query) (e : Error), q.extend t = .error e → ∃ (path : List Role) (leaf : Error),
    e = leaf.within path ∧ leaf.IsLeaf ∧
      ∀ role ∈ path, role = .tvshow ∨ role = .credits ∨ role = .cast
  /-- Nothing but the token and the roles makes a difference. -/
  decisive : ∀ t' path token, FailsAt t path token → FailsAt t' path token →
    ∀ q q' : Query, q'.extend t' = q.extend t
  /-- What comes after a token that is not read makes no difference. -/
  later : ∀ t' before token after after', tokens t = before ++ token :: after →
    tokens t' = before ++ token :: after' → (∀ c, readToken token ≠ .ok c) →
    ∀ q : Query, q.extend t' = q.extend t

/-- **Refusals**: a text that cannot be read is refused for one token of it, with an error that
tells where this token is and what is wrong with it. -/
theorem refusal (t : Text) : Refusal t where
  uniform := by
    rcases hcalls : calls? t with e | cs
    · exact .inr ⟨e, fun q => extend_eq_error_iff.mpr hcalls⟩
    · refine .inl ⟨cs, fun q => ?_⟩
      rw [extend_eq, hcalls]
      rfl
  located q e := by
    rw [extend_eq_error_iff]
    constructor
    · exact exists_failsAt
    · rintro ⟨path, token, leaf, hfails, hleaf, rfl⟩
      exact hfails.calls?_eq hleaf
  unique _ _ _ _ h h' := h.unique h'
  kind q e h := by
    obtain ⟨path, token, leaf, hfails, hleaf, rfl⟩ := exists_failsAt (extend_eq_error_iff.mp h)
    exact ⟨path, leaf, rfl, hleaf.isLeaf, hfails.role⟩
  decisive t' path token h h' q q' := by
    obtain ⟨leaf, hleaf⟩ := h.exists_refused
    rw [extend_eq_error_iff.mpr (h.calls?_eq hleaf), extend_eq_error_iff.mpr (h'.calls?_eq hleaf)]
  later t' before token after after' ht ht' htoken q := by
    have hsame : calls? t' = calls? t := by
      rw [calls?_eq_mapM, calls?_eq_mapM, ht, ht', List.mapM_append, List.mapM_append,
        List.mapM_cons, List.mapM_cons]
      rcases hread : readToken token with e | c
      · rfl
      · exact absurd hread (htoken c)
    rw [extend_eq, extend_eq, hsame]

end Query

end Filmography
