import Filmography.Json.Interchange
import Filmography.Proofs.Number.Numerals
import Filmography.Proofs.Query.Directives
import Filmography.Proofs.Query.Layout
import Filmography.Proofs.Query.RoundTrip

/-!
# Queries that come from text

A query that was read was built by the calls of its text, and these are calls that can be written:
tokens are words, and arguments are checked where they are read. Inside of a directive no brace
closes nothing, so the terms of sub-queries have no closing braces, though those of the query itself
may. Such a query is read again from its own text, trimmed as every text of a query is.

Tokens end at blanks, but arguments are trimmed of any white space. A term can therefore end in
white space that is no blank, and it loses that when the query is written with the term at the end
of a sub-query. This is all that is lost.

* `Call.IsRead`, `isRead_of_calls?`: the calls of a text;
* `Query.isParsed_of_parse`: what holds of a query that was read;
* `Query.parse_print_of_parse`: when such a query is read back.
-/

namespace Filmography

/-! ### Arguments -/

/-- An integer that is read is not above the greatest of its format. -/
theorem Integer.Format.le_of_parse {f : Format} {t : Text} {n : Int} (h : f.parse t = .ok n) :
    n ≤ f.greatest := by
  cases parse_eq_ok_iff.mp h with
  | plain _ hn => exact Int.ofNat_le.mpr hn
  | plus _ hn => exact Int.ofNat_le.mpr hn
  | minus => omega

/-! ### Calls of a text -/

/-- What a call is like that was read from a text. The argument of a sub-query is shorter than the
text, and no brace in it closes nothing. -/
def Call.IsRead (t : Text) : Call → Prop
  | .text term => Token.IsWord term ∧ (Token.NoStray t → '}' ∉ term)
  | .limit n => n.toNat ≤ Integer.Format.signed64.greatest
  | .minSimilarity x => (0.0 : Float) ≤ x ∧ x ≤ (1.0 : Float)
  | .fuzzy yes => yes = false
  | .goodThreshold _ => False
  | .tvshow sub | .credits sub | .cast sub =>
    ∃ a, a.length < t.length ∧ Token.NoStray a ∧ Query.parse a = .ok sub
  | _ => True

/-- The sub-query of a call that was read was read from a shorter text, in which no brace closes
nothing. -/
theorem Call.IsRead.exists_of_sub? {t : Text} {c : Call} (hc : c.IsRead t) {s : Query}
    (hs : c.sub? = some s) :
    ∃ a, a.length < t.length ∧ Token.NoStray a ∧ Query.parse a = .ok s := by
  cases c <;> cases hs <;> exact hc

/-- The call that a directive stands for is one of its form. -/
theorem Directive.isRead_of_accepts {t : Text} {d : Directive} {arg : Option Text} {c : Call}
    (h : d.Accepts arg c)
    (hsub : ∀ a, arg = some a → a.length < t.length ∧ Token.NoStray a) : c.IsRead t := by
  rcases h with hform | ⟨hform, -⟩ | ⟨hform, hq⟩ | ⟨-, hn, hpos⟩ | - | - | ⟨-, -, hx⟩
  · -- of the flags only the one that turns similarity off is asked about
    cases d <;> cases hform <;> first | rfl | trivial
  · cases d <;> cases hform <;> trivial
  · obtain ⟨hlt, hstray⟩ := hsub _ rfl
    cases d <;> cases hform <;> exact ⟨_, hlt, hstray, hq⟩
  · have hle := Integer.Format.le_of_parse hn
    simp only [Call.IsRead, Integer.Format.signed64, UInt64.toNat_ofNat'] at hle ⊢
    omega
  · trivial
  · trivial
  · simpa [Call.IsRead] using hx

/-- A token that names a directive starts with a brace, and nothing in it is closed that was not
opened there. -/
theorem Token.isOpened_of_directive? {t token : Text} {d : Directive} (htoken : token ∈ tokens t)
    (hd : directive? token = some d) : IsOpened token := by
  obtain ⟨hdirective, -⟩ := directive?_eq_some_iff.mp hd
  -- a word does not start with a brace
  refine (isKept_of_mem_tokens htoken).resolve_left fun hword => ?_
  rw [hword.1.isDirective] at hdirective
  cases hdirective

/-- The call of a token of a text. -/
theorem isRead_of_readToken {t token : Text} (htoken : token ∈ tokens t) {c : Call}
    (h : Query.readToken token = .ok c) : c.IsRead t := by
  rcases Token.readToken_eq_ok_iff.mp h with ⟨hword, rfl⟩ | ⟨d, hd, haccepts⟩
  · refine (Token.isKept_of_mem_tokens htoken).resolve_right fun hopened => ?_
    rw [hopened.isDirective] at hword
    cases hword
  · have hopened := Token.isOpened_of_directive? htoken hd
    refine Directive.isRead_of_accepts haccepts fun a ha =>
      ⟨?_, Token.noStray_argument hopened (Token.directive?_eq_some_iff.mp hd).2 ha⟩
    exact Nat.lt_of_lt_of_le (Token.length_argument?_lt ha) (Token.length_le_of_mem_tokens htoken)

/-- Every call of a text is read from a token. -/
theorem exists_readToken_of_mem_calls? {t : Text} {cs : List Call} (h : Query.calls? t = .ok cs)
    {c : Call} (hc : c ∈ cs) : ∃ token ∈ tokens t, Query.readToken token = .ok c := by
  rw [Query.calls?_eq_mapM] at h
  exact exists_of_mem_mapM h hc

/-- The calls of a text. -/
theorem isRead_of_calls? {t : Text} {cs : List Call} (h : Query.calls? t = .ok cs) :
    ∀ c ∈ cs, c.IsRead t := by
  intro c hc
  obtain ⟨token, htoken, hread⟩ := exists_readToken_of_mem_calls? h hc
  exact isRead_of_readToken htoken hread

/-! ### Queries that are read -/

namespace Query

/-- What holds of a query that was read from a text. -/
structure IsParsed (closed : Prop) (q : Query) : Prop where
  /-- Calls built it. -/
  built : q.Built
  /-- Every level can be written. -/
  isWritable : ∀ p, q.Contains p → p.IsWritable
  /-- The terms of sub-queries have no closing brace. -/
  below : ∀ p, q.Below p → p.IsClosed
  /-- Nor have those of the query if no brace of the text closes nothing. -/
  isClosed : closed → q.IsClosed

theorem isWritable_empty : empty.IsWritable where
  words := List.forall_mem_nil _
  limit := by
    rintro n ⟨⟩
    decide
  low := by decide +kernel
  high := by decide +kernel
  goodThreshold := rfl
  pattern := by
    intro h
    cases h

theorem isParsed_empty (closed : Prop) : IsParsed closed empty where
  built := .empty
  isWritable := forall_contains_iff.mpr ⟨isWritable_empty, List.forall_mem_nil _⟩
  below := forall_below_iff.mpr (List.forall_mem_nil _)
  isClosed := fun _ => List.forall_mem_nil _

/-- A call of a text keeps the criteria such that they can be written. -/
theorem isWritable_apply {t : Text} {q : Query} (hq : q.IsWritable) {c : Call} (hc : c.IsRead t) :
    (q.apply c).IsWritable := by
  obtain ⟨hwords, hlimit, hlow, hhigh, hthreshold, hpattern⟩ := hq
  cases c with
  | text term =>
    refine ⟨?_, hlimit, hlow, hhigh, hthreshold, fuzzy_text hpattern term⟩
    exact List.forall_mem_append.mpr ⟨hwords, List.forall_mem_singleton.mpr hc.1⟩
  | limit n =>
    refine ⟨hwords, ?_, hlow, hhigh, hthreshold, hpattern⟩
    rintro m ⟨⟩
    exact hc
  | unlimited =>
    refine ⟨hwords, ?_, hlow, hhigh, hthreshold, hpattern⟩
    rintro m ⟨⟩
  | fuzzy yes => exact ⟨hwords, hlimit, hlow, hhigh, hthreshold, fun _ => hc⟩
  | goodThreshold x => exact hc.elim
  | minSimilarity x => exact ⟨hwords, hlimit, hc.1, hc.2, hthreshold, hpattern⟩
  | _ => exact ⟨hwords, hlimit, hlow, hhigh, hthreshold, hpattern⟩

theorem isClosed_apply {t : Text} (ht : Token.NoStray t) {q : Query} (hq : q.IsClosed) {c : Call}
    (hc : c.IsRead t) : (q.apply c).IsClosed := by
  cases c with
  | text term => exact List.forall_mem_append.mpr ⟨hq, List.forall_mem_singleton.mpr (hc.2 ht)⟩
  | _ => exact hq

/-- A call of a text keeps what holds of a query, if it holds of the sub-query that it attaches. -/
theorem isParsed_apply {t : Text} {q : Query} (hq : IsParsed (Token.NoStray t) q) {c : Call}
    (hc : c.IsRead t) (hsub : ∀ s, c.sub? = some s → IsParsed True s) :
    IsParsed (Token.NoStray t) (q.apply c) where
  built := .apply hq.built fun s hs => (hsub s hs).built
  isWritable := forall_contains_apply
    (fun _ _ _ ⟨hwords, hlimit, hlow, hhigh, hthreshold, hpattern⟩ =>
      ⟨hwords, hlimit, hlow, hhigh, hthreshold, hpattern⟩)
    hq.isWritable (isWritable_apply (hq.isWritable q (.self q)) hc)
    fun s hs => (hsub s hs).isWritable
  below := forall_below_apply (fun _ _ _ h => h) hq.below fun s hs =>
    forall_contains_iff.mpr ⟨(hsub s hs).isClosed trivial, forall_below_iff.mp (hsub s hs).below⟩
  isClosed := fun ht => isClosed_apply ht (hq.isClosed ht) hc

theorem isParsed_applyAll {t : Text} {q : Query} (hq : IsParsed (Token.NoStray t) q)
    {cs : List Call} (hcs : ∀ c ∈ cs, c.IsRead t)
    (hsub : ∀ c ∈ cs, ∀ s, c.sub? = some s → IsParsed True s) :
    IsParsed (Token.NoStray t) (q.applyAll cs) := by
  induction cs generalizing q with
  | nil => exact hq
  | cons c cs ih =>
    obtain ⟨hc, hcs⟩ := List.forall_mem_cons.mp hcs
    obtain ⟨hsubc, hsub⟩ := List.forall_mem_cons.mp hsub
    exact ih (isParsed_apply hq hc hsubc) hcs hsub

/-- What is read from a text, by induction on its length. -/
theorem isParsed_of_parse {t : Text} {q : Query} (h : parse t = .ok q) :
    IsParsed (Token.NoStray t) q := by
  induction hn : t.length using Nat.strongRecOn generalizing t q with
  | ind n ih =>
    subst hn
    rw [parse, extend_eq] at h
    cases hcs : calls? t with
    | error e =>
      rw [hcs] at h
      cases h
    | ok cs =>
      rw [hcs] at h
      cases h
      have hread := isRead_of_calls? hcs
      refine isParsed_applyAll (isParsed_empty _) hread fun c hc s hs => ?_
      obtain ⟨a, hlt, hstray, hparse⟩ := (hread c hc).exists_of_sub? hs
      -- the argument is a text of its own, in which no brace closes nothing
      have ha := ih a.length hlt hparse rfl
      exact { ha with isClosed := fun _ => ha.isClosed hstray }

/-! ### Reading again -/

theorem ofJson_toJson_eq_ok_iff {q r : Query} :
    ofJson q.toJson = .ok r ↔ parse q.print = .ok r := by
  show (parse q.print).mapError JsonFault.query = .ok r ↔ _
  exact ⟨eq_ok_of_mapError, fun h => by rw [h]; rfl⟩

/-- **A query that was read** is read again from its own text. It is the same query exactly when no
last term of a sub-query ends in white space, and so it is with the query as a JSON value. -/
theorem parse_print_of_parse {t : Text} {q : Query} (hq : parse t = .ok q)
    (hback : ∀ p, q.Contains p → p.ReadsBack) :
    parse q.print = .ok q.reread ∧
      (parse q.print = .ok q ↔ ∀ p, q.Below p → p.EndsTight) ∧
      (ofJson q.toJson = .ok q ↔ ∀ p, q.Below p → p.EndsTight) ∧
      ((ofJson q.toJson).map toJson = .ok q.toJson ↔ ∀ p, q.Below p → p.EndsTight) := by
  obtain ⟨hbuilt, hwritable, hbelow, -⟩ := isParsed_of_parse hq
  have hscoped := hbuilt.isScoped
  have hread : parse q.print = .ok q.reread :=
    parse_print_eq_reread (fun p hp => ⟨hwritable p hp, hback p hp, hscoped p hp⟩) hbelow
      hbuilt.keepsEpisode
  have hself : q.reread = q ↔ ∀ p, q.Below p → p.EndsTight :=
    reread_eq_self_iff fun p hp t ht => ((hwritable p hp).words t ht).ne_nil
  have hback' : parse q.print = .ok q ↔ ∀ p, q.Below p → p.EndsTight := by
    rw [hread, Except.ok.injEq, hself]
  have hjson : ofJson q.toJson = .ok q.reread := ofJson_toJson_eq_ok_iff.mpr hread
  refine ⟨hread, hback', ofJson_toJson_eq_ok_iff.trans hback', ?_⟩
  rw [← hself, hjson]
  constructor
  · -- a query that is not read back has a shorter text the second time
    intro h
    have hprint : q.reread.print = q.print := by
      injection h with h
      injection h
    refine (reread_eq_or_length_lt hscoped).resolve_right fun hlt => ?_
    rw [hprint] at hlt
    exact Nat.lt_irrefl _ hlt
  · intro h
    rw [h]
    rfl

/-- A query for the episodes of a TV show whose name ends in a space that does not break. It was
written before the kind, and it is printed after the kind. -/
def tailed : Query :=
  empty.applyAll [.tvshow (empty.applyAll [.text ['a', '\u00a0'], .entity .movie])]

theorem parse_print_tailed :
    parse "\x7bshow:a\u00a0 \x7bmovie\x7d\x7d".toList = .ok tailed ∧
      (∀ p, tailed.Contains p → p.ReadsBack) ∧ parse tailed.print = .ok tailed.reread ∧
        parse tailed.print ≠ .ok tailed := by
  have hword : Token.IsWord ['a', '\u00a0'] := ⟨List.cons_ne_nil _ _, by simp [Token.isBlank]⟩
  have hsub := parse_joined (.cons (reads_word hword) (.cons (reads_kind .movie) .nil))
  have hshow : Reads (directiveText .show (some (Text.joined [' ']
      [['a', '\u00a0'], Directive.braced Kind.movie.name none]))) (.tvshow _) :=
    reads_sub rfl rfl (List.cons_ne_nil _ _) hsub
  have hparse : parse "\x7bshow:a\u00a0 \x7bmovie\x7d\x7d".toList = .ok tailed :=
    parse_joined (.cons hshow .nil)
  have hback : ∀ p, tailed.Contains p → p.ReadsBack :=
    forall_contains_iff.mpr ⟨Criteria.readsBack_empty, List.forall_mem_singleton.mpr
      (forall_contains_iff.mpr ⟨Criteria.readsBack_empty, List.forall_mem_nil _⟩)⟩
  obtain ⟨hread, hself, -⟩ := parse_print_of_parse hparse hback
  refine ⟨hparse, hback, hread, fun h => ?_⟩
  have htight := forall_below_iff.mp (hself.mp h) _ (List.mem_singleton_self _) _ (.self _)
  cases htight _ rfl _ rfl

end Query

end Filmography
