import Filmography.Proofs.Query.Parsed
import Filmography.Proofs.Query.Paths
import Filmography.Proofs.Query.Reordering
import Filmography.Search.Strategy

/-!
# What building a query promises

A query is built from the empty one by calls and by texts that it is extended with, and the
sub-queries that are attached to it are built the same way. Such a way of building is an expression,
a `Builder`. A text that cannot be read leaves the query as it was.

What an expression builds is said level by level. A level is what is found at a path of roles, and
it is built by an expression of its own: the one that was attached last in the last role of the
path, or that reads the argument of the last directive of the role. So the kinds of a level are
those that its own expression names, in the order in which it names them, unless its role has said
otherwise.

* `Builder.build_extend`: a text that is read is a list of calls;
* `Builder.kinds_build`: the kinds that are named are those of the query;
* `Builder.at?_build`: every level is built by its own expression;
* `Builder.isRegular_of_at?`: what is promised of every level.
-/

namespace Filmography

/-! ### Expressions that build queries -/

/-- A way to build a query. -/
inductive Builder where
  /-- The empty query. -/
  | new
  /-- A call that attaches no sub-query. -/
  | call (b : Builder) (c : Call) (h : c.sub? = none)
  /-- Attach the TV show whose episodes are sought. -/
  | tvshow (b sub : Builder)
  /-- Attach the media whose cast is sought. -/
  | credits (b sub : Builder)
  /-- Attach the actor whose credits are sought. -/
  | cast (b sub : Builder)
  /-- Extend the query with what a text asks for. -/
  | extend (b : Builder) (t : Text)

/-- The kinds that a call names. -/
def Call.named {ν : Type} : Call ν → List Kind
  | .entity kind => [kind]
  | .seasons _ | .episodes _ => [.episode]
  | _ => []

/-- The sub-query that a call attaches in a role. -/
def Call.subIn? {ν : Type} (role : Role) : Call ν → Option (Query ν)
  | .tvshow sub => if role = .tvshow then some sub else none
  | .credits sub => if role = .credits then some sub else none
  | .cast sub => if role = .cast then some sub else none
  | _ => none

/-- The calls of a text that can be read, and none of any other text. -/
def Query.callsOf (t : Text) : List Call :=
  match calls? t with
  | .ok cs => cs
  | .error _ => []

/-- A list of kinds, each of them where it stands first. -/
def Kind.firsts : List Kind → List Kind
  | [] => []
  | k :: ks => k :: (firsts ks).filter (· ≠ k)

/-- A sub-query with the kinds that its role asks for. -/
def Role.scope {ν : Type} (role : Role) (q : Query ν) : Query ν :=
  match role with
  | .tvshow => { q with kinds := [.tvshow] }
  | .credits => { q with kinds := if q.kinds = [] then [.movie, .tvshow, .episode] else q.kinds }
  | .cast => { q with kinds := [.actor] }
  | .result => q

namespace Builder

/-- The query that is built. -/
def build : Builder → Query
  | new => Query.empty
  | call b c _ => b.build.apply c
  | tvshow b sub => b.build.ofTvshow sub.build
  | credits b sub => b.build.ofCredits sub.build
  | cast b sub => b.build.ofCast sub.build
  | extend b t =>
    match b.build.extend t with
    | .ok q => q
    | .error _ => b.build

/-- The kinds that are named for the query itself, in order. -/
def named : Builder → List Kind
  | new => []
  | call b c _ => b.named ++ c.named
  | tvshow b _ | credits b _ | cast b _ => b.named
  | extend b t => b.named ++ (Query.callsOf t).flatMap Call.named

/-- Whether matching by similarity is turned on by no call for the query itself. -/
def NeverFuzzy : Builder → Prop
  | new => True
  | call b c _ => b.NeverFuzzy ∧ c ≠ .fuzzy true
  | tvshow b _ | credits b _ | cast b _ | extend b _ => b.NeverFuzzy

/-- What builds the sub-query in a role: the last one that was attached in it. The argument of a
directive is what the empty query is extended with. -/
def sub? (role : Role) : Builder → Option Builder
  | new => none
  | call b _ _ => b.sub? role
  | tvshow b sub => if role = .tvshow then some sub else b.sub? role
  | credits b sub => if role = .credits then some sub else b.sub? role
  | cast b sub => if role = .cast then some sub else b.sub? role
  | extend b t =>
    match Query.calls? t with
    | .ok _ =>
      ((((tokens t).filterMap (Token.argumentIn? role)).getLast?).map (extend new)).or (b.sub? role)
    | .error _ => b.sub? role

/-- What builds the query at a path. -/
def at? (b : Builder) : List Role → Option Builder
  | [] => some b
  | role :: path => (b.sub? role).bind fun sub => sub.at? path

end Builder

/-! ### Kinds -/

theorem Kind.nodup_firsts (ks : List Kind) : (firsts ks).Nodup := by
  induction ks with
  | nil => exact List.nodup_nil
  | cons k ks ih => exact List.nodup_cons.mpr ⟨by simp, ih.filter _⟩

theorem Kind.firsts_eq_nil_iff {ks : List Kind} : firsts ks = [] ↔ ks = [] := by
  rcases ks with _ | ⟨k, ks⟩
  · exact Iff.rfl
  · exact iff_of_false (List.cons_ne_nil _ _) (List.cons_ne_nil _ _)

/-- A kind that is named last is listed last, unless it was named before. -/
theorem Kind.firsts_concat (ks : List Kind) (k : Kind) :
    firsts (ks ++ [k]) = Criteria.insertKind k (firsts ks) := by
  induction ks with
  | nil => rfl
  | cons j ks ih =>
    rw [List.cons_append, firsts, ih, firsts, Criteria.insertKind, Criteria.insertKind]
    by_cases hmem : k ∈ firsts ks
    · have hlisted : k ∈ j :: (firsts ks).filter (· ≠ j) := by
        by_cases hk : k = j
        · exact List.mem_cons.mpr (.inl hk)
        · exact List.mem_cons_of_mem _ (List.mem_filter.mpr ⟨hmem, by simpa using hk⟩)
      rw [if_pos hmem, if_pos hlisted]
    · rw [if_neg hmem, List.filter_append]
      by_cases hk : k = j
      · subst hk
        rw [if_pos (List.mem_cons_self ..)]
        simp
      · have hlisted : k ∉ j :: (firsts ks).filter (· ≠ j) := by
          simp [hk, hmem]
        rw [if_neg hlisted]
        simp [hk]

namespace Query

/-- A call adds the kinds that it names. -/
theorem kinds_apply {q : Query} {ks : List Kind} (h : q.kinds = Kind.firsts ks) (c : Call) :
    (q.apply c).kinds = Kind.firsts (ks ++ c.named) := by
  cases c with
  | entity k =>
    rw [Call.named, Kind.firsts_concat, ← h]
    rfl
  | seasons r =>
    rw [Call.named, Kind.firsts_concat, ← h]
    rfl
  | episodes r =>
    rw [Call.named, Kind.firsts_concat, ← h]
    rfl
  | _ => exact h.trans (congrArg Kind.firsts (List.append_nil ks).symm)

theorem kinds_applyAll {q : Query} {ks : List Kind} (h : q.kinds = Kind.firsts ks)
    (cs : List Call) : (q.applyAll cs).kinds = Kind.firsts (ks ++ cs.flatMap Call.named) := by
  induction cs generalizing q ks with
  | nil => rwa [List.flatMap_nil, List.append_nil]
  | cons c cs ih =>
    rw [applyAll_cons, ih (kinds_apply h c), List.flatMap_cons, List.append_assoc]

/-! ### Sub-queries -/

/-- The sub-query in a role after a call. -/
theorem sub?_apply (q : Query) (c : Call) (role : Role) :
    (q.apply c).sub? role = ((c.subIn? role).map role.scope).or (q.sub? role) := by
  cases c <;> cases role <;> rfl

/-- The sub-query in a role is the last one that was attached in it. -/
theorem sub?_applyAll (q : Query) (cs : List Call) (role : Role) :
    (q.applyAll cs).sub? role =
      ((cs.filterMap (Call.subIn? role)).getLast?.map role.scope).or (q.sub? role) := by
  induction cs generalizing q with
  | nil => rfl
  | cons c cs ih =>
    rw [applyAll_cons, ih, sub?_apply, List.filterMap_cons]
    rcases c.subIn? role with _ | s
    · rfl
    · rw [List.getLast?_cons]
      rcases (cs.filterMap (Call.subIn? role)).getLast? with _ | s'
      · rfl
      · rfl

theorem sub?_scope (q : Query) (role role' : Role) : (role.scope q).sub? role' = q.sub? role' := by
  cases role <;> cases role' <;> rfl

/-! ### Patterns -/

/-- No call but one that turns matching by similarity on turns it on for a pattern. -/
theorem fuzzy_apply {q : Query} (hq : q.hasWildcard = true → q.fuzzy = false) {c : Call}
    (hc : c ≠ .fuzzy true) : (q.apply c).hasWildcard = true → (q.apply c).fuzzy = false := by
  cases c with
  | text term => exact fuzzy_text hq term
  | fuzzy yes =>
    rcases yes with _ | _
    · exact fun _ => rfl
    · exact absurd rfl hc
  | _ => exact hq

theorem fuzzy_applyAll {q : Query} (hq : q.hasWildcard = true → q.fuzzy = false) {cs : List Call}
    (hcs : ∀ c ∈ cs, c ≠ .fuzzy true) :
    (q.applyAll cs).hasWildcard = true → (q.applyAll cs).fuzzy = false := by
  induction cs generalizing q with
  | nil => exact hq
  | cons c cs ih =>
    obtain ⟨hc, hcs⟩ := List.forall_mem_cons.mp hcs
    exact ih (fuzzy_apply hq hc) hcs

theorem isRead_of_mem_callsOf {t : Text} {c : Call} (h : c ∈ callsOf t) : c.IsRead t := by
  rw [callsOf] at h
  split at h
  · next hcs => exact isRead_of_calls? hcs c h
  · cases h

end Query

namespace Builder

/-- A text adds its calls. -/
theorem build_extend (b : Builder) (t : Text) :
    (extend b t).build = b.build.applyAll (Query.callsOf t) := by
  rw [build, Query.extend_eq, Query.callsOf]
  rcases Query.calls? t with e | cs
  · rfl
  · rfl

/-- The kinds of what is built are those that are named, each of them where it is named first. -/
theorem kinds_build (b : Builder) : b.build.kinds = Kind.firsts b.named := by
  induction b with
  | new => rfl
  | call b c _ ih => exact Query.kinds_apply ih c
  | tvshow b sub ih => exact ih
  | credits b sub ih => exact ih
  | cast b sub ih => exact ih
  | extend b t ih =>
    rw [build_extend]
    exact Query.kinds_applyAll ih _

/-- An expression builds by calls. -/
theorem built_build (b : Builder) : b.build.Built := by
  induction b with
  | new => exact .empty
  | call b c h ih => exact .apply ih fun s hs => by rw [h] at hs; cases hs
  | tvshow b sub ih ihsub => exact .apply (c := .tvshow sub.build) ih (by rintro s ⟨⟩; exact ihsub)
  | credits b sub ih ihsub =>
    exact .apply (c := .credits sub.build) ih (by rintro s ⟨⟩; exact ihsub)
  | cast b sub ih ihsub => exact .apply (c := .cast sub.build) ih (by rintro s ⟨⟩; exact ihsub)
  | extend b t ih =>
    rw [build_extend]
    refine ih.applyAll fun c hc s hs => ?_
    obtain ⟨a, -, -, hparse⟩ := (Query.isRead_of_mem_callsOf hc).exists_of_sub? hs
    exact (Query.isParsed_of_parse hparse).built

/-- A pattern is not matched by similarity if that is never turned on. -/
theorem fuzzy_build {b : Builder} (h : b.NeverFuzzy) :
    b.build.hasWildcard = true → b.build.fuzzy = false := by
  induction b with
  | new =>
    intro hwildcard
    cases hwildcard
  | call b c _ ih => exact Query.fuzzy_apply (ih h.1) h.2
  | tvshow b sub ih => exact ih h
  | credits b sub ih => exact ih h
  | cast b sub ih => exact ih h
  | extend b t ih =>
    rw [build_extend]
    refine Query.fuzzy_applyAll (ih h) fun c hc hfuzzy => ?_
    have hread := Query.isRead_of_mem_callsOf hc
    rw [hfuzzy] at hread
    cases hread

/-! ### Levels -/

/-- What a directive attaches in a role is what the empty query becomes when it is extended with the
argument. -/
theorem subIn?_of_accepts {d : Directive} {arg : Option Text} {c : Call} (h : d.Accepts arg c)
    (role : Role) :
    c.subIn? role = match d.form with
      | .sub role' _ =>
        if role = role' then arg.map fun a => (extend new a).build else none
      | _ => none := by
  rcases h with hform | ⟨hform, -⟩ | @⟨_, _, a, s, hform, hs⟩ | ⟨hform, -, -⟩ | ⟨hform, -, -⟩ |
    ⟨hform, -⟩ | ⟨hform, -, -⟩
  · cases d <;> cases hform <;> rfl
  · cases d <;> cases hform <;> rfl
  · have hbuild : (extend new a).build = s := by
      have hparse : Query.empty.extend a = .ok s := hs
      rw [build, build, hparse]
    subst hbuild
    cases d <;> cases hform <;> rfl
  all_goals
    rw [hform]
    rfl

theorem subIn?_of_readToken {token : Text} {c : Call} (h : Query.readToken token = .ok c)
    (role : Role) :
    c.subIn? role = (Token.argumentIn? role token).map fun a => (extend new a).build := by
  rw [Token.argumentIn?]
  rcases Token.readToken_eq_ok_iff.mp h with ⟨hword, rfl⟩ | ⟨d, hd, haccepts⟩
  · rw [Token.directive?_of_isDirective hword]
    rfl
  · rw [subIn?_of_accepts haccepts, hd, Option.map_some]
    cases d.form with
    | sub role' call =>
      show (if role = role' then _ else none) = Option.map _ (if role = role' then _ else none)
      split
      · rfl
      · rfl
    | _ => rfl

/-- The sub-query in a role is built by what was attached in it last. -/
theorem sub?_build (b : Builder) (role : Role) :
    b.build.sub? role = (b.sub? role).map fun sub => role.scope sub.build := by
  have hattach : ∀ (b : Builder) (c : Call) (role' : Role) (sub : Builder),
      b.build.sub? role = (b.sub? role).map (fun sub => role.scope sub.build) →
      (c.subIn? role = if role = role' then some sub.build else none) →
      (b.build.apply c).sub? role = (if role = role' then some sub else b.sub? role).map
        fun sub => role.scope sub.build := by
    intro b c role' sub ih hc
    rw [Query.sub?_apply, hc, ih]
    split
    · rfl
    · rfl
  induction b with
  | new => cases role <;> rfl
  | call b c h ih =>
    have hnone : c.subIn? role = none := by
      cases c <;> first | rfl | cases h
    rw [build, Query.sub?_apply, hnone, ih]
    rfl
  | tvshow b sub ih => exact hattach b (.tvshow sub.build) .tvshow sub ih rfl
  | credits b sub ih => exact hattach b (.credits sub.build) .credits sub ih rfl
  | cast b sub ih => exact hattach b (.cast sub.build) .cast sub ih rfl
  | extend b t ih =>
    rw [build_extend, Query.sub?_applyAll, ih, sub?, Query.callsOf]
    rcases hcs : Query.calls? t with e | cs
    · rfl
    · dsimp only
      rw [Query.calls?_eq_mapM] at hcs
      have hreads := forall₂_of_mapM_eq_ok (R := fun token c =>
        c.subIn? role = (Token.argumentIn? role token).map fun a => (extend new a).build)
        (fun token _ c hc => subIn?_of_readToken hc role) hcs
      have hsubs : cs.filterMap (Call.subIn? role) =
          ((tokens t).filterMap (Token.argumentIn? role)).map fun a => (extend new a).build := by
        generalize tokens t = ts at hreads
        clear hcs ih
        induction hreads with
        | nil => rfl
        | cons hc _ ih =>
          rw [List.filterMap_cons, List.filterMap_cons, hc, ih]
          split
          · next hnone => rw [Option.map_eq_none_iff.mp hnone]
          · next hsome =>
            obtain ⟨a, ha, rfl⟩ := Option.map_eq_some_iff.mp hsome
            rw [ha]
            rfl
      rw [hsubs, List.getLast?_map, Option.map_or, Option.map_map, Option.map_map]
      rfl

/-- Every level is built by an expression of its own, and then it is given the kinds that its role
asks for. -/
theorem at?_build (b : Builder) (path : List Role) :
    b.build.at? path = (b.at? path).map fun level =>
      match path.getLast? with
      | none => level.build
      | some role => role.scope level.build := by
  induction path generalizing b with
  | nil => rfl
  | cons role path ih =>
    rw [Query.at?, sub?_build, at?]
    rcases b.sub? role with _ | sub
    · rfl
    · rcases path with _ | ⟨next, path⟩
      · rfl
      · rw [List.getLast?_cons_cons, Option.bind_some, ← ih]
        exact congrArg (Option.bind · _) (Query.sub?_scope _ _ _)

/-! ### What is promised -/

/-- What is promised of a level that an expression builds: the query itself, or the sub-query that
it attaches in a role. -/
structure IsRegular (b : Builder) (role : Option Role) (q : Query) : Prop where
  /-- No kind is listed twice. -/
  nodup : q.kinds.Nodup
  /-- The query itself lists the kinds that are named. -/
  result : role = none → q.kinds = Kind.firsts b.named
  /-- What is sought for its episodes is a TV show. -/
  tvshow : role = some .tvshow → q.kinds = [.tvshow]
  /-- What is sought for its cast is of the kinds that are named, or else any media. -/
  credits : role = some .credits → q.kinds ≠ [] ∧
    q.kinds = if b.named = [] then [.movie, .tvshow, .episode] else Kind.firsts b.named
  /-- What is sought for its credits is an actor. -/
  cast : role = some .cast → q.kinds = [.actor]
  /-- Where kinds are those that are named, seasons and episodes are restricted only if episodes
  are sought. -/
  keepsEpisode : role = none ∨ role = some .credits → q.KeepsEpisode
  /-- A pattern is never matched by similarity unless that is turned on. -/
  pattern : b.NeverFuzzy → q.hasWildcard = true →
    q.fuzzy = false ∧ ∀ fuzzyCapable, Strategy.ofQuery q fuzzyCapable ≠ .similarity

theorem kinds_scope_credits (b : Builder) : (Role.credits.scope b.build).kinds =
    if b.named = [] then [.movie, .tvshow, .episode] else Kind.firsts b.named := by
  show (if b.build.kinds = [] then _ else b.build.kinds) = _
  rw [kinds_build]
  exact if_congr Kind.firsts_eq_nil_iff rfl rfl

/-- **What building promises**: whatever expression builds a query, every level of it is built by an
expression of its own and is regular. -/
theorem isRegular_of_at? {b : Builder} {path : List Role} {q : Query}
    (h : b.build.at? path = some q) :
    ∃ level, b.at? path = some level ∧ level.IsRegular path.getLast? q := by
  rw [at?_build] at h
  obtain ⟨level, hlevel, hq⟩ := Option.map_eq_some_iff.mp h
  refine ⟨level, hlevel, ?_⟩
  have hnodup : level.build.kinds.Nodup := by
    rw [kinds_build]
    exact Kind.nodup_firsts _
  have hpattern : ∀ role : Role, level.NeverFuzzy → (role.scope level.build).hasWildcard = true →
      (role.scope level.build).fuzzy = false := by
    intro role
    cases role <;> exact fuzzy_build
  have hstrategy : ∀ {q : Query}, q.fuzzy = false →
      q.fuzzy = false ∧ ∀ fuzzyCapable, Strategy.ofQuery q fuzzyCapable ≠ .similarity := by
    intro q hfuzzy
    refine ⟨hfuzzy, fun fuzzyCapable => ?_⟩
    rw [Strategy.ofQuery, hfuzzy, Bool.false_and, if_neg Bool.false_ne_true]
    split
    · exact Strategy.noConfusion
    · exact Strategy.noConfusion
  rcases hrole : path.getLast? with _ | role
  · rw [hrole] at hq
    subst hq
    exact {
      nodup := hnodup
      result := fun _ => level.kinds_build
      tvshow := by rintro ⟨⟩
      credits := by rintro ⟨⟩
      cast := by rintro ⟨⟩
      keepsEpisode := fun _ => level.built_build.keepsEpisode
      pattern := fun hnever hwildcard => hstrategy (fuzzy_build hnever hwildcard) }
  · rw [hrole] at hq
    subst hq
    refine ⟨?_, by rintro ⟨⟩, ?_, ?_, ?_, ?_, fun hnever hwildcard =>
      hstrategy (hpattern role hnever hwildcard)⟩
    · cases role with
      | tvshow => exact List.nodup_singleton _
      | cast => exact List.nodup_singleton _
      | result => exact hnodup
      | credits =>
        show (if level.build.kinds = [] then _ else level.build.kinds).Nodup
        split
        · decide
        · exact hnodup
    · rintro ⟨⟩
      rfl
    · rintro ⟨⟩
      rw [kinds_scope_credits]
      refine ⟨?_, rfl⟩
      split
      · exact List.cons_ne_nil _ _
      · next hnamed => exact mt Kind.firsts_eq_nil_iff.mp hnamed
    · rintro ⟨⟩
      rfl
    · intro hcredits hrestricted
      obtain rfl : role = .credits := by simpa using hcredits
      have hmem : Kind.episode ∈ level.build.kinds := level.built_build.keepsEpisode hrestricted
      show Kind.episode ∈ if level.build.kinds = [] then _ else level.build.kinds
      rw [if_neg (List.ne_nil_of_mem hmem)]
      exact hmem

/-- The cast of an episode or a movie is sought, whose name is a pattern. The first text asks for
episodes twice, by their seasons, and the second one asks for what there is not. -/
def seasonal : Builder :=
  extend (extend (call new (.text "t%".toList) rfl) "\x7bs:2\x7d \x7bmovie\x7d \x7bs:3\x7d".toList)
    "\x7boops\x7d".toList

theorem isRegular_of_at?_seasonal : ∃ q, (credits new seasonal).build.at? [.credits] = some q ∧
    q.kinds = [.episode, .movie] ∧ q.KeepsEpisode ∧ q.fuzzy = false ∧
      Strategy.ofQuery q true ≠ .similarity := by
  have hread : Query.callsOf "\x7bs:2\x7d \x7bmovie\x7d \x7bs:3\x7d".toList =
      [.seasons (.exactly 2), .entity .movie, .seasons (.exactly 3)] := by
    rw [Query.callsOf, Query.calls?_eq_mapM]
    rfl
  have hfail : Query.callsOf "\x7boops\x7d".toList = [] := by
    rw [Query.callsOf, Query.calls?_eq_mapM]
    rfl
  have hnamed : seasonal.named = [.episode, .movie, .episode] := by
    show [] ++ (Query.callsOf _).flatMap Call.named ++ (Query.callsOf _).flatMap Call.named = _
    rw [hread, hfail]
    rfl
  have hnever : seasonal.NeverFuzzy := ⟨trivial, by rintro ⟨⟩⟩
  have hat : (credits new seasonal).build.at? [.credits] =
      some (Role.credits.scope seasonal.build) := rfl
  obtain ⟨level, hlevel, hregular⟩ := isRegular_of_at? hat
  obtain rfl : seasonal = level := Option.some.inj hlevel
  have hterms : (Role.credits.scope seasonal.build).hasWildcard = true := by
    rw [seasonal, build_extend, build_extend, hread, hfail]
    rfl
  obtain ⟨hfuzzy, hstrategy⟩ := hregular.pattern hnever hterms
  refine ⟨_, hat, ?_, hregular.keepsEpisode (.inr rfl), hfuzzy, hstrategy true⟩
  rw [(hregular.credits rfl).2, hnamed]
  rfl

end Builder

end Filmography
