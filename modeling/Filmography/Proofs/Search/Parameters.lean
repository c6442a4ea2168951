import Mathlib.Data.List.Forall2
import Filmography.Search.Compile
import Filmography.Search.StatementText

/-!
# Values stay out of the text of a statement

What a person enters ends up among the parameters of a compiled query, and the text of the statement
names them by number only. So two queries whose statements differ in the values alone have the same
text, whatever these values are. Which statements those are can be told from the queries: they have
the same **shape** (`Query.SameShape`), which leaves every text, every number and every atom open
and says nothing about what the sub-queries are.

* `Piece.conditions_eq`: pieces with conditions of one form and equally many values are numbered
  alike;
* `Query.compile_eq_of_sameShape`: queries of the same shape are compiled to statements that differ
  in nothing but the values of their parameters;
* `Query.text_compile_of_sameShape`: they have the same text.
-/

namespace Filmography

variable {ν : Type}

/-- Of two values that are given under the same circumstances, both are given or neither is. -/
private theorem both_or_neither {α β : Type} {o : Option α} {o' : Option β}
    (h : o.isSome = o'.isSome) : (o = none ∧ o' = none) ∨ ∃ a b, o = some a ∧ o' = some b := by
  cases o with
  | none => exact .inl ⟨rfl, by simpa using h.symm⟩
  | some a =>
    obtain ⟨b, hb⟩ := Option.isSome_iff_exists.mp h.symm
    exact .inr ⟨a, b, rfl, hb⟩

/-! ### Shapes -/

/-- Two values of the same type. -/
inductive Value.SameType : Value ν → Value ν → Prop
  /-- Integers. -/
  | integer (m n : Int) : SameType (.integer m) (.integer n)
  /-- Thresholds. -/
  | number (x y : ν) : SameType (.number x) (.number y)
  /-- Texts. -/
  | text (t u : Text) : SameType (.text t) (.text u)

/-- Two ranges that have the same bounds, of whatever value. -/
structure Range.SameBounds (r r' : Range) : Prop where
  /-- Both have a lower bound, or neither does. -/
  min : r.min.isSome = r'.min.isSome
  /-- Both have an upper bound, or neither does. -/
  max : r.max.isSome = r'.max.isSome

/-- Two sub-queries that have come to the same, up to the entity that they stand for. -/
inductive Resolution.SameCase : Resolution → Resolution → Prop
  /-- There are none. -/
  | notRequested : SameCase .notRequested .notRequested
  /-- Both stand for an entity. -/
  | resolved (a b : Atom) : SameCase (.resolved a) (.resolved b)
  /-- Both stand for nothing. -/
  | unresolved : SameCase .unresolved .unresolved

/-- Two queries of the same shape, given what has become of their sub-queries and whether names can
be matched by similarity. -/
structure Query.SameShape (q q' : Query ν) (r r' : Resolutions)
    (fuzzyCapable fuzzyCapable' : Bool) : Prop where
  /-- Names are matched in the same way. -/
  strategy : Strategy.ofQuery q fuzzyCapable = Strategy.ofQuery q' fuzzyCapable'
  /-- Both have a text, or neither does. -/
  name : q.name?.isSome = q'.name?.isSome
  /-- They list the same kinds. -/
  kinds : q.kinds = q'.kinds
  /-- They have the same sort keys. -/
  sorts : q.sorts = q'.sorts
  /-- Both leave out movies made for TV, or neither does. -/
  noTv : q.noTv = q'.noTv
  /-- Both leave out movies made for video, or neither does. -/
  noVideo : q.noVideo = q'.noVideo
  /-- The ranges of years have the same bounds. -/
  years : q.years.SameBounds q'.years
  /-- The ranges of ranks have the same bounds. -/
  rank : q.rank.SameBounds q'.rank
  /-- The ranges of votes have the same bounds. -/
  votes : q.votes.SameBounds q'.votes
  /-- The ranges of seasons have the same bounds. -/
  seasons : q.seasons.SameBounds q'.seasons
  /-- The ranges of episodes have the same bounds. -/
  episodes : q.episodes.SameBounds q'.episodes
  /-- The ranges of positions have the same bounds. -/
  billed : q.billed.SameBounds q'.billed
  /-- Both are limited, or neither is. -/
  limit : q.limit.isSome = q'.limit.isSome
  /-- The sub-queries for TV shows have come to the same. -/
  tvshow : r.tvshow.SameCase r'.tvshow
  /-- The sub-queries for media have come to the same. -/
  credits : r.credits.SameCase r'.credits
  /-- The sub-queries for actors have come to the same. -/
  cast : r.cast.SameCase r'.cast

/-! ### Pieces -/

namespace Piece

/-- Two pieces with the same condition, on values of the same types. -/
structure SameShape (p p' : Piece ν) : Prop where
  /-- The values have the same types. -/
  values : List.Forall₂ Value.SameType p.values p'.values
  /-- The condition is the same wherever the placeholders start. -/
  condition : p.condition = p'.condition

theorem sameShape_name (strategy : Strategy) {q q' : Query ν}
    (h : q.name?.isSome = q'.name?.isSome) : (name strategy q).SameShape (name strategy q') := by
  obtain ⟨hq, hq'⟩ | ⟨t, u, hq, hq'⟩ := both_or_neither h
  · simp only [name, hq, hq']
    exact ⟨.nil, rfl⟩
  · simp only [name, hq, hq']
    cases strategy with
    | exact => exact ⟨.cons (.text t u) .nil, rfl⟩
    | pattern => exact ⟨.cons (.text t u) .nil, rfl⟩
    | similarity => exact ⟨.cons (.text t u) (.cons (.number _ _) .nil), rfl⟩

theorem sameShape_role (column : Column) {res res' : Resolution} (h : res.SameCase res') :
    (role column res : Piece ν).SameShape (role column res') := by
  cases h with
  | notRequested => exact ⟨.nil, rfl⟩
  | resolved a b => exact ⟨.cons (.integer _ _) .nil, rfl⟩
  | unresolved => exact ⟨.nil, rfl⟩

theorem sameShape_range (column : Column) {r r' : Range} (h : r.SameBounds r') :
    (range column r : Piece ν).SameShape (range column r') := by
  obtain ⟨low, high⟩ := r
  obtain ⟨low', high'⟩ := r'
  obtain ⟨rfl, rfl⟩ | ⟨a, a', rfl, rfl⟩ := both_or_neither h.min <;>
    obtain ⟨rfl, rfl⟩ | ⟨b, b', rfl, rfl⟩ := both_or_neither h.max
  · exact ⟨.nil, rfl⟩
  · exact ⟨.cons (.integer _ _) .nil, rfl⟩
  · exact ⟨.cons (.integer _ _) .nil, rfl⟩
  · exact ⟨.cons (.integer _ _) (.cons (.integer _ _) .nil), rfl⟩

theorem sameShape_ofQuery {q q' : Query ν} {r r' : Resolutions} {fuzzyCapable fuzzyCapable' : Bool}
    (h : q.SameShape q' r r' fuzzyCapable fuzzyCapable') :
    List.Forall₂ SameShape (ofQuery q r) (ofQuery q' r') :=
  .cons (sameShape_role _ h.tvshow) <| .cons (sameShape_role _ h.credits) <|
    .cons (sameShape_role _ h.cast) <| .cons (sameShape_range _ h.years) <|
    .cons (sameShape_range _ h.rank) <| .cons (sameShape_range _ h.votes) <|
    .cons (sameShape_range _ h.seasons) <| .cons (sameShape_range _ h.episodes) <|
    .cons (sameShape_range _ h.billed) .nil

/-- Pieces of the same shape take equally many placeholders each, so they are numbered alike. -/
theorem conditions_eq {ps ps' : List (Piece ν)} (h : List.Forall₂ SameShape ps ps')
    (first : Nat) : conditions first ps = conditions first ps' := by
  induction h generalizing first with
  | nil => rfl
  | @cons p p' ps ps' hp _ ih =>
    rw [conditions, conditions, hp.condition, hp.values.length_eq, ih]

theorem sameType_values {ps ps' : List (Piece ν)} (h : List.Forall₂ SameShape ps ps') :
    List.Forall₂ Value.SameType (ps.flatMap values) (ps'.flatMap values) := by
  induction h with
  | nil => exact .nil
  | @cons p p' ps ps' hp _ ih =>
    rw [List.flatMap_cons, List.flatMap_cons]
    exact List.rel_append hp.values ih

end Piece

/-! ### Statements -/

/-- Credits are joined at an end that does not depend on the entities of the sub-queries. -/
theorem Resolutions.join_eq {r r' : Resolutions} (hcredits : r.credits.SameCase r'.credits)
    (hcast : r.cast.SameCase r'.cast) : r.join = r'.join := by
  obtain ⟨tvshow, credits, cast⟩ := r
  obtain ⟨tvshow', credits', cast'⟩ := r'
  cases hcredits <;> cases hcast <;> rfl

namespace Query

variable {q q' : Query ν} {r r' : Resolutions} {fuzzyCapable fuzzyCapable' : Bool}

/-- The parameters of queries of the same shape have the same types. -/
theorem sameType_params (h : q.SameShape q' r r' fuzzyCapable fuzzyCapable') :
    List.Forall₂ Value.SameType (q.compile r fuzzyCapable).params
      (q'.compile r' fuzzyCapable').params := by
  have hname := (Piece.sameShape_name (Strategy.ofQuery q fuzzyCapable) h.name).values
  have hpieces := Piece.sameType_values (Piece.sameShape_ofQuery h)
  have hlimit : List.Forall₂ Value.SameType (q.limit.toList.map (limitValue (ν := ν)))
      (q'.limit.toList.map limitValue) := by
    obtain ⟨hq, hq'⟩ | ⟨m, n, hq, hq'⟩ := both_or_neither h.limit
    · rw [hq, hq']
      exact .nil
    · rw [hq, hq']
      exact .cons (.integer _ _) .nil
  rw [h.strategy] at hname
  simp only [compile, h.strategy]
  exact List.rel_append (List.rel_append hname hpieces) hlimit

/-- Queries of the same shape are compiled to statements that differ in nothing but the values of
their parameters. -/
theorem compile_eq_of_sameShape (h : q.SameShape q' r r' fuzzyCapable fuzzyCapable') :
    { q.compile r fuzzyCapable with params := (q'.compile r' fuzzyCapable').params } =
      q'.compile r' fuzzyCapable' := by
  have hname := Piece.sameShape_name (Strategy.ofQuery q' fuzzyCapable') h.name
  have hpieces := Piece.sameShape_ofQuery h
  have hcount : (Piece.name (Strategy.ofQuery q' fuzzyCapable') q).values.length =
      (Piece.name (Strategy.ofQuery q' fuzzyCapable') q').values.length := hname.values.length_eq
  have hcounts : ((Piece.ofQuery q r).flatMap Piece.values).length =
      ((Piece.ofQuery q' r').flatMap Piece.values).length :=
    (Piece.sameType_values hpieces).length_eq
  have hterms : (q.terms ≠ []) = (q'.terms ≠ []) := by
    have hsome := h.name
    simp only [Criteria.name?] at hsome
    exact propext (by grind)
  have hlimit : ∀ n : Nat, (q.limit.map fun _ => n) = q'.limit.map fun _ => n := fun n => by
    obtain ⟨hq, hq'⟩ | ⟨_, _, hq, hq'⟩ := both_or_neither h.limit
    · rw [hq, hq']
    · rw [hq, hq']
      rfl
  simp only [compile, h.strategy, h.kinds, h.sorts, h.noTv, h.noVideo, hterms, hcount, hcounts,
    hname.condition, Resolutions.join_eq h.credits h.cast, Piece.conditions_eq hpieces,
    List.length_append, hlimit]

/-- **Values stay out of the text.** Queries of the same shape have the same text, and parameters of
the same types: only the values of the parameters can differ. -/
theorem text_compile_of_sameShape (h : q.SameShape q' r r' fuzzyCapable fuzzyCapable') :
    (q.compile r fuzzyCapable).text = (q'.compile r' fuzzyCapable').text ∧
      { q.compile r fuzzyCapable with params := (q'.compile r' fuzzyCapable').params } =
        q'.compile r' fuzzyCapable' ∧
      List.Forall₂ Value.SameType (q.compile r fuzzyCapable).params
        (q'.compile r' fuzzyCapable').params := by
  have hcompile := compile_eq_of_sameShape h
  refine ⟨?_, hcompile, sameType_params h⟩
  -- the text does not read the parameters
  have htext : (q.compile r fuzzyCapable).text =
      { q.compile r fuzzyCapable with params := (q'.compile r' fuzzyCapable').params }.text := rfl
  rw [htext, hcompile]

/-- A name that would end a quotation, were it written into the text, stays a parameter: the text is
that for a tame name. -/
theorem text_compile_quotation :
    let tame : Query :=
      { empty with
        terms := ["Alien".toList], kinds := [.movie], years := .between 1979 1986
        fuzzy := false, limit := some 5 }
    let hostile : Query :=
      { empty with
        terms := ["x'; DROP TABLE name; --".toList, "?1".toList], kinds := [.movie]
        years := .between 0 4294967295, fuzzy := false, limit := some 18446744073709551615
        goodThreshold := 0, debug := true, cast := some empty }
    let r : Resolutions := { cast := .resolved ⟨3, by decide⟩ }
    let r' : Resolutions := { cast := .resolved ⟨4294967295, by decide⟩ }
    tame.SameShape hostile r r' true false ∧
      (tame.compile r true).text = (hostile.compile r' false).text := by
  intro tame hostile r r'
  have hrange : (Range.mk none none).SameBounds ⟨none, none⟩ := ⟨rfl, rfl⟩
  have hshape : tame.SameShape hostile r r' true false :=
    { strategy := by decide
      name := rfl, kinds := rfl, sorts := rfl, noTv := rfl, noVideo := rfl
      years := ⟨rfl, rfl⟩
      rank := hrange, votes := hrange, seasons := hrange, episodes := hrange, billed := hrange
      limit := rfl
      tvshow := .notRequested, credits := .notRequested, cast := .resolved _ _ }
  exact ⟨hshape, (text_compile_of_sameShape hshape).1⟩

end Query

end Filmography
