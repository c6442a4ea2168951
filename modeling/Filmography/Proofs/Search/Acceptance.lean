import Mathlib.Data.List.Forall2
import Filmography.Search.Compile

/-!
# What a query asks for

A query whose sub-queries have been resolved accepts a name, joined with a credit or with none, or
it does not. `Query.Accepts` says which, condition by condition, by what the tables hold for the
atom of the name. Nothing in it speaks of parameters or placeholders.

The compiled statement says the same by numbered placeholders: each piece of it reads its own
values out of one list of parameters. A piece that **means** a property does so wherever its values
stand in that list, so pieces can be taken one at a time.

* `Piece.means_role`, `Piece.means_range`, `Piece.means_name`: what each piece means;
* `Query.conditions_hold_iff`: all conditions of a compiled query hold of a joined name exactly
  when the query accepts it.
-/

namespace Filmography

/-! ### Acceptance -/

/-- A range admits the values between its bounds. A missing value is within no bound, so only the
range without bounds admits it. -/
structure Range.Admits (r : Range) (v : Option Int) : Prop where
  /-- A lower bound asks for a value that is at least as large. -/
  low : ∀ a, r.min = some a → ∃ n, v = some n ∧ (a.toNat : Int) ≤ n
  /-- An upper bound asks for a value that is at most as large. -/
  high : ∀ b, r.max = some b → ∃ n, v = some n ∧ n ≤ (b.toNat : Int)

theorem Range.admits_iff {r : Range} {v : Option Int} :
    r.Admits v ↔ (∀ a, r.min = some a → ∃ n, v = some n ∧ (a.toNat : Int) ≤ n) ∧
      ∀ b, r.max = some b → ∃ n, v = some n ∧ n ≤ (b.toNat : Int) :=
  ⟨fun h => ⟨h.low, h.high⟩, fun h => ⟨h.1, h.2⟩⟩

/-- A resolved sub-query admits the entity that it stands for, one that stands for nothing admits
nothing, and without a sub-query everything will do. -/
def Resolution.Admits : Resolution → Option Int → Prop
  | .notRequested, _ => True
  | .resolved a, v => v = some a.toInt
  | .unresolved, _ => False

/-- The first year that is known of an entity: as a movie, as a TV show, as an episode. -/
def Catalog.knownYear? (c : Catalog) (atom : Int) : Option Int :=
  [(c.movies.find? atom).bind (·.year), (c.tvshows.find? atom).bind (·.year),
    (c.episodes.find? atom).bind (·.year)].findSome? id

section

variable {ν : Type} [Score ν]

/-- A name satisfies the text of a query. Similarity counts if the query allows it and the names of
the store can be compared so; otherwise the text is a pattern if it has wildcards or letter case is
ignored, and else it is the name. -/
def Query.NameMatches (q : Query ν) (fuzzyCapable : Bool) (t name : Text) : Prop :=
  if q.fuzzy = true ∧ fuzzyCapable = true then
    Score.reaches (Score.ofRatio (similarity name t)) q.minSimilarity = true
  else if q.hasWildcard = true ∨ q.ignoreCase = true then
    Pattern.Denotes (Pattern.seen t) (Pattern.seen name)
  else name = t

/-- A query with resolved sub-queries accepts a name of the catalogue together with the credit that
it is joined with, if it is joined with one. -/
structure Query.Accepts (q : Query ν) (r : Resolutions) (fuzzyCapable : Bool) (c : Catalog)
    (n : NameRow) (credit : Option CreditRow) : Prop where
  /-- The atom is in the table of one of the kinds, of any kind if none is listed. -/
  kind : ∃ k, (q.kinds = [] ∨ k ∈ q.kinds) ∧ c.has k n.atom = true
  /-- The episode is one of the TV show. -/
  tvshow : r.tvshow.Admits ((c.episodes.find? n.atom).map (·.tvshow))
  /-- The credit is one in the media. -/
  credits : r.credits.Admits (credit.map (·.media))
  /-- The credit is one of the actor. -/
  cast : r.cast.Admits (credit.map (·.actor))
  /-- The first known year is in range. -/
  years : q.years.Admits (c.knownYear? n.atom)
  /-- The rank is in range. -/
  rank : q.rank.Admits ((c.ratings.find? n.atom).map (·.rank))
  /-- The number of votes is in range. -/
  votes : q.votes.Admits ((c.ratings.find? n.atom).map (·.votes))
  /-- The season is in range. -/
  seasons : q.seasons.Admits ((c.episodes.find? n.atom).bind (·.season))
  /-- The number in the season is in range. -/
  episodes : q.episodes.Admits ((c.episodes.find? n.atom).bind (·.number))
  /-- The billing position is in range. -/
  billed : q.billed.Admits (credit.bind (·.position))
  /-- No movie with the atom was made for TV, if those are left out. -/
  noTv : q.noTv = true → ∀ m, c.movies.find? n.atom = some m → m.tv = 0
  /-- No movie with the atom was made for video, if those are left out. -/
  noVideo : q.noVideo = true → ∀ m, c.movies.find? n.atom = some m → m.video = 0
  /-- The name satisfies the text, if there is one. -/
  name : ∀ t, q.name? = some t → q.NameMatches fuzzyCapable t n.name

/-- The credits that a name is joined with: with a sub-query for an actor those in which it is the
media, with a sub-query for media alone those in which it is the actor, and otherwise none. -/
def Resolutions.Joins (r : Resolutions) (c : Catalog) (n : NameRow) : Option CreditRow → Prop
  | none => r.cast = .notRequested ∧ r.credits = .notRequested
  | some k => k ∈ c.credits.rows ∧
      if r.cast ≠ .notRequested then k.media = n.atom
      else r.credits ≠ .notRequested ∧ k.actor = n.atom

end

/-! ### Strategies -/

namespace Strategy

variable {ν : Type} {q : Query ν} {fuzzyCapable : Bool}

/-- Similarity counts if the query allows it and the names of the store can be compared so. -/
theorem ofQuery_eq_similarity_iff :
    ofQuery q fuzzyCapable = .similarity ↔ q.fuzzy = true ∧ fuzzyCapable = true := by
  rw [ofQuery, ← Bool.and_eq_true]
  split
  · next hf => exact iff_of_true rfl hf
  · next hf => exact iff_of_false (by split <;> exact Strategy.noConfusion) hf

/-- Otherwise a text with wildcards is a pattern, and so is one whose letter case is ignored. -/
theorem ofQuery_eq_pattern_iff : ofQuery q fuzzyCapable = .pattern ↔
    ¬(q.fuzzy = true ∧ fuzzyCapable = true) ∧ (q.hasWildcard = true ∨ q.ignoreCase = true) := by
  rw [ofQuery, ← Bool.and_eq_true, ← Bool.or_eq_true]
  split
  · next hf => exact iff_of_false Strategy.noConfusion fun h => h.1 hf
  · next hf =>
    split
    · next hw => exact iff_of_true rfl ⟨hf, hw⟩
    · next hw => exact iff_of_false Strategy.noConfusion fun h => hw h.2

end Strategy

/-! ### Placeholders -/

namespace Value

variable {ν : Type}

/-- A placeholder stands for the value at its place. -/
@[simp]
theorem lookup?_append_cons (before : List (Value ν)) (v : Value ν) (after : List (Value ν)) :
    lookup? (before ++ v :: after) (before.length + 1) = some v := by
  simp [lookup?]

/-- The next placeholder stands for the next value. -/
@[simp]
theorem lookup?_append_cons_cons (before : List (Value ν)) (v w : Value ν)
    (after : List (Value ν)) :
    lookup? (before ++ v :: w :: after) (before.length + 1 + 1) = some w := by
  simp [lookup?]

end Value

/-! ### What pieces mean -/

namespace Piece

variable {ν : Type} [Score ν]

/-- A piece means a property if its condition decides the property, its own values being among the
parameters where its placeholders point, whatever the parameters before and after are. -/
def Means (p : Piece ν) (P : Joined → Prop) : Prop :=
  ∀ (before after : List (Value ν)) (j : Joined),
    (p.condition (before.length + 1)).holds (before ++ p.values ++ after) j = true ↔ P j

theorem means_role (column : Column) (res : Resolution) :
    (role column res : Piece ν).Means fun j => res.Admits (j.column column) := by
  intro before after j
  cases res with
  | notRequested => simp [role, Condition.holds, Resolution.Admits]
  | unresolved => simp [role, Condition.holds, Resolution.Admits]
  | resolved a =>
    cases hv : j.column column <;>
      simp [role, Condition.holds, Resolution.Admits, bothSatisfy, Value.integer?, hv]

/-- Bounds hold of no missing value: the four shapes of a range compare with the bounds that are
there. -/
theorem means_range (column : Column) (r : Range) :
    (range column r : Piece ν).Means fun j => r.Admits (j.column column) := by
  intro before after j
  obtain ⟨low, high⟩ := r
  simp only [Range.admits_iff]
  cases low <;> cases high <;> cases hv : j.column column <;>
    simp [range, bound, Condition.holds, bothSatisfy, Value.integer?, hv]

theorem means_name (q : Query ν) (fuzzyCapable : Bool) :
    (name (Strategy.ofQuery q fuzzyCapable) q).Means fun j =>
      ∀ t, q.name? = some t → q.NameMatches fuzzyCapable t j.name.name := by
  intro before after j
  cases ht : q.name? with
  | none => simp [name, ht, Condition.holds]
  | some t =>
    simp only [Option.some.injEq, forall_eq', Query.NameMatches, Strategy.ofQuery]
    by_cases hf : q.fuzzy = true ∧ fuzzyCapable = true
    · simp [name, ht, hf, Condition.holds, bothSatisfy, Value.text?, Value.number?]
    · have hf' : ¬(q.fuzzy && fuzzyCapable) = true := by simpa using hf
      rw [if_neg hf, if_neg hf']
      by_cases hw : q.hasWildcard = true ∨ q.ignoreCase = true
      · have hw' : (q.hasWildcard || q.ignoreCase) = true := by simpa using hw
        simp [name, ht, hw, hw', Condition.holds, Value.text?, Pattern.accepts_iff]
      · have hw' : ¬(q.hasWildcard || q.ignoreCase) = true := by simpa using hw
        rw [if_neg hw, if_neg hw']
        simp [name, ht, Condition.holds, Value.text?, eq_comm (a := t)]

/-- Pieces that stand one after the other read their own values each. -/
theorem conditions_hold_iff {ps : List (Piece ν)} {Ps : List (Joined → Prop)}
    (h : List.Forall₂ Means ps Ps) (before after : List (Value ν)) (j : Joined) :
    (∀ k ∈ conditions (before.length + 1) ps,
        k.holds (before ++ ps.flatMap values ++ after) j = true) ↔ ∀ P ∈ Ps, P j := by
  induction h generalizing before with
  | nil => simp [conditions]
  | @cons p P ps Ps hp _ ih =>
    have hlen : before.length + 1 + p.values.length = (before ++ p.values).length + 1 := by
      simp only [List.length_append]
      omega
    have hrest : before ++ (p :: ps).flatMap values ++ after =
        before ++ p.values ++ ps.flatMap values ++ after := by
      simp [List.flatMap_cons]
    have hhead := hp before (ps.flatMap values ++ after) j
    rw [← List.append_assoc] at hhead
    simp only [conditions, List.forall_mem_cons, hlen, hrest]
    rw [hhead, ih (before ++ p.values)]

omit [Score ν] in
/-- What holds of the conditions of pieces, wherever their values stand, holds of all conditions. -/
theorem forall_mem_conditions {P : Condition → Prop} {ps : List (Piece ν)}
    (h : ∀ p ∈ ps, ∀ i, P (p.condition i)) (first : Nat) : ∀ k ∈ conditions first ps, P k := by
  induction ps generalizing first with
  | nil => simp [conditions]
  | cons p ps ih =>
    rw [conditions, List.forall_mem_cons]
    exact ⟨h p (List.mem_cons_self ..) first,
      ih (fun p' hp' => h p' (List.mem_cons_of_mem _ hp')) _⟩

omit [Score ν] in
/-- The condition of a piece is among all conditions, wherever its values stand. -/
theorem exists_mem_conditions {p : Piece ν} {ps : List (Piece ν)} (hp : p ∈ ps)
    (first : Nat) : ∃ i, p.condition i ∈ conditions first ps := by
  induction ps generalizing first with
  | nil => cases hp
  | cons p' ps ih =>
    rw [conditions]
    rcases List.mem_cons.mp hp with rfl | hp
    · exact ⟨first, List.mem_cons_self ..⟩
    · obtain ⟨i, hi⟩ := ih hp (first + p'.values.length)
      exact ⟨i, List.mem_cons_of_mem _ hi⟩

/-- What the pieces for the roles and ranges of a query mean, in order. -/
theorem means_ofQuery (q : Query ν) (r : Resolutions) :
    List.Forall₂ Means (ofQuery q r)
      [fun j => r.tvshow.Admits (j.column .tvshow),
        fun j => r.credits.Admits (j.column .creditMedia),
        fun j => r.cast.Admits (j.column .creditActor), fun j => q.years.Admits (j.column .year),
        fun j => q.rank.Admits (j.column .rank), fun j => q.votes.Admits (j.column .votes),
        fun j => q.seasons.Admits (j.column .season), fun j => q.episodes.Admits (j.column .number),
        fun j => q.billed.Admits (j.column .position)] :=
  .cons (means_role _ _) <| .cons (means_role _ _) <| .cons (means_role _ _) <|
    .cons (means_range _ _) <| .cons (means_range _ _) <| .cons (means_range _ _) <|
    .cons (means_range _ _) <| .cons (means_range _ _) <| .cons (means_range _ _) .nil

end Piece

/-! ### Conditions and acceptance -/

namespace Catalog

variable (c : Catalog) (n : NameRow) (credit : Option CreditRow)

/-- A joined name is of a kind if the table of the kind holds its atom. -/
@[simp]
theorem isKind_joinedName (k : Kind) : (c.joinedName n credit).isKind k = c.has k n.atom := by
  cases k <;> rfl

@[simp]
theorem year?_joinedName : (c.joinedName n credit).year? = c.knownYear? n.atom := by
  simp only [Joined.year?, joinedName, knownYear?]
  cases (c.movies.find? n.atom).bind (·.year) <;>
    cases (c.tvshows.find? n.atom).bind (·.year) <;>
      cases (c.episodes.find? n.atom).bind (·.year) <;> rfl

end Catalog

namespace Query

variable {ν : Type} [Score ν]

private theorem holds_ofKinds_iff (q : Query ν) (params : List (Value ν)) (c : Catalog)
    (n : NameRow) (credit : Option CreditRow) :
    (Condition.ofKinds (if q.kinds = [] then Kind.all else q.kinds)).holds params
        (c.joinedName n credit) = true ↔
      ∃ k, (q.kinds = [] ∨ k ∈ q.kinds) ∧ c.has k n.atom = true := by
  by_cases hk : q.kinds = [] <;> simp [Condition.holds, hk, Kind.mem_all]

private theorem holds_flag_iff (yes : Bool) (condition : Condition) (params : List (Value ν))
    (j : Joined) :
    (if yes = true then condition else .always).holds params j = true ↔
      (yes = true → condition.holds params j = true) := by
  cases yes <;> simp [Condition.holds]

private theorem holds_notTv_iff (params : List (Value ν)) (c : Catalog) (n : NameRow)
    (credit : Option CreditRow) :
    Condition.notTv.holds params (c.joinedName n credit) = true ↔
      ∀ m, c.movies.find? n.atom = some m → m.tv = 0 := by
  cases h : c.movies.find? n.atom <;> simp [Condition.holds, Catalog.joinedName, h]

private theorem holds_notVideo_iff (params : List (Value ν)) (c : Catalog) (n : NameRow)
    (credit : Option CreditRow) :
    Condition.notVideo.holds params (c.joinedName n credit) = true ↔
      ∀ m, c.movies.find? n.atom = some m → m.video = 0 := by
  cases h : c.movies.find? n.atom <;> simp [Condition.holds, Catalog.joinedName, h]

omit [Score ν] in
/-- The values for the name come first among the parameters, then those for the roles and ranges. -/
theorem params_eq_append (q : Query ν) (r : Resolutions) (fuzzyCapable : Bool) :
    (q.compile r fuzzyCapable).params =
      (Piece.name (Strategy.ofQuery q fuzzyCapable) q).values ++
        (Piece.ofQuery q r).flatMap Piece.values ++ q.limit.toList.map limitValue :=
  rfl

/-- The conditions of a compiled query but for that on the name, which comes last. The kinds are
tested first, and then come the pieces for the roles and ranges. -/
def others (q : Query ν) (r : Resolutions) (fuzzyCapable : Bool) : List Condition :=
  .ofKinds (if q.kinds = [] then Kind.all else q.kinds) ::
    (Piece.conditions (1 + (Piece.name (Strategy.ofQuery q fuzzyCapable) q).values.length)
      (Piece.ofQuery q r) ++
    [if q.noTv = true then .notTv else .always, if q.noVideo = true then .notVideo else .always])

omit [Score ν] in
theorem conditions_compile (q : Query ν) (r : Resolutions) (fuzzyCapable : Bool) :
    (q.compile r fuzzyCapable).conditions =
      .ofKinds (if q.kinds = [] then Kind.all else q.kinds) ::
        (Piece.conditions (1 + (Piece.name (Strategy.ofQuery q fuzzyCapable) q).values.length)
          (Piece.ofQuery q r) ++
        [if q.noTv = true then .notTv else .always, if q.noVideo = true then .notVideo else .always,
          (Piece.name (Strategy.ofQuery q fuzzyCapable) q).condition 1]) :=
  rfl

omit [Score ν] in
theorem conditions_eq_concat (q : Query ν) (r : Resolutions) (fuzzyCapable : Bool) :
    (q.compile r fuzzyCapable).conditions = q.others r fuzzyCapable ++
      [(Piece.name (Strategy.ofQuery q fuzzyCapable) q).condition 1] := by
  rw [conditions_compile, others, List.cons_append, List.append_assoc]
  rfl

/-- Acceptance without the text, and then the text. -/
theorem accepts_iff {q : Query ν} {r : Resolutions} {fuzzyCapable : Bool} {c : Catalog}
    {n : NameRow} {credit : Option CreditRow} :
    q.Accepts r fuzzyCapable c n credit ↔
      Accepts { q with terms := [] } r fuzzyCapable c n credit ∧
        ∀ t, q.name? = some t → q.NameMatches fuzzyCapable t n.name :=
  ⟨fun h => ⟨{ h with name := nofun }, h.name⟩, fun ⟨h, hname⟩ => { h with name := hname }⟩

/-- A query that asks for kinds alone accepts a name of any of them, without a credit. -/
theorem accepts_of_has {kinds : List Kind} {fuzzy ignoreCase : Bool} {limit : Option UInt64}
    {threshold least : ν} {fuzzyCapable : Bool} {c : Catalog} {n : NameRow}
    (h : ∃ k, (kinds = [] ∨ k ∈ kinds) ∧ c.has k n.atom = true) :
    Accepts { kinds, fuzzy, ignoreCase, limit, goodThreshold := threshold, minSimilarity := least }
      {} fuzzyCapable c n none := by
  have hall : ∀ v, Range.Admits {} v := fun v => ⟨nofun, nofun⟩
  exact ⟨h, trivial, trivial, trivial, hall _, hall _, hall _, hall _, hall _, hall _, nofun, nofun,
    nofun⟩

/-- The conditions but for that on the name hold exactly when the query would accept it without its
text. -/
theorem others_hold_iff (q : Query ν) (r : Resolutions) (fuzzyCapable : Bool) (c : Catalog)
    (n : NameRow) (credit : Option CreditRow) :
    (∀ k ∈ q.others r fuzzyCapable,
        k.holds (q.compile r fuzzyCapable).params (c.joinedName n credit) = true) ↔
      Accepts { q with terms := [] } r fuzzyCapable c n credit := by
  have hpieces := Piece.conditions_hold_iff (Piece.means_ofQuery q r)
    (Piece.name (Strategy.ofQuery q fuzzyCapable) q).values (q.limit.toList.map limitValue)
    (c.joinedName n credit)
  rw [← params_eq_append, Nat.add_comm] at hpieces
  rw [others, List.forall_mem_cons, List.forall_mem_append, hpieces, holds_ofKinds_iff]
  simp only [List.forall_mem_cons, List.not_mem_nil, false_imp_iff, implies_true, and_true,
    holds_flag_iff, holds_notTv_iff, holds_notVideo_iff]
  constructor
  · rintro ⟨hkind, ⟨h1, h2, h3, h4, h5, h6, h7, h8, h9⟩, htv, hvideo⟩
    rw [Joined.column, Catalog.year?_joinedName] at h4
    exact ⟨hkind, h1, h2, h3, h4, h5, h6, h7, h8, h9, htv, hvideo, nofun⟩
  · intro h
    have hyear : q.years.Admits ((c.joinedName n credit).column .year) := by
      rw [Joined.column, Catalog.year?_joinedName]
      exact h.years
    exact ⟨h.kind, ⟨h.tvshow, h.credits, h.cast, hyear, h.rank, h.votes, h.seasons, h.episodes,
      h.billed⟩, h.noTv, h.noVideo⟩

/-- All conditions of a compiled query hold of a joined name exactly when the query accepts it. -/
theorem conditions_hold_iff (q : Query ν) (r : Resolutions) (fuzzyCapable : Bool) (c : Catalog)
    (n : NameRow) (credit : Option CreditRow) :
    (∀ k ∈ (q.compile r fuzzyCapable).conditions,
        k.holds (q.compile r fuzzyCapable).params (c.joinedName n credit) = true) ↔
      q.Accepts r fuzzyCapable c n credit := by
  -- the condition on the name comes last, but its values are the first
  have hname := Piece.means_name q fuzzyCapable []
    ((Piece.ofQuery q r).flatMap Piece.values ++ q.limit.toList.map limitValue)
    (c.joinedName n credit)
  rw [List.nil_append, ← List.append_assoc, ← params_eq_append] at hname
  rw [conditions_eq_concat, List.forall_mem_append, others_hold_iff, List.forall_mem_singleton,
    accepts_iff (q := q)]
  exact and_congr_right fun _ => hname

end Query

end Filmography
