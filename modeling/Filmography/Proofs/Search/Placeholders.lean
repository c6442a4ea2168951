import Filmography.Proofs.Search.Acceptance
import Filmography.Proofs.Search.Meaning
import Filmography.Proofs.Search.StatementText

/-!
# Each placeholder stands for its own value

The values of a query are numbered in one order and written into the text of its statement in
another: the text to search for has the first number, but the condition on the name comes last, and
if names are compared by similarity, then the number is written twice. So that every filter gets its
own value, the text may refer to those numbers only that there are, each condition must be given the
number of its value, and no number may be left out.

A condition with the values in place of the placeholders is a **demand**. A piece makes a demand
wherever its values stand among the parameters, and takes as many numbers as it has values; so the
demands of pieces that stand one after the other can be told one at a time.

* `Query.params_compile`: the parameters, told from the query;
* `Query.placeholders_compile`: the placeholders of the conditions are numbered without a gap;
* `Query.demands_compile`: what the conditions demand of a row;
* `Query.passes_compile`: all of it together, read off the text of the statement.
-/

namespace Filmography

/-! ### Demands -/

/-- A condition with the values in place of the placeholders. -/
inductive Demand (ν : Type) where
  /-- Nothing is asked. -/
  | always
  /-- No row will do. -/
  | never
  /-- The atom is in the table of one of the kinds. -/
  | ofKinds (kinds : List Kind)
  /-- A column has a value. -/
  | equal (column : Column) (value : Int)
  /-- A column has at least a value. -/
  | atLeast (column : Column) (low : Int)
  /-- A column has at most a value. -/
  | atMost (column : Column) (high : Int)
  /-- A column has a value between two. -/
  | between (column : Column) (low high : Int)
  /-- There is no movie made for TV. -/
  | notTv
  /-- There is no movie made for video. -/
  | notVideo
  /-- The name is a text. -/
  | nameIs (text : Text)
  /-- A pattern stands for the name. -/
  | nameLike (pattern : Text)
  /-- The name is similar enough to a text. -/
  | similar (text : Text) (threshold : ν)

variable {ν : Type}

/-- The values in a demand, in the order in which they are written. -/
def Demand.values : Demand ν → List (Value ν)
  | always | never | ofKinds _ | notTv | notVideo => []
  | equal _ n | atLeast _ n | atMost _ n => [.integer n]
  | between _ low high => [.integer low, .integer high]
  | nameIs t | nameLike t => [.text t]
  | similar t x => [.text t, .number x]

/-- What a condition demands, if its placeholders stand for values of the types that it needs. -/
def Condition.demand? (params : List (Value ν)) : Condition → Option (Demand ν)
  | always => some .always
  | never => some .never
  | ofKinds kinds => some (.ofKinds kinds)
  | equal column p => (Value.integer? params p).map (.equal column)
  | atLeast column p => (Value.integer? params p).map (.atLeast column)
  | atMost column p => (Value.integer? params p).map (.atMost column)
  | between column p q =>
    (Value.integer? params p).bind fun low => (Value.integer? params q).map (.between column low)
  | notTv => some .notTv
  | notVideo => some .notVideo
  | nameIs p => (Value.text? params p).map .nameIs
  | nameLike p => (Value.text? params p).map .nameLike
  | similar p q => (Value.text? params p).bind fun t => (Value.number? params q).map (.similar t)

namespace Value

variable {params : List (Value ν)} {p : Nat}

theorem lookup?_of_integer? {n : Int} (h : integer? params p = some n) :
    lookup? params p = some (.integer n) := by
  rw [integer?] at h
  split at h
  · next hlookup => rw [hlookup, Option.some.inj h]
  · cases h

theorem lookup?_of_text? {t : Text} (h : text? params p = some t) :
    lookup? params p = some (.text t) := by
  rw [text?] at h
  split at h
  · next hlookup => rw [hlookup, Option.some.inj h]
  · cases h

theorem lookup?_of_number? {x : ν} (h : number? params p = some x) :
    lookup? params p = some (.number x) := by
  rw [number?] at h
  split at h
  · next hlookup => rw [hlookup, Option.some.inj h]
  · cases h

end Value

/-- The placeholders of a condition stand for the values of its demand. -/
theorem Condition.lookup?_of_demand? {params : List (Value ν)} {k : Condition} {d : Demand ν}
    (h : k.demand? params = some d) :
    k.placeholders.map (Value.lookup? params) = d.values.map some := by
  cases k with
  | always | never | ofKinds _ | notTv | notVideo =>
    obtain rfl := Option.some.inj h
    rfl
  | equal column p | atLeast column p | atMost column p =>
    obtain ⟨n, hn, rfl⟩ := Option.map_eq_some_iff.mp h
    exact congrArg (fun v => [v]) (Value.lookup?_of_integer? hn)
  | nameIs p | nameLike p =>
    obtain ⟨t, ht, rfl⟩ := Option.map_eq_some_iff.mp h
    exact congrArg (fun v => [v]) (Value.lookup?_of_text? ht)
  | between column p q =>
    obtain ⟨low, hlow, h⟩ := Option.bind_eq_some_iff.mp h
    obtain ⟨high, hhigh, rfl⟩ := Option.map_eq_some_iff.mp h
    exact congrArg₂ (fun v w => [v, w]) (Value.lookup?_of_integer? hlow)
      (Value.lookup?_of_integer? hhigh)
  | similar p q =>
    obtain ⟨t, ht, h⟩ := Option.bind_eq_some_iff.mp h
    obtain ⟨x, hx, rfl⟩ := Option.map_eq_some_iff.mp h
    exact congrArg₂ (fun v w => [v, w]) (Value.lookup?_of_text? ht) (Value.lookup?_of_number? hx)

/-- The placeholders of conditions stand for the values of their demands. -/
theorem Condition.lookup?_placeholders {params : List (Value ν)} {ks : List Condition}
    {ds : List (Demand ν)} (h : ks.map (Condition.demand? params) = ds.map some) :
    (ks.flatMap Condition.placeholders).map (Value.lookup? params) =
      (ds.flatMap Demand.values).map some := by
  induction ks generalizing ds with
  | nil =>
    obtain rfl := List.map_eq_nil_iff.mp h.symm
    rfl
  | cons k ks ih =>
    obtain ⟨d, ds, rfl, hd, hds⟩ := List.map_eq_cons_iff.mp h.symm
    rw [List.flatMap_cons, List.map_append, List.flatMap_cons, List.map_append,
      lookup?_of_demand? hd.symm, ih hds.symm]

/-! ### What a query has for parameters, and what it demands -/

/-- The atom that a sub-query stands for. -/
def Resolution.atom? : Resolution → Option Atom
  | .resolved a => some a
  | .notRequested | .unresolved => none

/-- The bounds of a range that are there. -/
def Range.bounds (r : Range) : List UInt32 :=
  r.min.toList ++ r.max.toList

/-- What is demanded of a column by a sub-query. -/
def Demand.ofRole (column : Column) : Resolution → Demand ν
  | .notRequested => .always
  | .resolved a => .equal column a.toInt
  | .unresolved => .never

/-- What is demanded of a column by a range. -/
def Demand.ofRange (column : Column) (r : Range) : Demand ν :=
  match r.min, r.max with
  | none, none => .always
  | some a, none => .atLeast column a.toNat
  | none, some b => .atMost column b.toNat
  | some a, some b => .between column a.toNat b.toNat

namespace Query

/-- What is demanded of the name. -/
def nameDemand (q : Query ν) (fuzzyCapable : Bool) : Demand ν :=
  match q.name?, Strategy.ofQuery q fuzzyCapable with
  | none, _ => .always
  | some t, .exact => .nameIs t
  | some t, .pattern => .nameLike t
  | some t, .similarity => .similar t q.minSimilarity

/-- What is demanded of a row, in the order of the conditions. -/
def demands (q : Query ν) (r : Resolutions) (fuzzyCapable : Bool) : List (Demand ν) :=
  [.ofKinds (if q.kinds = [] then Kind.all else q.kinds), .ofRole .tvshow r.tvshow,
    .ofRole .creditMedia r.credits, .ofRole .creditActor r.cast, .ofRange .year q.years,
    .ofRange .rank q.rank, .ofRange .votes q.votes, .ofRange .season q.seasons,
    .ofRange .number q.episodes, .ofRange .position q.billed,
    if q.noTv = true then .notTv else .always, if q.noVideo = true then .notVideo else .always,
    q.nameDemand fuzzyCapable]

/-- The values of the parameters, in order: the text with the least similarity that is wanted, the
atoms, the bounds, the limit. -/
def parameters (q : Query ν) (r : Resolutions) (fuzzyCapable : Bool) : List (Value ν) :=
  q.name?.toList.map .text ++
    (if Strategy.ofQuery q fuzzyCapable = .similarity ∧ q.name?.isSome then
      [.number q.minSimilarity] else []) ++
    ([r.tvshow, r.credits, r.cast].filterMap Resolution.atom?).map (fun a => .integer a.toInt) ++
    ([q.years, q.rank, q.votes, q.seasons, q.episodes, q.billed].flatMap Range.bounds).map
      (fun n => .integer n.toNat) ++
    q.limit.toList.map limitValue

end Query

/-! ### Pieces -/

namespace Piece

/-- A piece makes a demand if its condition does, its own values being among the parameters where
its placeholders point, and if it takes one number for each value. -/
structure Makes (p : Piece ν) (d : Demand ν) : Prop where
  /-- The condition demands it, whatever the parameters before and after are. -/
  demand : ∀ before after : List (Value ν),
    (p.condition (before.length + 1)).demand? (before ++ p.values ++ after) = some d
  /-- The placeholders are numbered one after the other. -/
  placeholders : ∀ first, (p.condition first).placeholders = List.range' first p.values.length

theorem makes_role (column : Column) (res : Resolution) :
    (role column res : Piece ν).Makes (.ofRole column res) := by
  cases res with
  | notRequested => exact ⟨fun _ _ => rfl, fun _ => rfl⟩
  | unresolved => exact ⟨fun _ _ => rfl, fun _ => rfl⟩
  | resolved a =>
    refine ⟨fun before after => ?_, fun _ => rfl⟩
    simp [role, Condition.demand?, Value.integer?, Demand.ofRole]

theorem makes_range (column : Column) (r : Range) :
    (range column r : Piece ν).Makes (.ofRange column r) := by
  obtain ⟨_ | a, _ | b⟩ := r
  · exact ⟨fun _ _ => rfl, fun _ => rfl⟩
  · refine ⟨fun before after => ?_, fun _ => rfl⟩
    simp [range, bound, Condition.demand?, Value.integer?, Demand.ofRange]
  · refine ⟨fun before after => ?_, fun _ => rfl⟩
    simp [range, bound, Condition.demand?, Value.integer?, Demand.ofRange]
  · refine ⟨fun before after => ?_, fun _ => rfl⟩
    simp [range, bound, Condition.demand?, Value.integer?, Demand.ofRange]

theorem makes_name (q : Query ν) (fuzzyCapable : Bool) :
    (name (Strategy.ofQuery q fuzzyCapable) q).Makes (q.nameDemand fuzzyCapable) := by
  rw [name, Query.nameDemand]
  rcases q.name? with _ | t
  · exact ⟨fun _ _ => rfl, fun _ => rfl⟩
  · cases Strategy.ofQuery q fuzzyCapable with
    | exact =>
      refine ⟨fun before after => ?_, fun _ => rfl⟩
      simp [Condition.demand?, Value.text?]
    | pattern =>
      refine ⟨fun before after => ?_, fun _ => rfl⟩
      simp [Condition.demand?, Value.text?]
    | similarity =>
      refine ⟨fun before after => ?_, fun _ => rfl⟩
      simp [Condition.demand?, Value.text?, Value.number?]

/-- The demands of the roles and ranges of a query. -/
theorem makes_ofQuery (q : Query ν) (r : Resolutions) :
    List.Forall₂ Makes (ofQuery q r)
      [.ofRole .tvshow r.tvshow, .ofRole .creditMedia r.credits, .ofRole .creditActor r.cast,
        .ofRange .year q.years, .ofRange .rank q.rank, .ofRange .votes q.votes,
        .ofRange .season q.seasons, .ofRange .number q.episodes, .ofRange .position q.billed] :=
  .cons (makes_role _ _) <| .cons (makes_role _ _) <| .cons (makes_role _ _) <|
    .cons (makes_range _ _) <| .cons (makes_range _ _) <| .cons (makes_range _ _) <|
    .cons (makes_range _ _) <| .cons (makes_range _ _) <| .cons (makes_range _ _) .nil

/-- Pieces that stand one after the other make their demands each. -/
theorem demands_conditions {ps : List (Piece ν)} {ds : List (Demand ν)}
    (h : List.Forall₂ Makes ps ds) (before after : List (Value ν)) :
    (conditions (before.length + 1) ps).map
      (Condition.demand? (before ++ ps.flatMap values ++ after)) = ds.map some := by
  induction h generalizing before with
  | nil => rfl
  | @cons p d ps ds hp _ ih =>
    have hlen : before.length + 1 + p.values.length = (before ++ p.values).length + 1 := by
      rw [List.length_append]
      omega
    have hrest : before ++ (p :: ps).flatMap values ++ after =
        before ++ p.values ++ ps.flatMap values ++ after := by
      rw [List.flatMap_cons, ← List.append_assoc before]
    have hhead := hp.demand before (ps.flatMap values ++ after)
    rw [← List.append_assoc] at hhead
    rw [conditions, List.map_cons, List.map_cons, hrest, hhead, hlen, ih (before ++ p.values)]

/-- Pieces that stand one after the other take one number after the other. -/
theorem placeholders_conditions {ps : List (Piece ν)} {ds : List (Demand ν)}
    (h : List.Forall₂ Makes ps ds) (first : Nat) :
    (conditions first ps).flatMap Condition.placeholders =
      List.range' first (ps.flatMap values).length := by
  induction h generalizing first with
  | nil => rfl
  | @cons p d ps ds hp _ ih =>
    rw [conditions, List.flatMap_cons, hp.placeholders, ih, List.range'_append_1,
      List.flatMap_cons, List.length_append]

/-- The condition for a role is on its column. -/
theorem column?_role (column : Column) (res : Resolution) (i : Nat) :
    ∀ c ∈ ((role column res : Piece ν).condition i).column?, c = column := by
  cases res with
  | notRequested => exact nofun
  | unresolved => exact nofun
  | resolved a => exact fun c hc => (Option.some.inj hc).symm

/-- The condition for a range is on its column. -/
theorem column?_range (column : Column) (r : Range) (i : Nat) :
    ∀ c ∈ ((range column r : Piece ν).condition i).column?, c = column := by
  obtain ⟨_ | a, _ | b⟩ := r
  · exact nofun
  · exact fun c hc => (Option.some.inj hc).symm
  · exact fun c hc => (Option.some.inj hc).symm
  · exact fun c hc => (Option.some.inj hc).symm

/-! ### Values -/

theorem values_role (column : Column) (res : Resolution) :
    (role column res : Piece ν).values = res.atom?.toList.map fun a => .integer a.toInt := by
  cases res <;> rfl

theorem values_range (column : Column) (r : Range) :
    (range column r : Piece ν).values = r.bounds.map fun n => .integer n.toNat := by
  obtain ⟨_ | a, _ | b⟩ := r <;> rfl

theorem values_name (q : Query ν) (strategy : Strategy) :
    (name strategy q).values = q.name?.toList.map .text ++
      if strategy = .similarity ∧ q.name?.isSome then [.number q.minSimilarity] else [] := by
  rw [name]
  rcases q.name? with _ | t
  · simp
  · cases strategy <;> rfl

theorem values_ofQuery (q : Query ν) (r : Resolutions) : (ofQuery q r).flatMap values =
    ([r.tvshow, r.credits, r.cast].filterMap Resolution.atom?).map (fun a => .integer a.toInt) ++
      ([q.years, q.rank, q.votes, q.seasons, q.episodes, q.billed].flatMap Range.bounds).map
        (fun n => .integer n.toNat) := by
  simp only [ofQuery, List.flatMap_cons, List.flatMap_nil, values_role, values_range,
    List.filterMap_eq_flatMap_toList, List.map_append, List.append_assoc, List.append_nil]

end Piece

/-! ### Statements -/

namespace Query

/-- The limit comes last. -/
theorem limit_eq_map (q : Query ν) (r : Resolutions) (fuzzyCapable : Bool) :
    (q.compile r fuzzyCapable).limit = q.limit.map fun _ =>
      ((Piece.name (Strategy.ofQuery q fuzzyCapable) q).values ++
        (Piece.ofQuery q r).flatMap Piece.values).length + 1 :=
  rfl

/-- The parameters of a compiled query are told from the query. -/
theorem params_compile (q : Query ν) (r : Resolutions) (fuzzyCapable : Bool) :
    (q.compile r fuzzyCapable).params = q.parameters r fuzzyCapable := by
  rw [params_eq_append, Piece.values_name, Piece.values_ofQuery, parameters, ← List.append_assoc]

/-- The conditions of a compiled query demand what the query does. -/
theorem demands_compile (q : Query ν) (r : Resolutions) (fuzzyCapable : Bool) :
    (q.compile r fuzzyCapable).conditions.map
      (Condition.demand? (q.compile r fuzzyCapable).params) =
        (q.demands r fuzzyCapable).map some := by
  -- the condition on the name comes last, but its values are the first
  have hname := (Piece.makes_name q fuzzyCapable).demand []
    ((Piece.ofQuery q r).flatMap Piece.values ++ q.limit.toList.map limitValue)
  have hpieces := Piece.demands_conditions (Piece.makes_ofQuery q r)
    (Piece.name (Strategy.ofQuery q fuzzyCapable) q).values (q.limit.toList.map limitValue)
  rw [List.nil_append, ← List.append_assoc, ← params_eq_append] at hname
  rw [← params_eq_append, Nat.add_comm] at hpieces
  have hlast : [if q.noTv = true then .notTv else .always,
        if q.noVideo = true then .notVideo else .always,
        (Piece.name (Strategy.ofQuery q fuzzyCapable) q).condition 1].map
      (Condition.demand? (q.compile r fuzzyCapable).params) =
        [if q.noTv = true then .notTv else .always, if q.noVideo = true then .notVideo else .always,
          q.nameDemand fuzzyCapable].map some := by
    rw [List.map_cons, List.map_cons, List.map_singleton, apply_ite (Condition.demand? _),
      apply_ite (Condition.demand? _), List.map_cons, List.map_cons, List.map_singleton,
      apply_ite some, apply_ite some]
    exact congrArg (fun d => [_, _, d]) hname
  rw [conditions_compile, List.map_cons, List.map_append, hpieces, hlast]
  rfl

/-- The conditions of a compiled query take the numbers of all values but the limit: first those for
the roles and the ranges, then those for the name. -/
theorem placeholders_compile (q : Query ν) (r : Resolutions) (fuzzyCapable : Bool) :
    (q.compile r fuzzyCapable).conditions.flatMap Condition.placeholders =
      List.range' (1 + (Piece.name (Strategy.ofQuery q fuzzyCapable) q).values.length)
          ((Piece.ofQuery q r).flatMap Piece.values).length ++
        List.range' 1 (Piece.name (Strategy.ofQuery q fuzzyCapable) q).values.length := by
  have htv : (if q.noTv = true then Condition.notTv else .always).placeholders = [] := by
    split <;> rfl
  have hvideo : (if q.noVideo = true then Condition.notVideo else .always).placeholders = [] := by
    split <;> rfl
  rw [conditions_compile, List.flatMap_cons, List.flatMap_append,
    Piece.placeholders_conditions (Piece.makes_ofQuery q r), List.flatMap_cons, List.flatMap_cons,
    List.flatMap_singleton, htv, hvideo, (Piece.makes_name q fuzzyCapable).placeholders]
  rfl

/-- The text and the least similarity have the first two numbers but come last, after the years. -/
example :
    let q : Query Nat :=
      { terms := ["Heat".toList], years := .between 1990 2000, limit := some 5
        goodThreshold := 0, minSimilarity := 0 }
    let s := q.compile {} true
    s.conditions.flatMap Condition.placeholders = [3, 4, 1, 2] ∧ s.limit = some 5 :=
  ⟨rfl, rfl⟩

/-- Names are compared with the first value, which is there if they are compared. -/
theorem measured_compile (q : Query ν) (r : Resolutions) (fuzzyCapable : Bool) :
    (q.measured? fuzzyCapable = none ∧ (q.compile r fuzzyCapable).measured = none) ∨
      ∃ t values, q.measured? fuzzyCapable = some t ∧
        (q.compile r fuzzyCapable).measured = some 1 ∧
        (Piece.name (Strategy.ofQuery q fuzzyCapable) q).values = .text t :: values := by
  have hmeasured : (q.compile r fuzzyCapable).measured =
      if Strategy.ofQuery q fuzzyCapable = .similarity ∧ q.terms ≠ [] then some 1 else none := rfl
  have hstrategy : Strategy.ofQuery q fuzzyCapable = .similarity ↔
      q.fuzzy = true ∧ fuzzyCapable = true := Strategy.ofQuery_eq_similarity_iff
  rw [hmeasured, measured?]
  by_cases hf : q.fuzzy = true ∧ fuzzyCapable = true
  · rw [if_pos hf]
    rcases hname : q.name? with _ | t
    · have hterms : q.terms = [] := name?_eq_none_iff.mp hname
      exact .inl ⟨rfl, if_neg fun h => h.2 hterms⟩
    · have hterms : q.terms ≠ [] := by
        rw [Ne, ← name?_eq_none_iff, hname]
        exact Option.some_ne_none t
      refine .inr ⟨t, [.number q.minSimilarity], rfl, if_pos ⟨hstrategy.mpr hf, hterms⟩, ?_⟩
      rw [hstrategy.mpr hf, Piece.name, hname]
  · exact .inl ⟨if_neg hf, if_neg fun h => hf (hstrategy.mp h.1)⟩

theorem length_params_compile (q : Query ν) (r : Resolutions) (fuzzyCapable : Bool) :
    (q.compile r fuzzyCapable).params.length =
      (Piece.name (Strategy.ofQuery q fuzzyCapable) q).values.length +
        ((Piece.ofQuery q r).flatMap Piece.values).length + q.limit.toList.length := by
  rw [params_eq_append, List.length_append, List.length_append, List.length_map]

/-- The limit takes the number after all others, if there is one. -/
theorem toList_limit_compile (q : Query ν) (r : Resolutions) (fuzzyCapable : Bool) :
    (q.compile r fuzzyCapable).limit.toList =
      List.range' ((Piece.name (Strategy.ofQuery q fuzzyCapable) q).values.length +
        ((Piece.ofQuery q r).flatMap Piece.values).length + 1) q.limit.toList.length := by
  rw [limit_eq_map, List.length_append]
  rcases q.limit with _ | n
  · rfl
  · rfl

/-- The text of a compiled query refers to the parameters that there are, and to no other. -/
theorem mem_references_compile (q : Query ν) (r : Resolutions) (fuzzyCapable : Bool) (t : Text) :
    t ∈ (q.compile r fuzzyCapable).text.references ↔
      ∃ p, 1 ≤ p ∧ p ≤ (q.compile r fuzzyCapable).params.length ∧ t = Text.ofNat p := by
  have hmeasured : ∀ p ∈ (q.compile r fuzzyCapable).measured.toList,
      1 ≤ p ∧ p ≤ (Piece.name (Strategy.ofQuery q fuzzyCapable) q).values.length := by
    obtain ⟨-, h⟩ | ⟨t, values, -, h, hvalues⟩ := measured_compile q r fuzzyCapable
    · rw [h]
      rintro p ⟨⟩
    · rw [h, hvalues]
      rintro p hp
      obtain rfl := List.mem_singleton.mp hp
      exact ⟨Nat.le_refl 1, Nat.succ_le_succ (Nat.zero_le _)⟩
  -- the number of the measured text is written a second time in the condition on the name
  have hnumbers (p : Nat) : p ∈ (q.compile r fuzzyCapable).measured.toList ++
      (q.compile r fuzzyCapable).conditions.flatMap Condition.placeholders ++
        (q.compile r fuzzyCapable).limit.toList ↔
      1 ≤ p ∧ p ≤ (q.compile r fuzzyCapable).params.length := by
    rw [placeholders_compile, toList_limit_compile, length_params_compile, List.mem_append,
      List.mem_append, List.mem_append, List.mem_range'_1, List.mem_range'_1, List.mem_range'_1]
    constructor
    · rintro ((hp | hp | hp) | hp)
      · have := hmeasured p hp
        omega
      · omega
      · omega
      · omega
    · intro hp
      omega
  rw [Statement.references_text, List.mem_map]
  constructor
  · rintro ⟨p, hp, rfl⟩
    obtain ⟨hone, hle⟩ := (hnumbers p).mp hp
    exact ⟨p, hone, hle, rfl⟩
  · rintro ⟨p, hone, hle, rfl⟩
    exact ⟨p, (hnumbers p).mpr ⟨hone, hle⟩, rfl⟩

/-- Where credits are not joined, no condition is on an end of a credit. -/
theorem column_of_join_eq_none {q : Query ν} {r : Resolutions} (hjoin : r.join = none)
    (fuzzyCapable : Bool) : ∀ k ∈ (q.compile r fuzzyCapable).conditions, ∀ column ∈ k.column?,
      column ≠ .creditMedia ∧ column ≠ .creditActor := by
  obtain ⟨hcast, hcredits⟩ : r.cast = .notRequested ∧ r.credits = .notRequested := by
    rw [Resolutions.join] at hjoin
    split at hjoin
    · cases hjoin
    · next hcast =>
      split at hjoin
      · cases hjoin
      · next hcredits => exact ⟨not_not.mp hcast, not_not.mp hcredits⟩
  have hother {column : Column} (hcolumn : column ≠ .creditMedia ∧ column ≠ .creditActor)
      {k : Condition} (hk : ∀ c ∈ k.column?, c = column) :
      ∀ c ∈ k.column?, c ≠ .creditMedia ∧ c ≠ .creditActor := by
    intro c hc
    rw [hk c hc]
    exact hcolumn
  have hnone {k : Condition} (hk : k.column? = none) :
      ∀ c ∈ k.column?, c ≠ .creditMedia ∧ c ≠ .creditActor := by
    rw [hk]
    rintro c ⟨⟩
  have hrange (column : Column) (hcolumn : column ≠ .creditMedia ∧ column ≠ .creditActor)
      (range : Range) (i : Nat) := hother hcolumn (Piece.column?_range (ν := ν) column range i)
  rw [conditions_compile, List.forall_mem_cons, List.forall_mem_append]
  refine ⟨hnone rfl, Piece.forall_mem_conditions ?_ _, ?_⟩
  · -- without a join there is neither a sub-query for media nor one for an actor
    rw [Piece.ofQuery, hcast, hcredits]
    simp only [List.forall_mem_cons]
    exact ⟨fun i => hother (by decide) (Piece.column?_role _ _ i), fun _ => hnone rfl,
      fun _ => hnone rfl, hrange _ (by decide) _, hrange _ (by decide) _, hrange _ (by decide) _,
      hrange _ (by decide) _, hrange _ (by decide) _, hrange _ (by decide) _,
      List.forall_mem_nil _⟩
  · simp only [List.forall_mem_cons]
    refine ⟨hnone ?_, hnone ?_, hnone ?_, List.forall_mem_nil _⟩
    · split <;> rfl
    · split <;> rfl
    · rw [Piece.name]
      split
      · rfl
      · split <;> rfl

/-- The text to compare with is the value of its placeholder. -/
theorem lookup?_measured (q : Query ν) (r : Resolutions) (fuzzyCapable : Bool) :
    (q.compile r fuzzyCapable).measured.toList.map
      (Value.lookup? (q.compile r fuzzyCapable).params) =
        ((q.measured? fuzzyCapable).toList.map fun t => (.text t : Value ν)).map some := by
  obtain ⟨hnone, h⟩ | ⟨t, values, hsome, h, hvalues⟩ := measured_compile q r fuzzyCapable
  · rw [h, hnone]
    rfl
  · rw [h, hsome, params_eq_append, hvalues]
    rfl

/-- The limit is the value of its placeholder. -/
theorem lookup?_limit (q : Query ν) (r : Resolutions) (fuzzyCapable : Bool) :
    (q.compile r fuzzyCapable).limit.toList.map
      (Value.lookup? (q.compile r fuzzyCapable).params) =
        (q.limit.toList.map (limitValue (ν := ν))).map some := by
  rw [params_eq_append, limit_eq_map]
  rcases q.limit with _ | n
  · rfl
  · exact congrArg (fun v => [v]) (Value.lookup?_append_cons _ _ [])

/-- A statement passes the values of a query, so that each filter gets its own. -/
structure Passes (q : Query ν) (r : Resolutions) (fuzzyCapable : Bool) (s : Statement ν) :
    Prop where
  /-- The parameters are the text, the least similarity, the atoms, the bounds and the limit. -/
  params : s.params = q.parameters r fuzzyCapable
  /-- The text refers to the parameters that there are, all of them and no other. -/
  references : ∀ t, t ∈ s.text.references ↔
    ∃ p, 1 ≤ p ∧ p ≤ (q.parameters r fuzzyCapable).length ∧ t = Text.ofNat p
  /-- With the values for their placeholders, the conditions are the demands of the query. -/
  conditions : s.conditions.map (Condition.demand? s.params) = (q.demands r fuzzyCapable).map some
  /-- Each condition is written with its placeholders. -/
  written : ∀ k ∈ s.conditions, (k.text s.join).references = k.placeholders.map Text.ofNat
  /-- From left to right, the text refers to the text to compare with, to the values that are
  demanded, and to the limit. -/
  read : ∃ ps : List Nat, s.text.references = ps.map Text.ofNat ∧
    ps.map (Value.lookup? s.params) =
      (((q.measured? fuzzyCapable).toList.map fun t => (.text t : Value ν)) ++
        (q.demands r fuzzyCapable).flatMap Demand.values ++ q.limit.toList.map limitValue).map some
  /-- Credits are joined once if an actor or media are sought, and otherwise not. -/
  joined : Text.occurrences "JOIN credit c ON ".toList s.text = if r.join.isSome then 1 else 0
  /-- The text names the credits only where it joins them. -/
  named : "c.".toList <:+: s.text → "JOIN credit c ON ".toList <:+: s.text

/-- **Parameters and placeholders match.** Whatever a query is and whatever has become of its
sub-queries, its statement has the values of the query for parameters, refers to each of them and to
nothing beyond, and gives each condition its own; credits are named only where they are joined. -/
theorem passes_compile (q : Query ν) (r : Resolutions) (fuzzyCapable : Bool) :
    q.Passes r fuzzyCapable (q.compile r fuzzyCapable) := by
  have hjoined := (q.compile r fuzzyCapable).occurrences_join_text
  refine ⟨params_compile q r fuzzyCapable, fun t => ?_, demands_compile q r fuzzyCapable,
    fun k _ => k.references_text _, ?_, hjoined, ?_⟩
  · rw [← params_compile]
    exact mem_references_compile q r fuzzyCapable t
  · refine ⟨_, Statement.references_text _, ?_⟩
    rw [List.map_append, List.map_append, List.map_append, List.map_append, lookup?_measured,
      lookup?_limit, Condition.lookup?_placeholders (demands_compile q r fuzzyCapable)]
  · intro hnamed
    rw [← Text.occurrences_pos_iff] at hnamed ⊢
    rcases hjoin : r.join with _ | e
    · rw [Statement.occurrences_alias_text hjoin (column_of_join_eq_none hjoin fuzzyCapable)]
        at hnamed
      exact absurd hnamed (Nat.lt_irrefl 0)
    · have hsome : (q.compile r fuzzyCapable).join = some e := hjoin
      rw [hjoined, hsome]
      exact Nat.one_pos

end Query

end Filmography
