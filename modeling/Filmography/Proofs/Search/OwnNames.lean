import Filmography.Proofs.Search.Picks
import Filmography.Proofs.Search.Ranking
import Filmography.Proofs.Search.Similarity

/-!
# Searching for a name

An entity is sought by its own name. What the name is compared with is then the name itself, so it
is found whatever characters it is made of: it is equal to itself, a pattern matches itself, because
a wildcard stands for itself among others, and it is as similar to itself as can be, if it has an
alphanumeric character. A name without any is similar to no name, and a pattern can be too long.

* `Pattern.denotes_self`: a pattern matches itself;
* `Query.exists_hit_of_accepts`: what an unlimited query accepts is among its hits;
* `Query.FindsItself`: what a search for a name comes to;
* `Query.findsItself_text`: the search for the name of any entity.
-/

namespace Filmography

/-- A pattern stands for itself as a text. -/
theorem Pattern.denotes_self (p : Text) : Denotes p p := by
  induction p with
  | nil => exact .nil
  | cons c p ih =>
    by_cases hany : c = '%'
    · subst hany
      exact .any ['%'] ih
    · by_cases hone : c = '_'
      · subst hone
        exact .one '_' ih
      · exact .same hany hone (beq_self_eq_true _) ih

namespace Query

variable {ν : Type} [Score ν]

/-! ### Searches without sub-queries -/

/-- A search without sub-queries asks nothing and comes to the hits of the query. -/
theorem unattended_search_of_subs_eq_nil {s : Store ν} {q : Query ν} (hq : q.subs = []) :
    (q.search s).unattended = (q.compile {} s.fuzzy).hits s.engine s.catalog := by
  rw [unattended_search, prepare, prepareWithin_of_subs_eq_nil hq]
  rfl

/-- Without a limit, what a query accepts is among its hits. -/
theorem exists_hit_of_accepts {q : Query ν} {r : Resolutions} {fuzzyCapable : Bool}
    {engine : Engine ν} {c : Catalog} (hlimit : q.limit = none) {n : NameRow}
    {credit : Option CreditRow} (hn : n ∈ c.names.rows) (hjoins : r.Joins c n credit)
    (haccepts : q.Accepts r fuzzyCapable c n credit) {hits : List (Hit ν)}
    (h : (q.compile r fuzzyCapable).hits engine c = .ok hits) :
    ∃ hit ∈ hits, hit.Describes c (q.measured? fuzzyCapable) n credit := by
  obtain ⟨accepted, returned, hranks, hdecoded⟩ := exists_decoded_of_hits h
  have hunlimited : ∀ m, q.limit = some m → ¬m.toNat < 2 ^ 63 := by
    rw [hlimit]
    nofun
  have hmem : (n, credit) ∈ returned :=
    hranks.unlimited hunlimited ((hranks.mem_accepted n credit).mpr ⟨hn, hjoins, haccepts⟩)
  obtain ⟨hit, hhit, -, hdescribes⟩ := exists_of_mem_forall₂ hdecoded hmem
  exact ⟨hit, hhit, hdescribes⟩

/-- Whatever a catalogue holds, a query finds its hits. -/
theorem finds_of_mem_hits {q : Query ν} {r : Resolutions} {fuzzyCapable : Bool} {engine : Engine ν}
    {c : Catalog} {hits : List (Hit ν)} (h : (q.compile r fuzzyCapable).hits engine c = .ok hits) :
    ∀ hit ∈ hits, q.Finds r fuzzyCapable c hit := by
  obtain ⟨accepted, returned, hranks, hdecoded⟩ := exists_decoded_of_hits h
  have hfinds : List.Forall₂ (fun _ hit => q.Finds r fuzzyCapable c hit) returned hits := by
    rw [List.forall₂_iff_zip] at hdecoded ⊢
    refine ⟨hdecoded.1, fun {p hit} hmem => ?_⟩
    obtain ⟨hn, hjoins, haccepts⟩ := (hranks.mem_accepted p.1 p.2).mp
      (hranks.subset (List.of_mem_zip hmem).1)
    exact ⟨p.1, hn, p.2, hjoins, haccepts, (hdecoded.2 hmem).2⟩
  exact forall_mem_of_forall₂ hfinds

/-! ### Names as queries -/

/-- The query for a name with the given thresholds. The name is the only term, and there is no
limit. -/
def named (threshold least : ν) (name : Text) : Query ν :=
  { terms := [name], fuzzy := !Criteria.isPattern name, limit := none
    goodThreshold := threshold, minSimilarity := least }

variable {threshold least : ν} {name : Text}

omit [Score ν] in
theorem name?_named : (named threshold least name).name? = some name :=
  congrArg some (List.append_nil _)

omit [Score ν] in
theorem hasWildcard_named :
    (named threshold least name).hasWildcard = Criteria.isPattern name :=
  Bool.or_false _

omit [Score ν] in
/-- A pattern is not compared by similarity, whatever the store can do. -/
theorem strategy_named (fuzzyCapable : Bool) :
    Strategy.ofQuery (named threshold least name) fuzzyCapable =
      if Criteria.isPattern name = true then .pattern
      else if fuzzyCapable = true then .similarity else .exact := by
  have hfuzzy : (named threshold least name).fuzzy = !Criteria.isPattern name := rfl
  have hcase : (named threshold least name).ignoreCase = false := rfl
  rw [Strategy.ofQuery, hasWildcard_named, hfuzzy, hcase]
  cases Criteria.isPattern name <;> cases fuzzyCapable <;> rfl

omit [Score ν] in
/-- The query for a name is refused exactly if the name is a pattern and too long for one. -/
theorem overlong_named_iff {fuzzyCapable : Bool} :
    (named threshold least name).Overlong fuzzyCapable ↔
      Criteria.isPattern name = true ∧ 50000 < Utf8.size name := by
  have hfuzzy : (named threshold least name).fuzzy = !Criteria.isPattern name := rfl
  have hcase : (named threshold least name).ignoreCase = false := rfl
  rw [Overlong, hasWildcard_named, hfuzzy, hcase, name?_named]
  cases Criteria.isPattern name <;> simp

/-- The query for a name accepts the name of an entity if it matches. -/
theorem accepts_named {fuzzyCapable : Bool} {c : Catalog} {n : NameRow}
    (hkind : ∃ k, c.has k n.atom = true)
    (hmatches : (named threshold least name).NameMatches fuzzyCapable name n.name) :
    (named threshold least name).Accepts {} fuzzyCapable c n none := by
  obtain ⟨k, hk⟩ := hkind
  refine accepts_iff.mpr ⟨accepts_of_has ⟨k, .inl rfl, hk⟩, fun t ht => ?_⟩
  rw [name?_named] at ht
  exact Option.some.inj ht ▸ hmatches

/-- A name matches itself, unless it is compared by similarity and has no alphanumeric character. -/
theorem nameMatches_named_self {fuzzyCapable : Bool}
    (hone : Score.reaches (Score.ofRatio 1) least = true)
    (h : Criteria.isPattern name = true ∨ fuzzyCapable = false ∨
      ∃ c ∈ name, Text.isAlphanumeric c = true) :
    (named threshold least name).NameMatches fuzzyCapable name name := by
  rw [NameMatches]
  split
  · next hfuzzy =>
    have hplain : Criteria.isPattern name = false := by
      simpa [named] using hfuzzy.1
    rw [hplain, hfuzzy.2] at h
    rw [similarity_self ((h.resolve_left (by decide)).resolve_left (by decide))]
    exact hone
  · split
    · exact Pattern.denotes_self _
    · rfl

/-! ### What a search for a name comes to -/

/-- What the search for the name of an entity comes to. -/
structure FindsItself (q : Query ν) (s : Store ν) (n : NameRow) : Prop where
  /-- A pattern that is too long is refused. -/
  refused : Criteria.isPattern n.name = true → 50000 < Utf8.size n.name →
    (q.search s).unattended = .error (.database .patternTooLong)
  /-- Otherwise there are hits, or none, but no error. -/
  answered : s.catalog.InBounds → ¬(Criteria.isPattern n.name = true ∧ 50000 < Utf8.size n.name) →
    ∃ hits, (q.search s).unattended = .ok hits
  /-- A name without wildcards is compared exactly where names cannot be compared by similarity, and
  the entity is found. -/
  exact : Criteria.isPattern n.name = false → s.fuzzy = false →
    Strategy.ofQuery q s.fuzzy = .exact ∧
      ∀ hits, (q.search s).unattended = .ok hits → ∃ hit ∈ hits, hit.id.toInt = n.atom
  /-- A name with wildcards is a pattern, and the entity is found. -/
  pattern : Criteria.isPattern n.name = true →
    Strategy.ofQuery q s.fuzzy = .pattern ∧
      ∀ hits, (q.search s).unattended = .ok hits → ∃ hit ∈ hits, hit.id.toInt = n.atom
  /-- A name without wildcards is otherwise compared by similarity. With an alphanumeric character
  the entity is found, its similarity is one, and no hit has a greater one. -/
  similar : Criteria.isPattern n.name = false → s.fuzzy = true →
    (∃ c ∈ n.name, Text.isAlphanumeric c = true) →
    Strategy.ofQuery q s.fuzzy = .similarity ∧
      ∀ hits, (q.search s).unattended = .ok hits →
        ∃ hit ∈ hits, hit.id.toInt = n.atom ∧ hit.similarity = Score.ofRatio 1 ∧
          ∀ hit' ∈ hits, ∃ ratio ≤ 1, hit'.similarity = Score.ofRatio ratio
  /-- Without one nothing is found. -/
  missed : Criteria.isPattern n.name = false → s.fuzzy = true →
    (∀ c ∈ n.name, Text.isAlphanumeric c = false) →
    ∀ hits, (q.search s).unattended = .ok hits → hits = []

section

variable {s : Store ν} {n : NameRow}

/-- The hits of a search for a name, where it is refused and where it is not. -/
theorem answered_named (hn : n ∈ s.catalog.names.rows)
    (hkind : ∃ k, s.catalog.has k n.atom = true) :
    (Criteria.isPattern n.name = true ∧ 50000 < Utf8.size n.name →
      ((named threshold least n.name).search s).unattended = .error (.database .patternTooLong)) ∧
    (s.catalog.InBounds → ¬(Criteria.isPattern n.name = true ∧ 50000 < Utf8.size n.name) →
      ∃ hits, ((named threshold least n.name).search s).unattended = .ok hits) := by
  have hsubs : (named threshold least n.name).subs = [] := rfl
  rw [unattended_search_of_subs_eq_nil hsubs, ← overlong_named_iff]
  constructor
  · obtain ⟨k, hk⟩ := hkind
    have hjoins : Resolutions.Joins {} s.catalog n none := ⟨rfl, rfl⟩
    exact fun hlong => hits_compile_of_overlong (not_crowded_of_sorts_eq_nil rfl) rfl hlong hn
      hjoins (accepts_of_has ⟨k, .inl rfl, hk⟩)
  · intro hbounds hshort
    have haccepted : ((named threshold least n.name).compile {} s.fuzzy).fault? s.engine s.catalog =
        none := fault?_eq_none fun
      | _, .terms hcrowded => not_crowded_of_sorts_eq_nil rfl hcrowded
      | _, .pattern hlong => hshort hlong
    obtain ⟨hits, hhits, -⟩ := exists_hits_compile hbounds haccepted
    exact ⟨hits, hhits⟩

/-- An entity whose name matches itself is among the hits. -/
theorem exists_hit_named (hn : n ∈ s.catalog.names.rows)
    (hkind : ∃ k, s.catalog.has k n.atom = true)
    (hone : Score.reaches (Score.ofRatio 1) least = true)
    (h : Criteria.isPattern n.name = true ∨ s.fuzzy = false ∨
      ∃ c ∈ n.name, Text.isAlphanumeric c = true) {hits : List (Hit ν)}
    (hhits : ((named threshold least n.name).search s).unattended = .ok hits) :
    ∃ hit ∈ hits, hit.Describes s.catalog ((named threshold least n.name).measured? s.fuzzy) n
      none := by
  rw [unattended_search_of_subs_eq_nil rfl] at hhits
  have hjoins : Resolutions.Joins {} s.catalog n none := ⟨rfl, rfl⟩
  exact exists_hit_of_accepts rfl hn hjoins (accepts_named hkind (nameMatches_named_self hone h))
    hhits

/-- Where names are compared by similarity, a hit carries that of its name, and it is no less than
the least one. -/
theorem exists_similarity_named (hplain : Criteria.isPattern n.name = false)
    (hfuzzy : s.fuzzy = true) {hits : List (Hit ν)}
    (hhits : ((named threshold least n.name).search s).unattended = .ok hits) {hit : Hit ν}
    (hmem : hit ∈ hits) : hit.similarity = Score.ofRatio (similarity hit.name n.name) ∧
      Score.reaches (Score.ofRatio (similarity hit.name n.name)) least = true := by
  rw [unattended_search_of_subs_eq_nil rfl] at hhits
  obtain ⟨n', -, credit, -, haccepts, hdescribes⟩ := finds_of_mem_hits hhits hit hmem
  have hboth : (named threshold least n.name).fuzzy = true ∧ s.fuzzy = true := by
    simpa [named, hplain] using hfuzzy
  have hmatches := haccepts.name n.name name?_named
  rw [NameMatches, if_pos hboth, ← hdescribes.name] at hmatches
  refine ⟨?_, hmatches⟩
  rw [hdescribes.similarity, measured?, if_pos hboth, name?_named, hdescribes.name]

end

/-- The query for the name of an entity finds it, for any least similarity above zero and not above
one. -/
theorem findsItself_named (hone : Score.reaches (Score.ofRatio 1) least = true)
    (hzero : Score.reaches (Score.ofRatio 0) least = false) {s : Store ν} {n : NameRow}
    (hn : n ∈ s.catalog.names.rows) (hkind : ∃ k, s.catalog.has k n.atom = true) :
    (named threshold least n.name).FindsItself s n where
  refused := fun hpattern hlong => (answered_named hn hkind).1 ⟨hpattern, hlong⟩
  answered := (answered_named hn hkind).2
  exact := by
    intro hplain hfuzzy
    refine ⟨by rw [strategy_named, hplain, hfuzzy]; rfl, fun hits hhits => ?_⟩
    obtain ⟨hit, hhit, hdescribes⟩ := exists_hit_named hn hkind hone (.inr (.inl hfuzzy)) hhits
    exact ⟨hit, hhit, hdescribes.id⟩
  pattern := by
    intro hpattern
    refine ⟨by rw [strategy_named, if_pos hpattern], fun hits hhits => ?_⟩
    obtain ⟨hit, hhit, hdescribes⟩ := exists_hit_named hn hkind hone (.inl hpattern) hhits
    exact ⟨hit, hhit, hdescribes.id⟩
  similar := by
    intro hplain hfuzzy halphanumeric
    refine ⟨by rw [strategy_named, hplain, hfuzzy]; rfl, fun hits hhits => ?_⟩
    obtain ⟨hit, hhit, hdescribes⟩ :=
      exists_hit_named hn hkind hone (.inr (.inr halphanumeric)) hhits
    refine ⟨hit, hhit, hdescribes.id, ?_, fun hit' hhit' => ?_⟩
    · rw [(exists_similarity_named hplain hfuzzy hhits hhit).1, hdescribes.name,
        similarity_self halphanumeric]
    · exact ⟨_, similarity_le_one _ _, (exists_similarity_named hplain hfuzzy hhits hhit').1⟩
  missed := by
    intro hplain hfuzzy hnone hits hhits
    refine List.eq_nil_iff_forall_not_mem.mpr fun hit hhit => ?_
    have hreaches := (exists_similarity_named hplain hfuzzy hhits hhit).2
    rw [similarity_comm, similarity_of_forall hnone, hzero] at hreaches
    cases hreaches

/-- The default least similarity is one of these. -/
theorem findsItself_of_default {s : Store} {n : NameRow} (hn : n ∈ s.catalog.names.rows)
    (hkind : ∃ k, s.catalog.has k n.atom = true) :
    FindsItself { empty.text n.name with limit := none } s n := by
  have hnamed : (named 0.25 0.3 n.name : Query).FindsItself s n :=
    findsItself_named (by decide) (by decide) hn hkind
  exact hnamed

/-- **Every entity is found by its own name.** Whatever the tables hold, the unlimited query for the
name of an entity of some kind finds it: by equality or as a pattern that matches itself, or by
similarity, and then no hit is more similar. The exceptions are patterns of more than 50000 bytes,
and names without alphanumeric characters that are compared by similarity. It is so for the default
thresholds as floating-point numbers, and as exact ones. -/
theorem findsItself_text {c : Catalog} {n : NameRow} (hn : n ∈ c.names.rows)
    (hkind : ∃ k, c.has k n.atom = true) (fuzzy : Bool) (engine : Engine) (exact : Engine Rat) :
    FindsItself { empty.text n.name with limit := none } ⟨c, fuzzy, engine⟩ n ∧
      FindsItself (named (1 / 4) (3 / 10) n.name) ⟨c, fuzzy, exact⟩ n :=
  ⟨findsItself_of_default hn hkind,
    findsItself_named (by decide +kernel) (by decide +kernel) hn hkind⟩

/-- A movie that shares its atom with a TV show is found by its name, with similarity one. -/
theorem findsItself_text_tangled :
    let s : Store := { catalog := .tangled, fuzzy := true }
    let n : NameRow := ⟨1, "Heat".toList⟩
    let q : Query := { empty.text n.name with limit := none }
    (n ∈ s.catalog.names.rows ∧ ∃ k, s.catalog.has k n.atom = true) ∧
      ∃ hits, (q.search s).unattended = .ok hits ∧ ∃ hit ∈ hits, hit.id.toInt = 1 ∧
        hit.similarity = 1 ∧ ∀ hit' ∈ hits, ∃ ratio ≤ 1, hit'.similarity = Score.ofRatio ratio := by
  intro s n q
  have hn : n ∈ s.catalog.names.rows := List.mem_cons_self ..
  have hkind : ∃ k, s.catalog.has k n.atom = true := ⟨.movie, by decide⟩
  have hfinds : q.FindsItself s n := (findsItself_text hn hkind true .indexed .indexed).1
  have hplain : Criteria.isPattern n.name = false := by decide
  obtain ⟨hits, hhits⟩ := hfinds.answered Catalog.inBounds_tangled (by rw [hplain]; nofun)
  obtain ⟨-, hsimilar⟩ := hfinds.similar hplain rfl ⟨'H', List.mem_cons_self .., by decide⟩
  obtain ⟨hit, hhit, hid, hone, hall⟩ := hsimilar hits hhits
  exact ⟨⟨hn, hkind⟩, hits, hhits, hit, hhit, hid, hone.trans (by decide), hall⟩

end Query

/-- A catalogue of one movie. -/
def Catalog.titled (title : Text) : Catalog where
  names := ⟨[⟨1, title⟩], List.nodup_singleton _⟩
  movies := ⟨[⟨1, title, none, [], 0, 0⟩], List.nodup_singleton _⟩

theorem Catalog.inBounds_titled (title : Text) : (titled title).InBounds := by
  constructor <;> simp [titled, Table.empty, FitsWord?, IsAtomNumber]

namespace Query

/-- A movie whose title is a wildcard and 50000 letters is not found by its name, whether names can
be compared by similarity or not, and one whose title is three dots is not if they can. -/
theorem not_found_titled :
    let long : Text := '%' :: List.replicate 50000 'a'
    let dots : Text := "...".toList
    (∀ title : Text, (⟨1, title⟩ : NameRow) ∈ (Catalog.titled title).names.rows ∧
      (Catalog.titled title).has .movie 1 = true ∧ (Catalog.titled title).InBounds) ∧
    (∀ fuzzyCapable, ¬∃ hits, (search { catalog := .titled long, fuzzy := fuzzyCapable }
      { empty.text long with limit := none }).unattended = .ok hits) ∧
    ¬∃ hits, (search { catalog := .titled dots, fuzzy := true }
      { empty.text dots with limit := none }).unattended = .ok hits ∧ hits ≠ [] := by
  intro long dots
  have hfinds : ∀ (title : Text) (fuzzyCapable : Bool),
      FindsItself { empty.text title with limit := none }
        { catalog := .titled title, fuzzy := fuzzyCapable } ⟨1, title⟩ := by
    intro title fuzzyCapable
    let s : Store := { catalog := .titled title, fuzzy := fuzzyCapable }
    exact findsItself_of_default (s := s) (n := ⟨1, title⟩) (List.mem_cons_self ..) ⟨.movie, rfl⟩
  refine ⟨fun title => ⟨List.mem_cons_self .., rfl, Catalog.inBounds_titled title⟩, ?_, ?_⟩
  · rintro fuzzyCapable ⟨hits, hhits⟩
    have hsize : ∀ k, Utf8.size ('%' :: List.replicate k 'a') = k + 1 := by
      have hwildcard : '%'.utf8Size = 1 := rfl
      have hletter : 'a'.utf8Size = 1 := rfl
      intro k
      simp [Utf8.size, Utf8.encode, List.length_flatMap, hwildcard, hletter, Nat.add_comm]
    have hlong : 50000 < Utf8.size long := by
      rw [hsize]
      exact Nat.lt_succ_self _
    rw [(hfinds long fuzzyCapable).refused rfl hlong] at hhits
    cases hhits
  · rintro ⟨hits, hhits, hne⟩
    have hnone : ∀ c ∈ dots, Text.isAlphanumeric c = false := by
      intro c hc
      have hdot : c = '.' := List.eq_of_mem_replicate (show c ∈ List.replicate 3 '.' from hc)
      rw [hdot]
      decide
    exact hne ((hfinds dots true).missed (by decide) rfl hnone hits hhits)

end Query

end Filmography
