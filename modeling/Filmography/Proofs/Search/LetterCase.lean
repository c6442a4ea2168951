import Mathlib.Data.List.TakeWhile
import Filmography.Proofs.Search.OwnNames
import Filmography.Proofs.Search.Thresholds
import Filmography.Proofs.Text.Trimming

/-!
# Patterns and letter case

A name matches a pattern if it falls into pieces, one for each character of the pattern: any
characters for a percent sign, one character for an underscore, and for any other character the same
one, in either case if it is an ASCII letter. So a text without wildcards matches the names that are
the same up to the case of ASCII letters.

Where names are not compared by similarity, a text without wildcards is compared exactly unless
letter case is ignored, and then it is a pattern. As a pattern it still matches the names that are
equal to it, so ignoring letter case takes no result away. This holds of any search that is resolved
in the same way; and how a query is resolved only depends on its sub-queries.

* `Pattern.denotes_iff_obtains`: a pattern as the pieces of the texts that it stands for;
* `Hit.Describes.unique`: there is only one hit that describes a name;
* `Query.Widens`: what ignoring letter case adds to a search;
* `Query.widens_ignoreCase`: what a pattern finds, and what ignoring letter case does.
-/

namespace Filmography

/-! ### Patterns by pieces -/

namespace Pattern

/-- What a character of a pattern may be replaced by. -/
inductive Replaces : Char → Text → Prop
  /-- Any characters, also none, take the place of a percent sign. -/
  | any (t : Text) : Replaces '%' t
  /-- Exactly one character takes the place of an underscore. -/
  | one (d : Char) : Replaces '_' [d]
  /-- The place of another character is taken by the same one, up to the case of ASCII letters. -/
  | same {c d : Char} (hany : c ≠ '%') (hone : c ≠ '_') (h : c.toLower = d.toLower) :
      Replaces c [d]

/-- A text can be obtained from a pattern by replacing each of its characters. -/
def Obtains (p t : Text) : Prop :=
  ∃ pieces, List.Forall₂ Replaces p pieces ∧ t = pieces.flatten

/-- A pattern stands for the texts that can be obtained from it. -/
theorem denotes_iff_obtains {p t : Text} : Denotes p t ↔ Obtains p t := by
  constructor
  · intro h
    induction h with
    | nil => exact ⟨[], .nil, rfl⟩
    | any skipped _ ih =>
      obtain ⟨pieces, hpieces, rfl⟩ := ih
      exact ⟨skipped :: pieces, .cons (.any skipped) hpieces, rfl⟩
    | one d _ ih =>
      obtain ⟨pieces, hpieces, rfl⟩ := ih
      exact ⟨[d] :: pieces, .cons (.one d) hpieces, rfl⟩
    | @same c d _ _ hany hone h _ ih =>
      obtain ⟨pieces, hpieces, rfl⟩ := ih
      exact ⟨[d] :: pieces, .cons (.same hany hone (eq_of_beq h)) hpieces, rfl⟩
  · rintro ⟨pieces, hpieces, rfl⟩
    induction hpieces with
    | nil => exact .nil
    | cons h _ ih =>
      cases h with
      | any => exact .any _ ih
      | one d => exact .one d ih
      | same hany hone h => exact .same hany hone (beq_iff_eq.mpr h) ih

/-- Two texts are the same up to the case of ASCII letters. -/
def SameLetters (t u : Text) : Prop :=
  t.map Char.toLower = u.map Char.toLower

/-- Without wildcards a pattern stands for the texts that are the same up to the case of ASCII
letters. -/
theorem obtains_iff_of_isPattern_eq_false {p t : Text} (hp : Criteria.isPattern p = false) :
    Obtains p t ↔ SameLetters t p := by
  rw [SameLetters]
  have hplain : ∀ c ∈ p, c ≠ '%' ∧ c ≠ '_' := by
    simpa [Criteria.isPattern, not_or] using hp
  constructor
  · rintro ⟨pieces, hpieces, rfl⟩
    clear hp
    induction hpieces with
    | nil => rfl
    | cons h _ ih =>
      obtain ⟨⟨hany, hone⟩, hrest⟩ := List.forall_mem_cons.mp hplain
      cases h with
      | any t => exact absurd rfl hany
      | one d => exact absurd rfl hone
      | same _ _ h =>
        rw [List.flatten_cons, List.singleton_append, List.map_cons, List.map_cons, ih hrest, h]
  · intro h
    clear hp
    induction p generalizing t with
    | nil =>
      rw [List.map_nil, List.map_eq_nil_iff] at h
      exact ⟨[], .nil, h⟩
    | cons c p ih =>
      obtain ⟨d, t, rfl, hd, ht⟩ := List.map_eq_cons_iff.mp h
      obtain ⟨⟨hany, hone⟩, hrest⟩ := List.forall_mem_cons.mp hplain
      obtain ⟨pieces, hpieces, rfl⟩ := ih hrest ht
      exact ⟨[d] :: pieces, .cons (.same hany hone hd.symm) hpieces, rfl⟩

/-- Matching sees every character of a text as it is: there is no null character, at which the text
would end, and neither of the two code points that are no characters. -/
def IsVisible (t : Text) : Prop :=
  ∀ c ∈ t, c ≠ '\x00' ∧ c ≠ '\ufffe' ∧ c ≠ '\uffff'

instance (t : Text) : Decidable (IsVisible t) :=
  List.decidableBAll _ t

theorem IsVisible.seen_eq {t : Text} (h : IsVisible t) : seen t = t := by
  have htake : t.takeWhile (· ≠ '\x00') = t :=
    List.takeWhile_eq_self_iff.mpr fun c hc => decide_eq_true (h c hc).1
  rw [seen, htake]
  refine (List.map_congr_left fun c hc => ?_).trans t.map_id
  have hplain : ¬(c = '\ufffe' ∨ c = '\uffff') := not_or.mpr (h c hc).2
  simp [hplain]

/-- What matching sees of a text without wildcards has none. -/
theorem isPattern_seen {t : Text} (h : Criteria.isPattern t = false) :
    Criteria.isPattern (seen t) = false := by
  rw [Criteria.isPattern, List.any_eq_false] at h ⊢
  intro d hd
  obtain ⟨c, hc, rfl⟩ := List.mem_map.mp hd
  split
  · decide
  · exact h c ((List.takeWhile_subset _) hc)

end Pattern

/-- The terms of a query without wildcards make a text without wildcards. -/
theorem Criteria.isPattern_of_name? {ν : Type} {q : Criteria ν} (h : q.hasWildcard = false)
    {t : Text} (ht : q.name? = some t) : isPattern t = false := by
  rw [hasWildcard, List.any_eq_false] at h
  rw [name?] at ht
  cases hterms : q.terms with
  | nil =>
    rw [hterms] at ht
    cases ht
  | cons term terms =>
    rw [hterms] at ht h
    obtain ⟨hterm, hrest⟩ := List.forall_mem_cons.mp h
    obtain rfl : Text.joined [' '] (term :: terms) = t := Option.some.inj ht
    rw [Text.joined_cons, isPattern, List.any_append, ← isPattern, ← isPattern,
      (Bool.not_eq_true _).mp hterm, Bool.false_or, isPattern, Text.spread, List.any_flatMap,
      List.any_eq_false]
    intro w hw
    rw [List.any_cons, ← isPattern, (Bool.not_eq_true _).mp (hrest w hw)]
    decide

/-! ### Hits that describe names -/

/-- A decoded credit is determined by the row of the credit table. -/
theorem Credited.Describes.unique {d d' : Credited} {k : CreditRow} (h : d.Describes k)
    (h' : d'.Describes k) : d = d' := by
  obtain ⟨actor, media, character, position, attrs⟩ := d
  obtain ⟨actor', media', character', position', attrs'⟩ := d'
  obtain rfl : actor = actor' := Atom.toInt_injective (h.actor.trans h'.actor.symm)
  obtain rfl : media = media' := Atom.toInt_injective (h.media.trans h'.media.symm)
  obtain rfl : character = character' := h.character.trans h'.character.symm
  obtain rfl : position = position' := h.position.trans h'.position.symm
  obtain rfl : attrs = attrs' := h.attrs.trans h'.attrs.symm
  rfl

/-- There is only one hit that describes a name and a joined credit. -/
theorem Hit.Describes.unique {ν : Type} [Score ν] {h h' : Hit ν} {c : Catalog}
    {measured : Option Text} {n : NameRow} {credit : Option CreditRow}
    (hd : h.Describes c measured n credit) (hd' : h'.Describes c measured n credit) : h = h' := by
  obtain ⟨kind, id, name, year, attrs, similarity, ⟨votes, rank⟩, credited⟩ := h
  obtain ⟨kind', id', name', year', attrs', similarity', ⟨votes', rank'⟩, credited'⟩ := h'
  have hrank : kind.rank = kind'.rank :=
    Nat.le_antisymm (hd.first _ hd'.kind) (hd'.first _ hd.kind)
  obtain rfl : kind = kind' := by
    cases kind <;> cases kind' <;> first | rfl | cases hrank
  have hword : ∀ {v w : UInt32}, (v.toNat : Int) = w.toNat → v = w :=
    fun h => UInt32.toNat_inj.mp (Int.ofNat_inj.mp h)
  obtain rfl : id = id' := Atom.toInt_injective (hd.id.trans hd'.id.symm)
  obtain rfl : name = name' := hd.name.trans hd'.name.symm
  obtain rfl : year = year' := hword (hd.year.trans hd'.year.symm)
  obtain rfl : attrs = attrs' := hd.attrs.trans hd'.attrs.symm
  obtain rfl : similarity = similarity' := hd.similarity.trans hd'.similarity.symm
  obtain rfl : votes = votes' := hword (hd.votes.trans hd'.votes.symm)
  obtain rfl : rank = rank' := hword (hd.rank.trans hd'.rank.symm)
  obtain rfl : credited = credited' := by
    have hcredit := hd.credit
    have hcredit' := hd'.credit
    cases hcredit with
    | none =>
      cases hcredit'
      rfl
    | some hk =>
      cases hcredit' with
      | some hk' => exact congrArg some (hk.unique hk')
  rfl

/-- If each member of a list determines what it is related to, and all of one list without
repetitions are among those of another, then so are, as a bag, those that they are related to; the
others are related to other members. -/
theorem exists_perm_append_of_forall₂ {α β : Type} {R : α → β → Prop} (hR : Relator.RightUnique R)
    {as as' : List α} {bs bs' : List β} (h : List.Forall₂ R as bs) (h' : List.Forall₂ R as' bs')
    (hnodup : as.Nodup) (hnodup' : as'.Nodup) (hsub : as ⊆ as') :
    ∃ added, bs'.Perm (bs ++ added) ∧ ∀ b ∈ added, ∃ a ∈ as', a ∉ as ∧ R a b := by
  obtain ⟨cs, hcs, hsublist⟩ := hnodup.subperm hsub
  obtain ⟨extra, hextra⟩ := hsublist.exists_perm_append
  have hperm : as'.Perm (as ++ extra) := hextra.trans (hcs.append_right extra)
  obtain ⟨ds, hds, hbs'⟩ := List.perm_comp_forall₂ hperm.symm h'
  have htake : List.Forall₂ R as (ds.take as.length) :=
    (List.forall₂_take_append ds as extra hds.flip).flip
  have hdrop : List.Forall₂ R extra (ds.drop as.length) :=
    (List.forall₂_drop_append ds as extra hds.flip).flip
  refine ⟨ds.drop as.length, ?_, fun b hb => ?_⟩
  · rw [← List.right_unique_forall₂' hR htake h, List.take_append_drop]
    exact hbs'.symm
  · obtain ⟨a, ha, hab⟩ := exists_of_mem_forall₂ hdrop.flip hb
    have hdisjoint := (List.nodup_append.mp (hperm.nodup_iff.mp hnodup')).2.2
    exact ⟨a, hperm.mem_iff.mpr (List.mem_append_right _ ha), fun hmem => hdisjoint a hmem a ha rfl,
      hab⟩

/-! ### Sub-queries -/

theorem Dialogue.bind_assoc {ν α β γ : Type} (d : Dialogue ν α) (f : α → Dialogue ν β)
    (g : β → Dialogue ν γ) : (d.bind f).bind g = d.bind fun a => (f a).bind g := by
  induction d with
  | done result => cases result <;> rfl
  | report event next ih => exact congrArg (report event) ih
  | ask question next ih => exact congrArg (ask question) (funext ih)

namespace Query

variable {σ ν : Type} [Score ν] {s : Store ν}

/-- Settle the sub-queries of a query, and no more. -/
def resolve (s : Store ν) (threshold : ν) (debug : Bool) (q : Query ν) : Dialogue ν Resolutions :=
  (settle? s threshold (q.debug || debug) .tvshow q.tvshow).bind fun tvshow =>
  (settle? s threshold (q.debug || debug) .credits q.credits).bind fun credits =>
  (settle? s threshold (q.debug || debug) .cast q.cast).bind fun cast =>
  .done (.ok ⟨tvshow, credits, cast⟩)

/-- To whoever answers, a query is prepared by resolving and compiling it. -/
theorem hold_prepareWithin (choose : Chooser σ ν) (q : Query ν) (threshold : ν) (debug : Bool)
    (m : σ) : (q.prepareWithin s threshold debug).hold choose m =
      ⟨((q.resolve s threshold debug).hold choose m).result.map (q.compile · s.fuzzy),
        ((q.resolve s threshold debug).hold choose m).memory,
        ((q.resolve s threshold debug).hold choose m).questions⟩ := by
  have hsilent : (q.prepareWithin s threshold debug).silent =
      ((q.resolve s threshold debug).bind fun r => .done (.ok (q.compile r s.fuzzy))).silent := by
    simp only [prepareWithin_eq, resolve, Dialogue.bind_assoc, Dialogue.silent_bind]
    rfl
  rw [← Dialogue.hold_silent, hsilent, Dialogue.hold_silent, Dialogue.hold_bind_done]
  cases ((q.resolve s threshold debug).hold choose m).result <;> rfl

/-- To whoever answers, a search is resolved, compiled and run. -/
theorem hold_search (choose : Chooser σ ν) (q : Query ν) (m : σ) :
    (q.search s).hold choose m =
      ⟨((q.resolve s q.goodThreshold false).hold choose m).result.bind fun r =>
          (q.compile r s.fuzzy).hits s.engine s.catalog,
        ((q.resolve s q.goodThreshold false).hold choose m).memory,
        ((q.resolve s q.goodThreshold false).hold choose m).questions⟩ := by
  rw [search_eq_searchWithin, hold_searchWithin, hold_prepareWithin]
  cases ((q.resolve s q.goodThreshold false).hold choose m).result <;> rfl

end Query

/-! ### Texts as patterns -/

/-- A statement keeps a joined row of which all its conditions hold. -/
def Statement.Keeps {ν : Type} [Score ν] (s : Statement ν) (j : Joined) : Prop :=
  ∀ k ∈ s.conditions, k.holds s.params j = true

namespace Query

variable {σ ν : Type} [Score ν] {s : Store ν} {q : Query ν} {fuzzyCapable : Bool}
  {engine : Engine ν} {c : Catalog} {n : NameRow} {credit : Option CreditRow} {r : Resolutions}

/-- The text of a query and whether letter case is ignored only count for the name. -/
theorem Accepts.of_name {q' : Query ν} (h : q.Accepts r fuzzyCapable c n credit)
    (hsame : { q with terms := [], ignoreCase := false } =
      { q' with terms := [], ignoreCase := false })
    (hname : ∀ t, q'.name? = some t → q'.NameMatches fuzzyCapable t n.name) :
    q'.Accepts r fuzzyCapable c n credit := by
  obtain ⟨⟨_, _, _, _, _, _, _, _, _, _, _, _, _, _, _, _, _⟩, _, _, _⟩ := q
  obtain ⟨⟨_, _, _, _, _, _, _, _, _, _, _, _, _, _, _, _, _⟩, _, _, _⟩ := q'
  cases hsame
  exact { h with name := hname }

theorem nameMatches_iff_obtains (hq : Strategy.ofQuery q fuzzyCapable = .pattern) {t name : Text} :
    q.NameMatches fuzzyCapable t name ↔ Pattern.Obtains (Pattern.seen t) (Pattern.seen name) := by
  obtain ⟨hfuzzy, hpattern⟩ := Strategy.ofQuery_eq_pattern_iff.mp hq
  rw [NameMatches, if_neg hfuzzy, if_pos hpattern, Pattern.denotes_iff_obtains]

/-- A text that is a pattern keeps, of the rows that would do without it, those whose name can be
obtained from it. -/
theorem keeps_compile_iff_obtains (hq : Strategy.ofQuery q fuzzyCapable = .pattern) {t : Text}
    (ht : q.name? = some t) :
    (q.compile r fuzzyCapable).Keeps (c.joinedName n credit) ↔
      (compile { q with terms := [] } r fuzzyCapable).Keeps (c.joinedName n credit) ∧
        Pattern.Obtains (Pattern.seen t) (Pattern.seen n.name) := by
  rw [Statement.Keeps, Statement.Keeps, conditions_hold_iff, conditions_hold_iff]
  constructor
  · intro h
    exact ⟨h.of_name rfl nofun, (nameMatches_iff_obtains hq).mp (h.name t ht)⟩
  · rintro ⟨h, hname⟩
    refine h.of_name rfl fun u hu => ?_
    rw [ht] at hu
    cases hu
    exact (nameMatches_iff_obtains hq).mpr hname

/-! ### Ignoring letter case -/

/-- A hit is of a name that is the text of a query up to the case of ASCII letters, as matching sees
both. -/
def IsRespelled (q : Query ν) (hit : Hit ν) : Prop :=
  ∃ t, q.name? = some t ∧ Pattern.SameLetters (Pattern.seen hit.name) (Pattern.seen t) ∧
    (Pattern.IsVisible hit.name → Pattern.IsVisible t → Pattern.SameLetters hit.name t)

/-- What a query without wildcards accepts by equality it accepts if letter case is ignored. -/
theorem Accepts.ignoreCase (hexact : ¬(q.fuzzy = true ∧ fuzzyCapable = true))
    (h : q.Accepts r fuzzyCapable c n credit) :
    Accepts { q with ignoreCase := true } r fuzzyCapable c n credit := by
  refine h.of_name rfl fun t ht => ?_
  have hmatches := h.name t ht
  rw [NameMatches, if_neg hexact] at hmatches ⊢
  rw [if_pos (.inr rfl)]
  split at hmatches
  · exact hmatches
  · rw [hmatches]
    exact Pattern.denotes_self _

/-- What a query only accepts if letter case is ignored is the same as its text up to that. -/
theorem Accepts.sameLetters (hplain : q.hasWildcard = false)
    (hexact : ¬(q.fuzzy = true ∧ fuzzyCapable = true))
    (h : Accepts { q with ignoreCase := true } r fuzzyCapable c n credit)
    (hnew : ¬q.Accepts r fuzzyCapable c n credit) :
    ∃ t, q.name? = some t ∧ Pattern.SameLetters (Pattern.seen n.name) (Pattern.seen t) := by
  cases ht : q.name? with
  | none =>
    have hold : q.Accepts r fuzzyCapable c n credit := h.of_name rfl fun t ht' => by
      rw [ht] at ht'
      cases ht'
    exact absurd hold hnew
  | some t =>
    have hmatches := h.name t ht
    rw [NameMatches, if_neg hexact, if_pos (.inr rfl), Pattern.denotes_iff_obtains,
      Pattern.obtains_iff_of_isPattern_eq_false
        (Pattern.isPattern_seen (Criteria.isPattern_of_name? hplain ht))] at hmatches
    exact ⟨t, rfl, hmatches⟩

omit [Score ν] in
/-- A text of at most 50000 bytes is no pattern that is refused. -/
theorem not_overlong_of_size_le (hshort : ∀ t, q.name? = some t → Utf8.size t ≤ Pattern.limit) :
    ¬q.Overlong fuzzyCapable := by
  rintro ⟨-, -, t, ht, hlong⟩
  exact absurd hlong (Nat.not_lt.mpr (hshort t ht))

/-- However a query without wildcards is resolved, its hits are kept if letter case is ignored, and
those that are added are of names that are the same up to that. -/
theorem exists_added_ignoreCase (hc : c.InBounds) (hlimit : q.limit = none)
    (hplain : q.hasWildcard = false) (hexact : ¬(q.fuzzy = true ∧ fuzzyCapable = true))
    (hshort : ∀ t, q.name? = some t → Utf8.size t ≤ Pattern.limit) {hits : List (Hit ν)}
    (h : (q.compile r fuzzyCapable).hits engine c = .ok hits) :
    ∃ hits' added, (compile { q with ignoreCase := true } r fuzzyCapable).hits engine c =
      .ok hits' ∧ hits'.Perm (hits ++ added) ∧ ∀ hit ∈ added, q.IsRespelled hit := by
  have haccepted := Statement.fault?_eq_none_of_hits h
  have hterms : ¬q.Crowded fuzzyCapable := fun hcrowded => by
    rw [fault?_of_crowded hcrowded] at haccepted
    cases haccepted
  obtain ⟨_, hhits, pairs, hnodup, hmem, hdescribes⟩ := exists_isAnswer hlimit hc haccepted
  obtain rfl := Except.ok.inj (hhits.symm.trans h)
  obtain ⟨hits', hhits', pairs', hnodup', hmem', hdescribes'⟩ :=
    exists_isAnswer (q := { q with ignoreCase := true }) hlimit hc <| fault?_eq_none fun
      | _, .terms hcrowded => hterms hcrowded
      | _, .pattern hlong =>
        not_overlong_of_size_le (q := { q with ignoreCase := true }) hshort hlong
  have hsub : pairs ⊆ pairs' := by
    rintro ⟨n, credit⟩ hp
    obtain ⟨hn, hjoins, haccepts⟩ := (hmem n credit).mp hp
    exact (hmem' n credit).mpr ⟨hn, hjoins, haccepts.ignoreCase hexact⟩
  obtain ⟨added, hperm, hadded⟩ := exists_perm_append_of_forall₂
    (R := fun (p : NameRow × Option CreditRow) (h : Hit ν) =>
      h.Describes c (q.measured? fuzzyCapable) p.1 p.2)
    (fun _ _ _ h h' => h.unique h') hdescribes hdescribes' hnodup hnodup' hsub
  refine ⟨hits', added, hhits', hperm, fun hit hhit => ?_⟩
  obtain ⟨⟨n, credit⟩, hp, hnew, hdescribe⟩ := hadded hit hhit
  obtain ⟨hn, hjoins, haccepts⟩ := (hmem' n credit).mp hp
  obtain ⟨t, ht, hsame⟩ := haccepts.sameLetters hplain hexact fun h =>
    hnew ((hmem n credit).mpr ⟨hn, hjoins, h⟩)
  rw [← hdescribe.name] at hsame
  refine ⟨t, ht, hsame, fun hvisible hvisible' => ?_⟩
  rwa [hvisible.seen_eq, hvisible'.seen_eq] at hsame

/-- What it is refused for it is refused for if letter case is ignored. -/
theorem hits_ignoreCase_of_error (hc : c.InBounds) (hlimit : q.limit = none)
    (hshort : ∀ t, q.name? = some t → Utf8.size t ≤ Pattern.limit) {e : Error}
    (h : (q.compile r fuzzyCapable).hits engine c = .error e) :
    (compile { q with ignoreCase := true } r fuzzyCapable).hits engine c = .error e := by
  by_cases hcrowded : q.Crowded fuzzyCapable
  · rw [← h, hits_compile_of_crowded hcrowded]
    exact hits_compile_of_crowded hcrowded
  · have haccepted : (q.compile r fuzzyCapable).fault? engine c = none := fault?_eq_none fun
      | _, .terms hterms => hcrowded hterms
      | _, .pattern hlong => not_overlong_of_size_le hshort hlong
    obtain ⟨hits, hhits, -⟩ := exists_isAnswer hlimit hc haccepted
    rw [hhits] at h
    cases h

/-- What a search comes to if letter case is ignored, compared with what it comes to if it is not.
The same is asked, and errors stay. -/
structure Widens (q : Query ν) (held held' : Held σ ν (List (Hit ν))) : Prop where
  /-- The chooser remembers the same. -/
  memory : held'.memory = held.memory
  /-- The same is asked. -/
  questions : held'.questions = held.questions
  /-- An error stays. -/
  error : ∀ e, held.result = .error e → held'.result = .error e
  /-- All hits are kept, and those that are added are of names that are the text but for case. -/
  hits : ∀ hits, held.result = .ok hits → ∃ hits' added, held'.result = .ok hits' ∧
    hits'.Perm (hits ++ added) ∧ ∀ hit ∈ added, q.IsRespelled hit

/-- A search is widened if every resolution of its sub-queries leads to more hits, or to the same
error. -/
theorem widens_of_forall {q' : Query ν} {choose : Chooser σ ν} {m : σ}
    (hresolve : q'.resolve s q'.goodThreshold false = q.resolve s q.goodThreshold false)
    (herror : ∀ r e, (q.compile r s.fuzzy).hits s.engine s.catalog = .error e →
      (q'.compile r s.fuzzy).hits s.engine s.catalog = .error e)
    (hhits : ∀ r hits, (q.compile r s.fuzzy).hits s.engine s.catalog = .ok hits →
      ∃ hits' added, (q'.compile r s.fuzzy).hits s.engine s.catalog = .ok hits' ∧
        hits'.Perm (hits ++ added) ∧ ∀ hit ∈ added, q.IsRespelled hit) :
    q.Widens ((q.search s).hold choose m) ((q'.search s).hold choose m) := by
  rw [hold_search, hold_search, hresolve]
  generalize (q.resolve s q.goodThreshold false).hold choose m = resolved
  obtain ⟨result, memory, questions⟩ := resolved
  cases result with
  | error e => exact { memory := rfl, questions := rfl, error := fun _ he => he, hits := nofun }
  | ok r => exact { memory := rfl, questions := rfl, error := herror r, hits := hhits r }

omit [Score ν] in
/-- Where names are compared by similarity, letter case has no part in what is compiled. -/
theorem compile_ignoreCase (hsimilar : q.fuzzy = true ∧ fuzzyCapable = true) (ignoreCase : Bool)
    (r : Resolutions) :
    compile { q with ignoreCase := ignoreCase } r fuzzyCapable = q.compile r fuzzyCapable := by
  have hstrategy : Strategy.ofQuery { q with ignoreCase := ignoreCase } fuzzyCapable =
      Strategy.ofQuery q fuzzyCapable := by
    rw [Strategy.ofQuery_eq_similarity_iff.mpr hsimilar, Strategy.ofQuery_eq_similarity_iff]
    exact hsimilar
  rw [compile, compile, hstrategy, Strategy.ofQuery_eq_similarity_iff.mpr hsimilar]
  rfl

/-- **Patterns and letter case.** Where the text of a query is a pattern, the names that pass it are
those that can be obtained from it. A query without a limit and without wildcards that does not
compare names by similarity keeps, if letter case is ignored, every hit that it had, whoever
answers, and only adds hits of names that are the text but for the case of ASCII letters; a text of
more than 50000 bytes aside, which the database does not take as a pattern, and numbers that cannot
be read back. Where names are compared by similarity, ignoring letter case changes nothing. -/
theorem widens_ignoreCase (s : Store ν) :
    (∀ (q : Query ν) (t : Text), Strategy.ofQuery q s.fuzzy = .pattern → q.name? = some t →
      ∀ (r : Resolutions) (n : NameRow) (credit : Option CreditRow),
        let keeps (q : Query ν) : Prop :=
          (q.compile r s.fuzzy).Keeps (s.catalog.joinedName n credit)
        (keeps q ↔ keeps { q with terms := [] } ∧
          Pattern.Obtains (Pattern.seen t) (Pattern.seen n.name)) ∧
        (Pattern.IsVisible t → Pattern.IsVisible n.name →
          (keeps q ↔ keeps { q with terms := [] } ∧ Pattern.Obtains t n.name))) ∧
    (s.catalog.InBounds → ∀ q : Query ν, q.limit = none → q.hasWildcard = false →
      ¬(q.fuzzy = true ∧ s.fuzzy = true) →
      (∀ t, q.name? = some t → Utf8.size t ≤ Pattern.limit) →
      ∀ {σ : Type} (choose : Chooser σ ν) (m : σ), q.Widens ((q.search s).hold choose m)
        ((search s { q with ignoreCase := true }).hold choose m)) ∧
    (∀ (q : Query ν) (ignoreCase : Bool), q.fuzzy = true → s.fuzzy = true →
      ∀ {σ : Type} (choose : Chooser σ ν) (m : σ),
        (search s { q with ignoreCase := ignoreCase }).hold choose m =
          (q.search s).hold choose m ∧
        (prepare s { q with ignoreCase := ignoreCase }).hold choose m =
          (q.prepare s).hold choose m) := by
  refine ⟨fun q t hq ht r n credit => ?_, fun hs q hlimit hplain hexact hshort σ choose m => ?_,
    fun q ignoreCase hfuzzy hcapable σ choose m => ?_⟩
  · refine ⟨keeps_compile_iff_obtains hq ht, fun hvisible hvisible' => ?_⟩
    have hiff : (q.compile r s.fuzzy).Keeps (s.catalog.joinedName n credit) ↔ _ :=
      keeps_compile_iff_obtains hq ht
    rwa [hvisible.seen_eq, hvisible'.seen_eq] at hiff
  · exact widens_of_forall rfl (fun _ _ => hits_ignoreCase_of_error hs hlimit hshort)
      fun _ _ => exists_added_ignoreCase hs hlimit hplain hexact hshort
  · have hresolve : resolve s q.goodThreshold false { q with ignoreCase := ignoreCase } =
        q.resolve s q.goodThreshold false := rfl
    constructor
    · rw [hold_search, hold_search]
      simp only [compile_ignoreCase ⟨hfuzzy, hcapable⟩, hresolve]
    · rw [prepare, prepare, hold_prepareWithin, hold_prepareWithin]
      simp only [compile_ignoreCase ⟨hfuzzy, hcapable⟩, hresolve]

/-- A pattern with both wildcards that keeps a name, a text in capitals, and one that is compared by
similarity. -/
theorem widens_ignoreCase_tangled :
    let s : Store := { catalog := .tangled, fuzzy := true }
    let n : NameRow := ⟨3, "Pacino, Al".toList⟩
    let pattern : Query := { empty with terms := ["%ACI_O,".toList, "%L".toList], fuzzy := false }
    let capitals : Query := { empty with terms := ["HEAT".toList], fuzzy := false, limit := none }
    let similar : Query := empty.text "heat".toList
    let choose : Chooser Nat := fun question m => (.ok question.candidates.getLast?, m + 1)
    s.catalog.InBounds ∧
      (Strategy.ofQuery pattern s.fuzzy = .pattern ∧ pattern.name? = some "%ACI_O, %L".toList ∧
        Pattern.IsVisible "%ACI_O, %L".toList ∧ Pattern.IsVisible n.name ∧
        (pattern.compile {} s.fuzzy).Keeps (s.catalog.joinedName n none)) ∧
      (capitals.limit = none ∧ capitals.hasWildcard = false ∧
        ¬(capitals.fuzzy = true ∧ s.fuzzy = true) ∧
        (∀ t, capitals.name? = some t → Utf8.size t ≤ Pattern.limit) ∧
        capitals.Widens ((capitals.search s).hold choose 0)
          ((search s { capitals with ignoreCase := true }).hold choose 0)) ∧
      (similar.fuzzy = true ∧ s.fuzzy = true ∧
        (search s { similar with ignoreCase := true }).hold choose 0 =
          (similar.search s).hold choose 0) := by
  intro s n pattern capitals similar choose
  have hs : s.catalog.InBounds := Catalog.inBounds_tangled
  obtain ⟨hpattern, hcapitals, hsimilar⟩ := widens_ignoreCase (ν := Float) s
  have hvisible : Pattern.IsVisible "%ACI_O, %L".toList := by decide
  have hvisible' : Pattern.IsVisible n.name := by decide
  have hobtains : Pattern.Obtains "%ACI_O, %L".toList n.name :=
    Pattern.denotes_iff_obtains.mp (Pattern.accepts_iff.mp (by decide))
  have hrest : (compile { pattern with terms := [] } {} s.fuzzy).Keeps
      (s.catalog.joinedName n none) := by
    rw [Statement.Keeps]
    decide
  have hexact : ¬(capitals.fuzzy = true ∧ s.fuzzy = true) := fun h => by cases h.1
  have hshort : ∀ t, capitals.name? = some t → Utf8.size t ≤ Pattern.limit := by
    rintro _ ⟨⟩
    decide
  refine ⟨hs, ⟨rfl, rfl, hvisible, hvisible', ?_⟩,
    ⟨rfl, by decide, hexact, hshort, hcapitals hs capitals rfl (by decide) hexact hshort choose 0⟩,
    by decide, rfl, (hsimilar similar true (by decide) rfl choose 0).1⟩
  exact ((hpattern pattern _ rfl rfl {} n none).2 hvisible hvisible').mpr ⟨hrest, hobtains⟩

end Query

end Filmography
