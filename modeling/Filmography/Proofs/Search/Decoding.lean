import Filmography.Proofs.Results
import Filmography.Proofs.Search.Acceptance

/-!
# Decoding rows

The rows of a search are decoded into hits, and a number that does not fit its field is an error.
Loading writes numbers that fit and atoms that are not zero, so in a catalogue **in bounds** every
joined name that is of some kind decodes.

`Hit.Describes` says what the hit then is, field by field and without the joined row: the first
kind that holds the atom decides what is told about it.

* `Row.decode_joinedName`: in a catalogue in bounds a joined name of some kind decodes to a hit that
  describes it;
* `Row.describes_of_decode`: in any catalogue, what it decodes to describes it.
-/

namespace Filmography

/-! ### Catalogues in bounds -/

/-- A number that a field of 32 bits can hold. -/
def FitsWord (n : Int) : Prop :=
  0 ≤ n ∧ n < 0x100000000

/-- A number that identifies an entity: one of 32 bits other than zero. -/
def IsAtomNumber (n : Int) : Prop :=
  0 < n ∧ n < 0x100000000

/-- A number, if there is one, that a field of 32 bits can hold. -/
def FitsWord? (v : Option Int) : Prop :=
  ∀ n ∈ v, FitsWord n

/-- The numbers in the tables are as loading writes them. Nothing is asked of how the tables relate:
an atom may be in several of them, and what a row refers to may be missing. -/
structure Catalog.InBounds (c : Catalog) : Prop where
  /-- The names. -/
  names : ∀ r ∈ c.names.rows, IsAtomNumber r.atom
  /-- The movies. -/
  movies : ∀ r ∈ c.movies.rows, IsAtomNumber r.atom ∧ FitsWord? r.year
  /-- The TV shows. -/
  tvshows : ∀ r ∈ c.tvshows.rows, IsAtomNumber r.atom ∧ FitsWord? r.year ∧
    FitsWord? r.yearStart ∧ FitsWord? r.yearEnd
  /-- The episodes. -/
  episodes : ∀ r ∈ c.episodes.rows, IsAtomNumber r.atom ∧ IsAtomNumber r.tvshow ∧
    FitsWord? r.year ∧ FitsWord? r.season ∧ FitsWord? r.number
  /-- The actors. -/
  actors : ∀ r ∈ c.actors.rows, IsAtomNumber r.atom
  /-- The ratings. -/
  ratings : ∀ r ∈ c.ratings.rows, IsAtomNumber r.atom ∧ FitsWord r.votes ∧ FitsWord r.rank
  /-- The credits. -/
  credits : ∀ r ∈ c.credits.rows, IsAtomNumber r.actor ∧ IsAtomNumber r.media ∧
    FitsWord? r.position

/-- What is found in a table is one of its rows, with the key that was looked up. -/
theorem Table.mem_of_find? {ρ κ : Type} [DecidableEq κ] {key : ρ → κ} {t : Table key} {k : κ}
    {r : ρ} (h : t.find? k = some r) : r ∈ t.rows ∧ key r = k :=
  ⟨List.mem_of_find?_eq_some h, by simpa using List.find?_some h⟩

/-! ### What a hit tells -/

/-- A number in a table as a word. -/
def wordOf (n : Int) : UInt32 :=
  UInt32.ofNat n.toNat

/-- What is special about the entity with an atom, taken as one of a kind. -/
def Catalog.attributes (c : Catalog) (atom : Int) : Kind → Attributes
  | .movie =>
    let m := c.movies.find? atom
    .movie (m.any (·.tv != 0)) (m.any (·.video != 0))
  | .tvshow =>
    let t := c.tvshows.find? atom
    .tvshow ((t.bind (·.yearStart)).map wordOf) ((t.bind (·.yearEnd)).map wordOf)
  | .episode =>
    let e := c.episodes.find? atom
    let parent := e.bind fun e => c.tvshows.find? e.tvshow
    .episode ((parent.map (·.title)).getD []) ((e.bind (·.season)).map wordOf)
      ((e.bind (·.number)).map wordOf)
  | .actor => .actor

/-- A decoded credit tells what a row of the credit table holds. -/
structure Credited.Describes (d : Credited) (k : CreditRow) : Prop where
  /-- Its actor. -/
  actor : d.actor.toInt = k.actor
  /-- Its media. -/
  media : d.media.toInt = k.media
  /-- Its character. -/
  character : d.character = k.character
  /-- Its position. -/
  position : d.position = k.position.map wordOf
  /-- Its remarks. -/
  attrs : d.attrs = k.attrs

/-- A hit tells what the tables hold for the atom of a name, and for the credit that the name is
joined with. `measured` is the text that names are compared with by similarity, if they are. -/
structure Hit.Describes {ν : Type} [Score ν] (h : Hit ν) (c : Catalog) (measured : Option Text)
    (n : NameRow) (credit : Option CreditRow) : Prop where
  /-- Its kind is one whose table holds the atom. -/
  kind : c.has h.kind n.atom = true
  /-- Its kind is the first such one. -/
  first : ∀ k, c.has k n.atom = true → h.kind.rank ≤ k.rank
  /-- Its atom. -/
  id : h.id.toInt = n.atom
  /-- Its name. -/
  name : h.name = n.name
  /-- Its first known year, or zero. -/
  year : (h.year.toNat : Int) = (c.knownYear? n.atom).getD 0
  /-- What is special about it as an entity of its kind. -/
  attrs : h.attrs = (c.attributes n.atom h.kind).print
  /-- The similarity of its name, or the mark for none. -/
  similarity : h.similarity = match measured with
    | none => Score.unmeasured
    | some t => Score.ofRatio (Filmography.similarity n.name t)
  /-- Its votes, or zero. -/
  votes : (h.ranking.votes.toNat : Int) = ((c.ratings.find? n.atom).map (·.votes)).getD 0
  /-- Its rank, or zero. -/
  rank : (h.ranking.rank.toNat : Int) = ((c.ratings.find? n.atom).map (·.rank)).getD 0
  /-- Its credit. -/
  credit : Option.Rel Credited.Describes h.credit credit

/-! ### Reading numbers -/

theorem toNat_wordOf {n : Int} (h : FitsWord n) : ((wordOf n).toNat : Int) = n := by
  have hlt : n.toNat < UInt32.size := by
    have := h.2
    rw [UInt32.size]
    omega
  rw [wordOf, UInt32.toNat_ofNat_of_lt' hlt]
  exact Int.toNat_of_nonneg h.1

theorem FitsWord?.getD_zero {v : Option Int} (h : FitsWord? v) : FitsWord (v.getD 0) := by
  cases v with
  | none => exact ⟨Int.le_refl 0, by decide⟩
  | some n => exact h n rfl

theorem IsAtomNumber.fitsWord {n : Int} (h : IsAtomNumber n) : FitsWord n :=
  ⟨by have := h.1; omega, h.2⟩

namespace Row

theorem word_eq_ok (f : Field) {n : Int} (h : FitsWord n) : word f n = .ok (wordOf n) := by
  have h' : 0 ≤ n ∧ n < 0x100000000 := h
  rw [word, if_pos h', wordOf]

theorem word?_eq_ok (f : Field) {v : Option Int} (h : FitsWord? v) :
    word? f v = .ok (v.map wordOf) := by
  cases v with
  | none => rfl
  | some n => simp [word?, word_eq_ok f (h n rfl), Functor.map, Except.map]

theorem ofWord?_wordOf {n : Int} (h : IsAtomNumber n) :
    ∃ a : Atom, Atom.ofWord? (wordOf n) = some a ∧ a.toInt = n := by
  have hw := toNat_wordOf h.fitsWord
  have hne : wordOf n ≠ 0 := by
    intro h0
    rw [h0] at hw
    have := h.1
    simp at hw
    omega
  exact ⟨⟨wordOf n, hne⟩, by rw [Atom.ofWord?, dif_pos hne], hw⟩

theorem atom_eq_ok (f : Field) {n : Int} (h : IsAtomNumber n) :
    ∃ a : Atom, atom f n = .ok a ∧ a.toInt = n := by
  obtain ⟨a, ha, hn⟩ := ofWord?_wordOf h
  refine ⟨a, ?_, hn⟩
  simp [atom, word_eq_ok f h.fitsWord, ha, bind, Except.bind, pure, Except.pure]

/-- A credit in bounds decodes. -/
theorem credited_eq_ok {k : CreditRow} (ha : IsAtomNumber k.actor) (hm : IsAtomNumber k.media)
    (hp : FitsWord? k.position) : ∃ d, credited k = .ok d ∧ d.Describes k := by
  obtain ⟨actor, hactor, hactor'⟩ := ofWord?_wordOf ha
  obtain ⟨media, hmedia, hmedia'⟩ := atom_eq_ok .creditMedia hm
  refine ⟨⟨actor, media, k.character, k.position.map wordOf, k.attrs⟩, ?_,
    ⟨hactor', hmedia', rfl, rfl, rfl⟩⟩
  simp [credited, word_eq_ok .creditActor ha.fitsWord, hactor, hmedia,
    word?_eq_ok .position hp, bind, Except.bind, pure, Except.pure]

end Row

/-! ### Numbers of joined names -/

namespace Catalog

variable {c : Catalog} {atom : Int}

/-- What a table yields for an atom fits a word if every row of the table does. -/
private theorem fitsWord?_bind_find? {ρ : Type} {key : ρ → Int} {t : Table key}
    {f : ρ → Option Int} (h : ∀ r ∈ t.rows, FitsWord? (f r)) (k : Int) :
    FitsWord? ((t.find? k).bind f) := by
  cases hr : t.find? k with
  | none => exact fun n hn => by simp at hn
  | some r => exact h r (Table.mem_of_find? hr).1

theorem InBounds.fitsWord?_knownYear? (hc : c.InBounds) : FitsWord? (c.knownYear? atom) := by
  intro y hy
  obtain ⟨v, hv, hvy⟩ := List.exists_of_findSome?_eq_some hy
  simp only [List.mem_cons, List.not_mem_nil, or_false] at hv
  obtain rfl : v = some y := hvy
  rcases hv with hv | hv | hv
  · exact fitsWord?_bind_find? (fun r hr => (hc.movies r hr).2) atom y hv.symm
  · exact fitsWord?_bind_find? (fun r hr => (hc.tvshows r hr).2.1) atom y hv.symm
  · exact fitsWord?_bind_find? (fun r hr => (hc.episodes r hr).2.2.1) atom y hv.symm

/-- A joined name that is of some kind is of a first one. -/
theorem kind?_joinedName {n : NameRow} (credit : Option CreditRow)
    (h : ∃ k, c.has k n.atom = true) :
    ∃ k, (c.joinedName n credit).kind? = some k ∧ c.has k n.atom = true ∧
      ∀ k', c.has k' n.atom = true → k.rank ≤ k'.rank := by
  obtain ⟨k₀, hk₀⟩ := h
  have hsome : (Kind.all.find? (c.joinedName n credit).isKind).isSome = true :=
    List.find?_isSome.mpr ⟨k₀, Kind.mem_all k₀, by rw [isKind_joinedName, hk₀]⟩
  obtain ⟨k, hk⟩ := Option.isSome_iff_exists.mp hsome
  obtain ⟨hpk, before, after, hall, hbefore⟩ := List.find?_eq_some_iff_append.mp hk
  refine ⟨k, hk, by rwa [isKind_joinedName] at hpk, fun k' hk' => ?_⟩
  -- kinds are tried in the order of their ranks
  have hsorted : Kind.all.Pairwise fun a b => a.rank ≤ b.rank := by decide
  have hmem := Kind.mem_all k'
  rw [hall] at hsorted hmem
  rcases List.mem_append.mp hmem with hmem | hmem
  · have hnot := hbefore k' hmem
    rw [isKind_joinedName, hk'] at hnot
    cases hnot
  · rcases List.mem_cons.mp hmem with rfl | hmem
    · exact Nat.le_refl _
    · exact (List.pairwise_cons.mp (List.pairwise_append.mp hsorted).2.1).1 k' hmem

/-- The atom of a joined name that is of some kind is that of the name. -/
theorem id?_joinedName {n : NameRow} (credit : Option CreditRow)
    (h : ∃ k, c.has k n.atom = true) : (c.joinedName n credit).id? = some n.atom := by
  have hkey : ∀ {ρ : Type} {key : ρ → Int} (t : Table key),
      (t.find? n.atom).map key = if (t.find? n.atom).isSome then some n.atom else none := by
    intro ρ key t
    cases hr : t.find? n.atom with
    | none => rfl
    | some r => simp [(Table.mem_of_find? hr).2]
  obtain ⟨k, hk⟩ := h
  -- whichever of the tables have the atom, the one of the kind has it
  simp only [Joined.id?, joinedName, hkey]
  cases k <;> simp only [has] at hk <;> rw [hk] <;>
    cases (c.movies.find? n.atom).isSome <;> cases (c.tvshows.find? n.atom).isSome <;>
      cases (c.episodes.find? n.atom).isSome <;> rfl

end Catalog

namespace Row

/-- What is special about a joined name decodes, whatever kind it is taken for. -/
theorem attributes_joinedName {c : Catalog} (hc : c.InBounds) (n : NameRow)
    (credit : Option CreditRow) (k : Kind) :
    attributes (c.joinedName n credit) k = .ok (c.attributes n.atom k) := by
  cases k with
  | movie => rfl
  | tvshow =>
    have h1 := word?_eq_ok .yearStart
      (Catalog.fitsWord?_bind_find? (fun r hr => (hc.tvshows r hr).2.2.1) n.atom)
    have h2 := word?_eq_ok .yearEnd
      (Catalog.fitsWord?_bind_find? (fun r hr => (hc.tvshows r hr).2.2.2) n.atom)
    simp only [attributes, Catalog.joinedName, h1, h2]
    rfl
  | episode =>
    have h1 := word?_eq_ok .season
      (Catalog.fitsWord?_bind_find? (fun r hr => (hc.episodes r hr).2.2.2.1) n.atom)
    have h2 := word?_eq_ok .number
      (Catalog.fitsWord?_bind_find? (fun r hr => (hc.episodes r hr).2.2.2.2) n.atom)
    simp only [attributes, Joined.season?, Joined.number?, Catalog.joinedName, h1, h2]
    rfl
  | actor => rfl

/-- The credit that a name is joined with decodes, if there is one. -/
theorem credited?_eq_ok {c : Catalog} (hc : c.InBounds) {credit : Option CreditRow}
    (hcredit : ∀ k ∈ credit, k ∈ c.credits.rows) :
    ∃ d, credit.mapM credited = .ok d ∧ Option.Rel Credited.Describes d credit := by
  cases credit with
  | none => exact ⟨none, rfl, .none⟩
  | some k =>
    obtain ⟨ha, hm, hp⟩ := hc.credits k (hcredit k rfl)
    obtain ⟨d, hd, hd'⟩ := credited_eq_ok ha hm hp
    exact ⟨some d, by rw [Option.mapM_some, hd]; rfl, .some hd'⟩

/-- **Decoding.** In a catalogue in bounds a joined name of some kind decodes, to a hit that tells
what the tables hold for it. -/
theorem decode_joinedName {ν : Type} [Score ν] {c : Catalog} (hc : c.InBounds) {n : NameRow}
    (hn : n ∈ c.names.rows) {credit : Option CreditRow} (hcredit : ∀ k ∈ credit, k ∈ c.credits.rows)
    (hkind : ∃ k, c.has k n.atom = true) (measured : Option Text) :
    ∃ h : Hit ν, decode ⟨c.joinedName n credit,
        measured.map fun t => Filmography.similarity n.name t⟩ = .ok h ∧
      h.Describes c measured n credit := by
  obtain ⟨k, hk, hhas, hfirst⟩ := Catalog.kind?_joinedName credit hkind
  obtain ⟨id, hid, hid'⟩ := atom_eq_ok .id (hc.names n hn)
  have hyear : FitsWord ((c.knownYear? n.atom).getD 0) := hc.fitsWord?_knownYear?.getD_zero
  have hvotes : FitsWord (((c.ratings.find? n.atom).map (·.votes)).getD 0) := by
    refine FitsWord?.getD_zero fun v hv => ?_
    obtain ⟨r, hr, rfl⟩ := Option.map_eq_some_iff.mp hv
    exact (hc.ratings r (Table.mem_of_find? hr).1).2.1
  have hrank : FitsWord (((c.ratings.find? n.atom).map (·.rank)).getD 0) := by
    refine FitsWord?.getD_zero fun v hv => ?_
    obtain ⟨r, hr, rfl⟩ := Option.map_eq_some_iff.mp hv
    exact (hc.ratings r (Table.mem_of_find? hr).1).2.2
  obtain ⟨d, hd, hd'⟩ := credited?_eq_ok hc hcredit
  let h : Hit ν := {
    kind := k
    id := id
    name := n.name
    year := wordOf ((c.knownYear? n.atom).getD 0)
    attrs := (c.attributes n.atom k).print
    similarity := match measured with
      | none => Score.unmeasured
      | some t => Score.ofRatio (Filmography.similarity n.name t)
    ranking := ⟨wordOf (((c.ratings.find? n.atom).map (·.votes)).getD 0),
      wordOf (((c.ratings.find? n.atom).map (·.rank)).getD 0)⟩
    credit := d }
  have hdescribes : h.Describes c measured n credit := {
    kind := hhas
    first := hfirst
    id := hid'
    name := rfl
    year := toNat_wordOf hyear
    attrs := rfl
    similarity := rfl
    votes := toNat_wordOf hvotes
    rank := toNat_wordOf hrank
    credit := hd' }
  refine ⟨h, ?_, hdescribes⟩
  simp only [decode, hk, Catalog.id?_joinedName credit hkind, Option.getD_some, hid,
    Catalog.year?_joinedName, word_eq_ok _ hyear, Joined.votes?, Joined.rank?,
    attributes_joinedName hc]
  simp only [Catalog.joinedName, word_eq_ok _ hvotes, word_eq_ok _ hrank]
  cases credit with
  | none =>
    cases hd
    cases measured <;> rfl
  | some r =>
    rw [Option.mapM_some] at hd
    simp only [hd]
    cases measured <;> rfl

end Row

/-! ### What was read -/

namespace Row

theorem eq_wordOf_of_word {f : Field} {n : Int} {w : UInt32} (h : word f n = .ok w) :
    FitsWord n ∧ w = wordOf n := by
  rw [word] at h
  split at h
  · next hn => exact ⟨hn, (Except.ok.inj h).symm⟩
  · cases h

theorem toNat_of_word {f : Field} {n : Int} {w : UInt32} (h : word f n = .ok w) :
    (w.toNat : Int) = n := by
  obtain ⟨hn, rfl⟩ := eq_wordOf_of_word h
  exact toNat_wordOf hn

theorem eq_map_of_word? {f : Field} {v : Option Int} {w : Option UInt32}
    (h : word? f v = .ok w) : w = v.map wordOf := by
  cases v with
  | none => exact (Except.ok.inj h).symm
  | some n =>
    rw [word?] at h
    obtain ⟨u, hu, hw⟩ := exists_of_bind_eq_ok h
    cases hw
    rw [(eq_wordOf_of_word hu).2]
    rfl

theorem toInt_of_ofWord? {f : Field} {n : Int} {w : UInt32} {a : Atom} (hw : word f n = .ok w)
    (ha : Atom.ofWord? w = some a) : a.toInt = n := by
  rw [Atom.ofWord?] at ha
  split at ha
  · cases ha
    exact toNat_of_word hw
  · cases ha

theorem toInt_of_atom {f : Field} {n : Int} {a : Atom} (h : atom f n = .ok a) : a.toInt = n := by
  rw [atom] at h
  obtain ⟨w, hw, h⟩ := exists_of_bind_eq_ok h
  split at h
  · next a' ha =>
    cases h
    exact toInt_of_ofWord? hw ha
  · cases h

/-- A credit that decodes is told as the table has it. -/
theorem describes_of_credited {k : CreditRow} {d : Credited} (h : credited k = .ok d) :
    d.Describes k := by
  rw [credited] at h
  obtain ⟨actorWord, hword, h⟩ := exists_of_bind_eq_ok h
  split at h
  · next actor hactor =>
    obtain ⟨media, hmedia, h⟩ := exists_of_bind_eq_ok h
    obtain ⟨position, hposition, h⟩ := exists_of_bind_eq_ok h
    cases h
    exact ⟨toInt_of_ofWord? hword hactor, toInt_of_atom hmedia, rfl, eq_map_of_word? hposition, rfl⟩
  · cases h

/-- What is special about a joined name is told as the tables have it. -/
theorem attributes_eq {c : Catalog} {n : NameRow} {credit : Option CreditRow} {k : Kind}
    {a : Attributes} (h : attributes (c.joinedName n credit) k = .ok a) :
    a = c.attributes n.atom k := by
  cases k with
  | movie => exact (Except.ok.inj h).symm
  | tvshow =>
    obtain ⟨start, hstart, h⟩ := exists_of_bind_eq_ok h
    obtain ⟨finish, hfinish, h⟩ := exists_of_bind_eq_ok h
    cases h
    rw [eq_map_of_word? hstart, eq_map_of_word? hfinish]
    rfl
  | episode =>
    obtain ⟨season, hseason, h⟩ := exists_of_bind_eq_ok h
    obtain ⟨number, hnumber, h⟩ := exists_of_bind_eq_ok h
    cases h
    rw [eq_map_of_word? hseason, eq_map_of_word? hnumber]
    rfl
  | actor => exact (Except.ok.inj h).symm

/-- **Decoding, backwards.** Whatever the tables hold, if a joined name of some kind decodes, then
to a hit that tells what they hold for it. -/
theorem describes_of_decode {ν : Type} [Score ν] {c : Catalog} {n : NameRow}
    {credit : Option CreditRow} (hkind : ∃ k, c.has k n.atom = true) {measured : Option Text}
    {h : Hit ν} (hdecode : decode ⟨c.joinedName n credit,
      measured.map fun t => Filmography.similarity n.name t⟩ = .ok h) :
    h.Describes c measured n credit := by
  obtain ⟨k, hk, hhas, hfirst⟩ := Catalog.kind?_joinedName credit hkind
  simp only [decode, hk, Catalog.id?_joinedName credit hkind, Catalog.year?_joinedName] at hdecode
  obtain ⟨id, hid, hdecode⟩ := exists_of_bind_eq_ok hdecode
  obtain ⟨year, hyear, hdecode⟩ := exists_of_bind_eq_ok hdecode
  obtain ⟨votes, hvotes, hdecode⟩ := exists_of_bind_eq_ok hdecode
  obtain ⟨rank, hrank, hdecode⟩ := exists_of_bind_eq_ok hdecode
  obtain ⟨attributes, hattributes, hdecode⟩ := exists_of_bind_eq_ok hdecode
  -- a credit is decoded only where there is one
  obtain ⟨d, hcredit, rfl⟩ : ∃ d, Option.Rel Credited.Describes d credit ∧
      h = ⟨k, id, n.name, year, attributes.print, _, ⟨votes, rank⟩, d⟩ := by
    cases credit with
    | none => exact ⟨none, .none, (Except.ok.inj hdecode).symm⟩
    | some r =>
      obtain ⟨d, hd, hdecode⟩ := exists_of_bind_eq_ok hdecode
      obtain ⟨d', hd', hd⟩ := exists_of_bind_eq_ok hd
      cases hd
      exact ⟨some d', .some (describes_of_credited hd'), (Except.ok.inj hdecode).symm⟩
  exact {
    kind := hhas
    first := hfirst
    id := toInt_of_atom hid
    name := rfl
    year := toNat_of_word hyear
    attrs := by rw [attributes_eq hattributes]
    similarity := by cases measured <;> rfl
    votes := toNat_of_word hvotes
    rank := toNat_of_word hrank
    credit := hcredit }

end Row

end Filmography
