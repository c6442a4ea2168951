import Filmography.Catalog.Cells
import Filmography.Proofs.Catalog.Reached

/-!
# Names and entities

Every search starts from the name table, so an entity without a name there would never be found.
Whatever is loaded, the names and the entities are **in step**: what has a name is in the table of
some kind, what is in such a table has a name, and the name is the current title of one of its rows.
A record that is put into the table of its kind is put into the name table as well, and it keeps the
two in step whether it is new or replaces a row, be it of the same kind or of another one.

A name need not be the title that was loaded last. When an atom is in the tables of two kinds, its
name is the title of the record that came last, and the title of the other row is another one.

* `Catalog.InStep.enter`: a new row of a kind and a new name;
* `Catalog.Reached.inStep`: whatever is reached is in step;
* `Catalog.named_of_reached`: what that says of each name, and of the atom that is reserved.
-/

namespace Filmography

namespace Catalog

/-- The title of the entity with an atom, taken as one of a kind. That of an actor is the full
name. -/
def title? (c : Catalog) (k : Kind) (atom : Int) : Option Text :=
  match k with
  | .movie => (c.movies.find? atom).map (·.title)
  | .tvshow => (c.tvshows.find? atom).map (·.title)
  | .episode => (c.episodes.find? atom).map (·.title)
  | .actor => (c.actors.find? atom).map (·.fullName)

/-- An atom has a title as an entity of a kind if and only if the table of the kind holds it. -/
theorem isSome_title? (c : Catalog) (k : Kind) (atom : Int) :
    (c.title? k atom).isSome = c.has k atom := by
  cases k <;> exact Option.isSome_map

/-- The names and the entities are in step. -/
structure InStep (c : Catalog) : Prop where
  /-- An atom has a name if and only if it is in the table of some kind. -/
  named : ∀ atom, atom ∈ c.names.keys ↔ ∃ k, c.has k atom = true
  /-- A name is the current title in the table of some kind. -/
  current : ∀ n ∈ c.names.rows, ∃ k, c.title? k n.atom = some n.name

namespace InStep

variable {c c' : Catalog}

theorem empty : Catalog.empty.InStep where
  named atom := by
    refine iff_of_false List.not_mem_nil ?_
    rintro ⟨k, hk⟩
    cases k <;> cases hk
  current n hn := absurd hn List.not_mem_nil

/-- What changes neither names nor titles keeps them in step. -/
theorem of_title?_eq (h : c.InStep) (hnames : c'.names = c.names)
    (htitle : ∀ k atom, c'.title? k atom = c.title? k atom) : c'.InStep where
  named atom := by
    simp only [hnames, h.named, ← isSome_title?, htitle]
  current n hn := by
    rw [hnames] at hn
    simp only [htitle]
    exact h.current n hn

/-- A row that is put into the table of a kind, and its title into the name table, keeps names and
entities in step. -/
theorem enter (h : c.InStep) (k : Kind) {ρ : Type} {key : ρ → Int} (t : Table key) (r : ρ)
    (title : ρ → Text) (hnames : c'.names = c.names.put ⟨key r, title r⟩)
    (hbefore : ∀ atom, c.title? k atom = (t.find? atom).map title)
    (hafter : ∀ atom, c'.title? k atom = ((t.put r).find? atom).map title)
    (hother : ∀ k', k' ≠ k → ∀ atom, c'.title? k' atom = c.title? k' atom) : c'.InStep := by
  have hnew : c'.title? k (key r) = some (title r) := by
    rw [hafter, Table.find?_put, if_pos rfl]
    rfl
  have hrest : ∀ k' atom, atom ≠ key r → c'.title? k' atom = c.title? k' atom := by
    intro k' atom hatom
    by_cases hk : k' = k
    · rw [hk, hafter, hbefore, Table.find?_put, if_neg (Ne.symm hatom)]
    · exact hother k' hk atom
  refine ⟨fun atom => ?named, fun n hn => ?current⟩
  case named =>
    rw [hnames, Table.mem_keys_put]
    by_cases hatom : atom = key r
    · refine iff_of_true (.inl hatom) ⟨k, ?_⟩
      rw [hatom, ← isSome_title?, hnew]
      rfl
    · simp only [hatom, false_or, h.named, ← isSome_title?, hrest _ atom hatom]
  case current =>
    rw [hnames] at hn
    by_cases hatom : n.atom = key r
    · -- the name is the new one: it has replaced any other of the atom
      have hfound := Table.find?_key hn
      rw [Table.find?_put, if_pos hatom.symm] at hfound
      obtain rfl := Option.some.inj hfound
      exact ⟨k, hnew⟩
    · obtain rfl | hn := Table.mem_rows_put hn
      · exact absurd rfl hatom
      · obtain ⟨k', hk'⟩ := h.current n hn
        exact ⟨k', by rw [hrest k' n.atom hatom, hk']⟩

/-- A record keeps names and entities in step. -/
theorem put (h : c.InStep) (f : DataFile) (r : f.schema.Record) : (c.put f r).InStep := by
  cases f with
  | movies =>
    refine h.enter .movie c.movies (.ofRecord r) (·.title) rfl (fun _ => rfl) (fun _ => rfl) ?_
    rintro (_ | _) hk _ <;> first | rfl | exact absurd rfl hk
  | tvshows =>
    refine h.enter .tvshow c.tvshows (.ofRecord r) (·.title) rfl (fun _ => rfl) (fun _ => rfl) ?_
    rintro (_ | _) hk _ <;> first | rfl | exact absurd rfl hk
  | episodes =>
    refine h.enter .episode c.episodes (.ofRecord r) (·.title) rfl (fun _ => rfl) (fun _ => rfl) ?_
    rintro (_ | _) hk _ <;> first | rfl | exact absurd rfl hk
  | actors =>
    refine h.enter .actor c.actors (.ofRecord r) (·.fullName) rfl (fun _ => rfl) (fun _ => rfl) ?_
    rintro (_ | _) hk _ <;> first | rfl | exact absurd rfl hk
  | ratings => exact h.of_title?_eq rfl fun k _ => by cases k <;> rfl
  | credits => exact h.of_title?_eq rfl fun k _ => by cases k <;> rfl

end InStep

/-- Whatever is reached, the names and the entities are in step. -/
theorem Reached.inStep {c : Catalog} (h : c.Reached) : c.InStep :=
  h.of_put .empty fun _ f r hc => hc.put f r

/-- The atoms that occur in a table. -/
def atoms (c : Catalog) : TableName → List Int
  | .name => c.names.rows.map (·.atom)
  | .movie => c.movies.rows.map (·.atom)
  | .tvshow => c.tvshows.rows.map (·.atom)
  | .episode => c.episodes.rows.flatMap fun r => [r.atom, r.tvshow]
  | .actor => c.actors.rows.map (·.atom)
  | .rating => c.ratings.rows.map (·.atom)
  | .credit => c.credits.rows.flatMap fun r => [r.actor, r.media]

/-- What occurs in a table of a catalogue in bounds identifies an entity. -/
theorem InBounds.isAtomNumber_of_mem_atoms {c : Catalog} (h : c.InBounds) (t : TableName) :
    ∀ a ∈ c.atoms t, IsAtomNumber a := by
  cases t with
  | name => exact List.forall_mem_map.mpr h.names
  | movie => exact List.forall_mem_map.mpr fun r hr => (h.movies r hr).1
  | tvshow => exact List.forall_mem_map.mpr fun r hr => (h.tvshows r hr).1
  | episode =>
    intro a ha
    obtain ⟨r, hr, ha⟩ := List.mem_flatMap.mp ha
    obtain ⟨hatom, htvshow, -⟩ := h.episodes r hr
    obtain rfl | rfl : a = r.atom ∨ a = r.tvshow := by simpa using ha
    · exact hatom
    · exact htvshow
  | actor => exact List.forall_mem_map.mpr h.actors
  | rating => exact List.forall_mem_map.mpr fun r hr => (h.ratings r hr).1
  | credit =>
    intro a ha
    obtain ⟨r, hr, ha⟩ := List.mem_flatMap.mp ha
    obtain ⟨hactor, hmedia, -⟩ := h.credits r hr
    obtain rfl | rfl : a = r.actor ∨ a = r.media := by simpa using ha
    · exact hactor
    · exact hmedia

/-- **Names and entities.** Whatever was loaded, however often, and wherever loading failed: an atom
has a name if and only if it is in the table of some kind, and it has one name only. The name is the
current title in one of these tables, and in the only one if there is one only. The reserved atom
occurs in no table. -/
theorem named_of_reached {c : Catalog} (h : c.Reached) :
    (∀ atom, atom ∈ c.names.keys ↔ ∃ k, c.has k atom = true) ∧
    (∀ atom, (∃ k, c.has k atom = true) →
      ∃! name, (⟨atom, name⟩ : NameRow) ∈ c.names.rows) ∧
    (∀ n ∈ c.names.rows, ∃ k, c.title? k n.atom = some n.name) ∧
    (∀ n ∈ c.names.rows, ∀ k, (∀ k', c.has k' n.atom = true → k' = k) →
      c.title? k n.atom = some n.name) ∧
    ∀ t, 0 ∉ c.atoms t := by
  have hstep := h.inStep
  refine ⟨hstep.named, fun atom hatom => ?_, hstep.current, fun n hn k hk => ?_, fun t hzero => ?_⟩
  · obtain ⟨⟨_, name⟩, hn, rfl⟩ := List.mem_map.mp ((hstep.named atom).mpr hatom)
    refine ⟨name, hn, fun name' hn' => ?_⟩
    have hsame := List.inj_on_of_nodup_map c.names.distinct hn' hn rfl
    exact congrArg NameRow.name hsame
  · obtain ⟨k', hk'⟩ := hstep.current n hn
    have hhas : c.has k' n.atom = true := by
      rw [← isSome_title?, hk']
      rfl
    rw [← hk k' hhas, hk']
  · exact Int.lt_irrefl 0 (h.inBounds.isAtomNumber_of_mem_atoms t 0 hzero).1

/-- The shared atom of `DataFile.entangled` after the movie was loaded under another title, and
nothing after it: the name is the title of the movie, and no longer that of the TV show. -/
theorem named_of_reached_renamed :
    let movie : Text := "atom_id\ttitle\tyear\tsequence\ttv\tvideo\n1\tRan\t\t\t0\t0\n".toList
    let renamed (f : DataFile) : Source := match f with
      | .movies => ⟨f.fileName, .ok ⟨Utf8.encode movie, none⟩⟩
      | _ => ⟨f.fileName, .error .notFound⟩
    let c := ((empty.load DataFile.entangled).catalog.load renamed).catalog
    c.Reached ∧ (⟨1, "Ran".toList⟩ : NameRow) ∈ c.names.rows ∧
      c.title? .tvshow 1 = some "Heat".toList ∧ (∃ k, c.title? k 1 = some "Ran".toList) ∧
      (∃! name, (⟨1, name⟩ : NameRow) ∈ c.names.rows) ∧ ∀ t, 0 ∉ c.atoms t := by
  intro movie renamed c
  have hreached : c.Reached := .load (.load .new DataFile.entangled) renamed
  obtain ⟨hname, htitle⟩ : (⟨1, "Ran".toList⟩ : NameRow) ∈ c.names.rows ∧
      c.title? .tvshow 1 = some "Heat".toList := by decide +kernel
  -- nothing else depends on what was loaded
  clear_value c
  obtain ⟨hnamed, hunique, hcurrent, -, hzero⟩ := named_of_reached hreached
  have hkind : ∃ k, c.has k 1 = true := (hnamed 1).mp (List.mem_map_of_mem hname)
  exact ⟨hreached, hname, htitle, hcurrent _ hname, hunique 1 hkind, hzero⟩

end Catalog

end Filmography
