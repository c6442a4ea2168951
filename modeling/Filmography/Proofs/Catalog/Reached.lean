import Filmography.Proofs.Catalog.Atomicity
import Filmography.Proofs.Search.Decoding

/-!
# The catalogues that loading reaches

A store starts empty, and nothing but loading changes it. Loading may be repeated, with other data
files each time, and it may fail at any point; either way it does nothing but put records into the
catalogue, one after the other. So what holds of the empty catalogue and is kept by every record
holds of all that is **reached**.

Records consist of atoms, which are not zero, and of words, so all numbers in the tables fit what
they are read back into: what is reached is in bounds. How the tables relate is another matter. The
data files are not compared with each other, and those of `DataFile.entangled` share atoms and refer
to what is missing.

* `Catalog.Reached.of_put`: what every record keeps holds of whatever is reached;
* `Catalog.Reached.inBounds`: what is reached is in bounds.
-/

namespace Filmography

namespace Catalog

/-- The catalogues that loading makes of the empty one, however often and with whatever success. -/
inductive Reached : Catalog → Prop
  /-- The catalogue of a new store. -/
  | new : Reached empty
  /-- Whatever becomes of loading once more. -/
  | load {c : Catalog} (hc : Reached c) (sources : DataFile → Source) :
      Reached (c.load sources).catalog

/-- What every record keeps, any number of records keep. -/
theorem enterAll_of_put {P : Catalog → Prop} (hput : ∀ c f r, P c → P (c.put f r)) {c : Catalog}
    (hc : P c) (es : List Entry) : P (c.enterAll es) := by
  induction es generalizing c with
  | nil => exact hc
  | cons e es ih => exact ih (hput c e.1 e.2 hc)

/-- What holds of the empty catalogue and is kept by every record holds of whatever is reached. -/
theorem Reached.of_put {P : Catalog → Prop} (hempty : P empty)
    (hput : ∀ c f r, P c → P (c.put f r)) {c : Catalog} (h : c.Reached) : P c := by
  induction h with
  | new => exact hempty
  | @load c _ sources ih =>
    -- what is loaded before loading stops is a list of records
    obtain ⟨done, rest, records, -, hstops⟩ := exists_load_stops sources
    rw [(hstops c).catalog, putFiles_eq_enterAll]
    exact enterAll_of_put hput ih _

end Catalog

/-! ### Bounds -/

theorem Atom.isAtomNumber_toInt (a : Atom) : IsAtomNumber a.toInt := by
  have hne : a.val.toNat ≠ 0 := fun h => a.ne_zero (UInt32.toNat_inj.mp h)
  have hlt : a.val.toNat < 2 ^ 32 := a.val.toNat_lt
  constructor <;> simp only [toInt, Int.ofNat_eq_natCast] <;> omega

theorem fitsWord_storedWord (n : UInt32) : FitsWord (storedWord n) := by
  have hlt : n.toNat < 2 ^ 32 := n.toNat_lt
  constructor <;> simp only [storedWord, Int.ofNat_eq_natCast] <;> omega

theorem fitsWord?_storedWord (v : Option UInt32) : FitsWord? (v.map storedWord) := by
  intro n hn
  obtain ⟨w, -, rfl⟩ := Option.map_eq_some_iff.mp hn
  exact fitsWord_storedWord w

/-- What holds of all rows of a table and of one more holds of all rows once that is put into it. -/
theorem Table.forall_mem_put {ρ κ : Type} [DecidableEq κ] {key : ρ → κ} {t : Table key} {r : ρ}
    {P : ρ → Prop} (ht : ∀ s ∈ t.rows, P s) (hr : P r) : ∀ s ∈ (t.put r).rows, P s := by
  intro s hs
  obtain rfl | hs := mem_rows_put hs
  · exact hr
  · exact ht s hs

namespace Catalog

theorem inBounds_empty : empty.InBounds := by
  constructor <;> simp [empty, Table.empty]

/-- A record keeps a catalogue in bounds. -/
theorem InBounds.put {c : Catalog} (h : c.InBounds) (f : DataFile) (r : f.schema.Record) :
    (c.put f r).InBounds := by
  cases f with
  | movies =>
    obtain ⟨atom, title, year, sequence, tv, video, ⟨⟩⟩ := r
    exact { h with
      names := Table.forall_mem_put h.names atom.isAtomNumber_toInt
      movies := Table.forall_mem_put h.movies
        ⟨atom.isAtomNumber_toInt, fitsWord?_storedWord year⟩ }
  | tvshows =>
    obtain ⟨atom, title, year, sequence, yearStart, yearEnd, ⟨⟩⟩ := r
    exact { h with
      names := Table.forall_mem_put h.names atom.isAtomNumber_toInt
      tvshows := Table.forall_mem_put h.tvshows
        ⟨atom.isAtomNumber_toInt, fitsWord?_storedWord year, fitsWord?_storedWord yearStart,
          fitsWord?_storedWord yearEnd⟩ }
  | episodes =>
    obtain ⟨atom, tvshow, title, year, season, number, ⟨⟩⟩ := r
    exact { h with
      names := Table.forall_mem_put h.names atom.isAtomNumber_toInt
      episodes := Table.forall_mem_put h.episodes
        ⟨atom.isAtomNumber_toInt, tvshow.isAtomNumber_toInt, fitsWord?_storedWord year,
          fitsWord?_storedWord season, fitsWord?_storedWord number⟩ }
  | actors =>
    obtain ⟨atom, fullName, sequence, ⟨⟩⟩ := r
    exact { h with
      names := Table.forall_mem_put h.names atom.isAtomNumber_toInt
      actors := Table.forall_mem_put h.actors atom.isAtomNumber_toInt }
  | ratings =>
    obtain ⟨atom, votes, rank, ⟨⟩⟩ := r
    exact { h with
      ratings := Table.forall_mem_put h.ratings
        ⟨atom.isAtomNumber_toInt, fitsWord_storedWord votes, fitsWord_storedWord rank⟩ }
  | credits =>
    obtain ⟨actor, media, character, position, attrs, ⟨⟩⟩ := r
    exact { h with
      credits := Table.forall_mem_put h.credits
        ⟨actor.isAtomNumber_toInt, media.isAtomNumber_toInt, fitsWord?_storedWord position⟩ }

/-- Whatever is reached is in bounds. -/
theorem Reached.inBounds {c : Catalog} (h : c.Reached) : c.InBounds :=
  h.of_put inBounds_empty fun _ f r hc => hc.put f r

end Catalog

/-! ### Shared atoms and dangling references -/

/-- Data files in which the atom 1 is both a movie and a TV show, the episode 2 is of a show that is
missing, and the actor 3 is credited in the movie and in media that is missing. -/
def DataFile.entangled (f : DataFile) : Source where
  path := f.fileName
  content := .ok ⟨Utf8.encode (String.toList (match f with
    | movies => "atom_id\ttitle\tyear\tsequence\ttv\tvideo\n1\tHeat\t\t\t0\t0\n"
    | tvshows => "atom_id\ttitle\tyear\tsequence\tyear_start\tyear_end\n1\tHeat\t1995\t\t1995\t\n"
    | episodes => "atom_id\ttvshow_atom_id\ttitle\tyear\tseason\tepisode\n2\t9\tPilot\t\t1\t1\n"
    | actors => "atom_id\tfull_name\tsequence\n3\tPacino, Al\t\n"
    | ratings => "atom_id\tvotes\trank\n1\t700\t83\n"
    | credits => "actor_atom_id\tmedia_atom_id\tcharacter\tposition\tattrs\n" ++
        "3\t1\tHanna\t1\t\n3\t8\t\t\t\n")), none⟩

/-- Loading takes these files as they are. -/
theorem Catalog.error_load_entangled : (empty.load DataFile.entangled).error = none :=
  Option.isNone_iff_eq_none.mp (by decide +kernel)

end Filmography
