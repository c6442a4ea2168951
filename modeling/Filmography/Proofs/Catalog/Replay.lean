import Mathlib.Data.List.Nodup
import Filmography.Catalog.Load

/-!
# Putting rows again

A table is determined by its keys, in order, and by what is found for them. After many rows were put
into a table, the last one with a key is found for it; so putting the same rows once more changes
nothing. The tables of a catalogue are filled independently of each other, each by the rows that the
records of the data files have for it, and the same holds of the catalogue.

* `Table.find?_putAll`: what is found after putting many rows;
* `Table.putAll_putAll`: putting the same rows again changes nothing;
* `Catalog.names_enterAll` and its like: what entering records puts into a table;
* `Catalog.enterAll_enterAll`: entering the same records again changes nothing.
-/

namespace Filmography

/-! ### Tables -/

namespace Table

variable {ρ κ : Type} [DecidableEq κ] {key : ρ → κ}

/-- The table with rows put into it, one after the other. -/
def putAll (t : Table key) (rs : List ρ) : Table key :=
  rs.foldl put t

@[simp]
theorem putAll_nil (t : Table key) : t.putAll [] = t := rfl

@[simp]
theorem putAll_cons (t : Table key) (r : ρ) (rs : List ρ) :
    t.putAll (r :: rs) = (t.put r).putAll rs := rfl

/-- A row of a table is found by its key. -/
theorem find?_key {t : Table key} {r : ρ} (hr : r ∈ t.rows) : t.find? (key r) = some r := by
  obtain ⟨s, hs⟩ : ∃ s, t.find? (key r) = some s :=
    Option.isSome_iff_exists.mp (List.find?_isSome.mpr ⟨r, hr, by simp⟩)
  have hkey : key s = key r := by simpa using List.find?_some hs
  rw [hs, List.inj_on_of_nodup_map t.distinct (List.mem_of_find?_eq_some hs) hr hkey]

/-- A table consists of what is found for its keys. -/
theorem rows_eq_filterMap (t : Table key) : t.rows = t.keys.filterMap t.find? := by
  have hfound : ∀ r ∈ t.rows, t.find? (key r) = some r := fun r hr => find?_key hr
  rw [keys, List.filterMap_map]
  calc t.rows = t.rows.filterMap some := List.filterMap_some.symm
    _ = t.rows.filterMap (t.find? ∘ key) := List.filterMap_congr fun r hr => (hfound r hr).symm

/-- Tables with the same keys, in the same order, and the same row for each of them are the same. -/
theorem ext_find? {t u : Table key} (hkeys : t.keys = u.keys)
    (hfind : ∀ k, t.find? k = u.find? k) : t = u := by
  have hrows : t.rows = u.rows := by
    rw [rows_eq_filterMap t, rows_eq_filterMap u, hkeys, funext hfind]
  cases t
  cases u
  cases hrows
  rfl

/-- The last row with a key is found for it, and if there is none, what was found before. -/
theorem find?_putAll (t : Table key) (rs : List ρ) (k : κ) :
    (t.putAll rs).find? k = (rs.reverse.find? fun r => key r = k).or (t.find? k) := by
  induction rs generalizing t with
  | nil => simp
  | cons r rs ih =>
    rw [putAll_cons, ih, List.reverse_cons, List.find?_append, Option.or_assoc, find?_put]
    by_cases hr : key r = k <;> simp [hr]

/-- Putting rows adds their keys. -/
theorem mem_keys_putAll {t : Table key} {rs : List ρ} {k : κ} :
    k ∈ (t.putAll rs).keys ↔ k ∈ t.keys ∨ ∃ r ∈ rs, key r = k := by
  induction rs generalizing t with
  | nil => simp
  | cons r rs ih =>
    rw [putAll_cons, ih, mem_keys_put]
    simp [or_assoc, eq_comm, or_left_comm]

/-- Putting a row whose key is there leaves the keys as they are. -/
theorem keys_put_of_mem {t : Table key} {r : ρ} (h : key r ∈ t.keys) : (t.put r).keys = t.keys := by
  rw [keys, put, map_upsert]
  exact if_pos h

theorem keys_putAll_of_mem {t : Table key} {rs : List ρ} (h : ∀ r ∈ rs, key r ∈ t.keys) :
    (t.putAll rs).keys = t.keys := by
  induction rs generalizing t with
  | nil => rfl
  | cons r rs ih =>
    obtain ⟨hr, hrs⟩ := List.forall_mem_cons.mp h
    have hput := keys_put_of_mem hr
    rw [putAll_cons, ih fun s hs => hput ▸ hrs s hs, hput]

/-- Putting the same rows again changes nothing. -/
theorem putAll_putAll (t : Table key) (rs : List ρ) : (t.putAll rs).putAll rs = t.putAll rs := by
  refine ext_find? (keys_putAll_of_mem fun r hr => mem_keys_putAll.mpr (.inr ⟨r, hr, rfl⟩)) ?_
  intro k
  rw [find?_putAll, find?_putAll, ← Option.or_assoc, Option.or_self]

/-- What is in a table after putting a row was there before, or is that row. -/
theorem mem_rows_put {t : Table key} {r s : ρ} (h : s ∈ (t.put r).rows) : s = r ∨ s ∈ t.rows := by
  have hs := find?_key h
  rw [find?_put] at hs
  split at hs
  · exact .inl (Option.some.inj hs).symm
  · exact .inr (List.mem_of_find?_eq_some hs)

end Table

/-! ### Records -/

/-- A record of some data file. -/
abbrev Entry := Σ f : DataFile, f.schema.Record

namespace Entry

/-- The row for the name table. -/
def name? : Entry → Option NameRow
  | ⟨.movies, r⟩ => let m := MovieRow.ofRecord r; some ⟨m.atom, m.title⟩
  | ⟨.tvshows, r⟩ => let t := TvshowRow.ofRecord r; some ⟨t.atom, t.title⟩
  | ⟨.episodes, r⟩ => let e := EpisodeRow.ofRecord r; some ⟨e.atom, e.title⟩
  | ⟨.actors, r⟩ => let a := ActorRow.ofRecord r; some ⟨a.atom, a.fullName⟩
  | _ => none

/-- The row for the movie table. -/
def movie? : Entry → Option MovieRow
  | ⟨.movies, r⟩ => some (.ofRecord r)
  | _ => none

/-- The row for the TV show table. -/
def tvshow? : Entry → Option TvshowRow
  | ⟨.tvshows, r⟩ => some (.ofRecord r)
  | _ => none

/-- The row for the episode table. -/
def episode? : Entry → Option EpisodeRow
  | ⟨.episodes, r⟩ => some (.ofRecord r)
  | _ => none

/-- The row for the actor table. -/
def actor? : Entry → Option ActorRow
  | ⟨.actors, r⟩ => some (.ofRecord r)
  | _ => none

/-- The row for the rating table. -/
def rating? : Entry → Option RatingRow
  | ⟨.ratings, r⟩ => some (.ofRecord r)
  | _ => none

/-- The row for the credit table. -/
def credit? : Entry → Option CreditRow
  | ⟨.credits, r⟩ => some (.ofRecord r)
  | _ => none

end Entry

namespace Catalog

/-- The catalogue with records put into it, one after the other. -/
def enterAll (c : Catalog) (es : List Entry) : Catalog :=
  es.foldl (fun c e => c.put e.1 e.2) c

section

variable {ρ κ : Type} [DecidableEq κ] {key : ρ → κ} {table : Catalog → Table key}
  {row? : Entry → Option ρ}

/-- A table into which each record puts its row, if it has one for it, gets the rows of all
records. -/
theorem table_enterAll (h : ∀ c e, table (c.put e.1 e.2) = (table c).putAll (row? e).toList)
    (c : Catalog) (es : List Entry) :
    table (c.enterAll es) = (table c).putAll (es.filterMap row?) := by
  induction es generalizing c with
  | nil => rfl
  | cons e es ih =>
    have hstep : table (c.enterAll (e :: es)) = table ((c.put e.1 e.2).enterAll es) := rfl
    rw [hstep, ih, h, List.filterMap_cons]
    cases row? e <;> rfl

end

variable (c : Catalog) (es : List Entry)

theorem names_enterAll : (c.enterAll es).names = c.names.putAll (es.filterMap Entry.name?) :=
  table_enterAll (fun c ⟨f, r⟩ => by cases f <;> rfl) c es

theorem movies_enterAll : (c.enterAll es).movies = c.movies.putAll (es.filterMap Entry.movie?) :=
  table_enterAll (fun c ⟨f, r⟩ => by cases f <;> rfl) c es

theorem tvshows_enterAll :
    (c.enterAll es).tvshows = c.tvshows.putAll (es.filterMap Entry.tvshow?) :=
  table_enterAll (fun c ⟨f, r⟩ => by cases f <;> rfl) c es

theorem episodes_enterAll :
    (c.enterAll es).episodes = c.episodes.putAll (es.filterMap Entry.episode?) :=
  table_enterAll (fun c ⟨f, r⟩ => by cases f <;> rfl) c es

theorem actors_enterAll : (c.enterAll es).actors = c.actors.putAll (es.filterMap Entry.actor?) :=
  table_enterAll (fun c ⟨f, r⟩ => by cases f <;> rfl) c es

theorem ratings_enterAll :
    (c.enterAll es).ratings = c.ratings.putAll (es.filterMap Entry.rating?) :=
  table_enterAll (fun c ⟨f, r⟩ => by cases f <;> rfl) c es

theorem credits_enterAll :
    (c.enterAll es).credits = c.credits.putAll (es.filterMap Entry.credit?) :=
  table_enterAll (fun c ⟨f, r⟩ => by cases f <;> rfl) c es

/-- Entering the same records again changes nothing, in any of the tables. -/
theorem enterAll_enterAll : (c.enterAll es).enterAll es = c.enterAll es := by
  have hext : ∀ {c d : Catalog}, c.names = d.names → c.movies = d.movies → c.tvshows = d.tvshows →
      c.episodes = d.episodes → c.actors = d.actors → c.ratings = d.ratings →
      c.credits = d.credits → c = d := by
    rintro ⟨⟩ ⟨⟩ rfl rfl rfl rfl rfl rfl rfl
    rfl
  refine hext ?_ ?_ ?_ ?_ ?_ ?_ ?_
  · rw [names_enterAll, names_enterAll, Table.putAll_putAll]
  · rw [movies_enterAll, movies_enterAll, Table.putAll_putAll]
  · rw [tvshows_enterAll, tvshows_enterAll, Table.putAll_putAll]
  · rw [episodes_enterAll, episodes_enterAll, Table.putAll_putAll]
  · rw [actors_enterAll, actors_enterAll, Table.putAll_putAll]
  · rw [ratings_enterAll, ratings_enterAll, Table.putAll_putAll]
  · rw [credits_enterAll, credits_enterAll, Table.putAll_putAll]

end Catalog

end Filmography
