import Filmography.Disk.Path
import Filmography.Proofs.Text.Trimming

/-!
# Following paths

The way to a file is made in one manner and followed in another. Directories are made along the
names of the path to the directory that holds the file, which is a path in its own right; and the
file is reached by following the pieces of the path between slashes. Both come to the same, since
what the two differ in leads nowhere: pieces without characters, and single dots.

* `Disk.locate_eq_ok_iff`: a path that ends in a name leads to its place exactly if its other pieces
  pass through directories;
* `Path.exists_parent`: the path to the directory that holds a file goes the same way;
* `Disk.passes_makeDirectories`: directories that were made can be passed through.
-/

namespace Filmography

/-- A place to which paths can lead: the names on the way have characters. -/
def Place.IsProper (place : Place) : Prop :=
  [] ∉ place

namespace Path

/-! ### Pieces -/

/-- A piece of a path that names something in the directory to which the pieces before it lead. -/
structure IsName (piece : Text) : Prop where
  /-- It does not lead nowhere. -/
  busy : isIdle piece = false
  /-- It does not lead back. -/
  forward : piece ≠ ['.', '.']

/-- A path that ends in a name has characters. -/
theorem ne_nil_of_isName {p : Path} {pieces : List Text} {last : Text}
    (hpieces : Text.splitOn '/' p = pieces ++ [last]) (hlast : IsName last) : p ≠ [] := by
  rintro rfl
  obtain ⟨-, hnil⟩ := List.append_inj' (hpieces.symm.trans (List.nil_append [[]]).symm) rfl
  have hidle : isIdle last = true := by rw [(List.cons.inj hnil).1]; rfl
  rw [hlast.busy] at hidle
  cases hidle

/-- The pieces that lead somewhere. -/
def busy (pieces : List Text) : List Text :=
  pieces.filter fun piece => !isIdle piece

theorem step_of_isIdle {piece : Text} (h : isIdle piece = true) (place : Place) :
    step place piece = place :=
  if_pos h

theorem step_of_isName {name : Text} (h : IsName name) (place : Place) :
    step place name = place ++ [name] := by
  rw [step, if_neg (by rw [h.busy]; exact Bool.false_ne_true), if_neg h.forward]

theorem isProper_step {place : Place} (h : place.IsProper) (piece : Text) :
    (step place piece).IsProper := by
  rw [step]
  split
  · exact h
  · rename_i hbusy
    split
    · exact fun hmem => h ((List.dropLast_sublist place).mem hmem)
    · intro hmem
      rcases List.mem_append.mp hmem with hmem | hmem
      · exact h hmem
      · rw [← List.mem_singleton.mp hmem] at hbusy
        exact hbusy rfl

theorem isProper_start {current : Place} (h : current.IsProper) (p : Path) :
    (p.start current).IsProper := by
  rw [start]
  split
  · exact List.not_mem_nil
  · exact h

theorem foldl_step_busy (pieces : List Text) (place : Place) :
    (busy pieces).foldl step place = pieces.foldl step place := by
  induction pieces generalizing place with
  | nil => rfl
  | cons piece pieces ih =>
    rw [busy, List.filter_cons, List.foldl_cons]
    cases h : isIdle piece with
    | true =>
      rw [step_of_isIdle h]
      exact ih place
    | false => exact ih (step place piece)

theorem busy_names (p : Path) : busy p.names = busy (Text.splitOn '/' p) := by
  rw [busy, names, List.filter_filter]
  refine List.filter_congr fun piece _ => ?_
  rcases piece with _ | ⟨c, t⟩
  · rfl
  · simp

/-- The place of a path is where all its pieces lead. -/
theorem place_eq (current : Place) (p : Path) :
    p.place current = (Text.splitOn '/' p).foldl step (p.start current) := by
  rw [place, ← foldl_step_busy, busy_names, foldl_step_busy]

theorem busy_trimmed (pieces : List Text) : busy (trimmed pieces) = busy pieces := by
  have hdrop : ∀ rest : List Text, busy (rest.dropWhile isIdle) = busy rest := by
    intro rest
    induction rest with
    | nil => rfl
    | cons piece rest ih =>
      cases h : isIdle piece with
      | true => rw [List.dropWhile_cons_of_pos h, ih, busy, busy, List.filter_cons, h]; rfl
      | false => rw [List.dropWhile_cons_of_neg (by rw [h]; exact Bool.false_ne_true)]
  rw [trimmed, busy, List.filter_reverse]
  refine (congrArg List.reverse (hdrop pieces.reverse)).trans ?_
  rw [busy, List.filter_reverse, List.reverse_reverse, busy]

theorem trimmed_concat (pieces : List Text) {name : Text} (h : IsName name) :
    trimmed (pieces ++ [name]) = pieces ++ [name] := by
  rw [trimmed, List.reverse_concat,
    List.dropWhile_cons_of_neg (by rw [h.busy]; exact Bool.false_ne_true), List.reverse_cons,
    List.reverse_reverse]

theorem mem_of_mem_trimmed {pieces : List Text} {piece : Text} (h : piece ∈ trimmed pieces) :
    piece ∈ pieces :=
  List.mem_reverse.mp ((List.dropWhile_sublist _).mem (List.mem_reverse.mp h))

/-- A path starts from the root if its first piece is empty, and not its only one. -/
theorem isAbsolute_eq {p : Path} {first : Text} {rest : List Text}
    (h : Text.splitOn '/' p = first :: rest) :
    p.isAbsolute = (first.isEmpty && !rest.isEmpty) := by
  rcases p with _ | ⟨c, t⟩
  · cases h
    rfl
  · rw [Text.splitOn] at h
    split at h
    · rename_i hc
      obtain ⟨rfl, rfl⟩ := List.cons.inj h
      have hrest : (Text.splitOn '/' t).isEmpty = false := by
        rw [Text.splitOn_eq, List.isEmpty_eq_false_iff]
        exact List.splitOn_ne_nil _ _
      rw [hrest, isAbsolute, List.head?_cons, hc]
      rfl
    · rename_i hc
      have hfirst : first.isEmpty = false := by
        split at h
        · exact (List.cons.inj h).1 ▸ rfl
        · exact (List.cons.inj h).1 ▸ rfl
      rw [hfirst, isAbsolute, List.head?_cons]
      simpa using hc

/-! ### The path to the directory -/

variable {p : Path} {first last : Text} {more : List Text}

/-- A path that is a single name leads to something in the directory from which it starts. -/
theorem parent?_of_single (hpieces : Text.splitOn '/' p = [last]) (hlast : IsName last) :
    p.parent? = some [] := by
  have hne : last ≠ [] := by
    rintro rfl
    exact absurd hlast.busy (by decide)
  simp only [parent?, hpieces, List.tail_cons, List.headD_cons]
  exact if_neg hne

/-- The path to the directory that holds what a path leads to goes the same way. -/
theorem exists_parent (hpieces : Text.splitOn '/' p = first :: (more ++ [last]))
    (hlast : IsName last) (current : Place) :
    ∃ parent, p.parent? = some parent ∧ parent ≠ [] ∧ parent.start current = p.start current ∧
      busy parent.names = busy (first :: more) := by
  have habsolute : p.isAbsolute = first.isEmpty := by
    rw [isAbsolute_eq hpieces]
    simp
  have hparent : p.parent? = if first = [] ∧ trimmed more = [] then some ['/']
      else some (Text.joined ['/'] (first :: trimmed more)) := by
    simp only [parent?, hpieces, List.tail_cons, List.headD_cons, trimmed_concat more hlast]
    split
    · rename_i hnil
      exact absurd hnil (by simp)
    · rw [List.dropLast_concat]
      split
      · rename_i hmore
        rw [if_pos ⟨rfl, hmore⟩]
      · rename_i hroot
        rw [if_neg fun h => hroot h.1 h.2]
  by_cases hroot : first = [] ∧ trimmed more = []
  · obtain ⟨rfl, hmore⟩ := hroot
    refine ⟨['/'], by rw [hparent, if_pos ⟨rfl, hmore⟩], List.cons_ne_nil _ _, ?_, ?_⟩
    · rw [start, start, habsolute]
      rfl
    · have hbusy : busy ([] :: more) = busy more := rfl
      rw [hbusy, ← busy_trimmed more, hmore]
      rfl
  · have hsplit : Text.splitOn '/' (Text.joined ['/'] (first :: trimmed more)) =
        first :: trimmed more := by
      rw [Text.splitOn_eq, Text.joined]
      refine List.splitOn_intercalate '/' (fun piece hpiece => ?_) (List.cons_ne_nil _ _)
      refine Text.not_mem_of_mem_splitOn (t := p) (hpieces ▸ ?_)
      rcases List.mem_cons.mp hpiece with rfl | hpiece
      · exact List.mem_cons_self ..
      · exact List.mem_cons_of_mem _ (List.mem_append_left _ (mem_of_mem_trimmed hpiece))
    refine ⟨Text.joined ['/'] (first :: trimmed more), ?_, ?_, ?_, ?_⟩
    · rw [hparent, if_neg hroot]
    · intro hnil
      rw [hnil] at hsplit
      obtain ⟨hfirst, hmore⟩ := List.cons.inj hsplit
      exact hroot ⟨hfirst.symm, hmore.symm⟩
    · rw [start, start, habsolute, isAbsolute_eq hsplit]
      cases hfirst : first.isEmpty with
      | false => rfl
      | true =>
        have hmore : trimmed more ≠ [] := fun hmore =>
          hroot ⟨List.isEmpty_iff.mp hfirst, hmore⟩
        rw [List.isEmpty_eq_false_iff.mpr hmore]
        rfl
    · rw [busy_names, hsplit, busy, List.filter_cons, busy, List.filter_cons]
      have htrimmed := busy_trimmed more
      rw [busy, busy] at htrimmed
      rw [htrimmed]

end Path

namespace Disk

open Filmography.Path

/-! ### Directories stay -/

/-- All directories to which paths can lead are on another disk, too. -/
def KeepsDirectories (d d' : Disk) : Prop :=
  ∀ place, place.IsProper → d.node? place = some .directory → d'.node? place = some .directory

/-- What is at a place stays there, or a directory is made where there is nothing. -/
def FurnishesAt (d d' : Disk) (place : Place) : Prop :=
  d'.node? place = d.node? place ∨ d.node? place = none ∧ d'.node? place = some .directory

/-- One disk comes from another by directories that are made where there is nothing. -/
def Furnishes (d d' : Disk) : Prop :=
  ∀ place, FurnishesAt d d' place

/-- One disk comes from another by something that concerns a single place. Directories stay, even
there, and at other places directories may have been made. -/
structure Alters (d d' : Disk) (place : Place) : Prop where
  /-- Directories stay. -/
  directories : KeepsDirectories d d'
  /-- Other places keep what they hold. -/
  others : ∀ q, q ≠ place → FurnishesAt d d' q

variable {d d' d'' : Disk} {place q target : Place}

theorem KeepsDirectories.trans (h : KeepsDirectories d d') (h' : KeepsDirectories d' d'') :
    KeepsDirectories d d'' :=
  fun place hplace hdirectory => h' place hplace (h place hplace hdirectory)

namespace FurnishesAt

theorem trans (h : FurnishesAt d d' q) (h' : FurnishesAt d' d'' q) : FurnishesAt d d'' q := by
  rcases h' with hsame | ⟨hnone, hmade⟩
  · rw [FurnishesAt, hsame]
    exact h
  · rcases h with hbefore | ⟨_, hbefore⟩
    · exact .inr ⟨hbefore ▸ hnone, hmade⟩
    · rw [hnone] at hbefore
      cases hbefore

theorem directory (h : FurnishesAt d d' q) (hq : d.node? q = some .directory) :
    d'.node? q = some .directory := by
  rcases h with hsame | ⟨hnone, _⟩
  · rw [hsame, hq]
  · rw [hq] at hnone
    cases hnone

theorem database? (h : FurnishesAt d d' q) : d'.database? q = d.database? q := by
  rcases h with hsame | ⟨hnone, hmade⟩
  · rw [Disk.database?, Disk.database?, hsame]
  · rw [Disk.database?, Disk.database?, hnone, hmade]

/-- No file comes from making directories. -/
theorem file {content : Bytes} (h : FurnishesAt d d' q)
    (hfile : d'.node? q = some (.file content)) : d.node? q = some (.file content) := by
  rcases h with hsame | ⟨-, hmade⟩
  · rw [← hsame, hfile]
  · rw [hmade] at hfile
    cases hfile

end FurnishesAt

theorem Furnishes.refl (d : Disk) : Furnishes d d :=
  fun _ => .inl rfl

theorem Furnishes.trans (h : Furnishes d d') (h' : Furnishes d' d'') : Furnishes d d'' :=
  fun q => (h q).trans (h' q)

theorem Furnishes.alters (h : Furnishes d d') (place : Place) : Alters d d' place :=
  ⟨fun q _ => (h q).directory, fun q _ => h q⟩

namespace Alters

theorem refl (d : Disk) (place : Place) : Alters d d place :=
  (Furnishes.refl d).alters place

/-- Putting something where no path leads to a directory concerns that place only. -/
theorem put (h : Alters d d' place) (hplace : place ≠ [])
    (hnode : place.IsProper → d'.node? place ≠ some .directory) (n : Node) :
    Alters d (d'.put place n) place := by
  refine ⟨fun q hproper hq => ?_, fun q hq => ?_⟩
  · have hkept := h.directories q hproper hq
    rw [node?_put d' hplace, if_neg (by rintro rfl; exact hnode hproper hkept), hkept]
  · rw [FurnishesAt, node?_put d' hplace, if_neg hq.symm]
    exact h.others q hq

/-- Removing something that is not a directory concerns its place only. -/
theorem remove (h : Alters d d' place) (hplace : place ≠ [])
    (hnode : d'.node? place ≠ some .directory) : Alters d (d'.remove place) place := by
  refine ⟨fun q hproper hq => ?_, fun q hq => ?_⟩
  · have hkept := h.directories q hproper hq
    rw [node?_remove d' hplace, if_neg (by rintro rfl; exact hnode hkept), hkept]
  · rw [FurnishesAt, node?_remove d' hplace, if_neg hq.symm]
    exact h.others q hq

end Alters

theorem ne_nil_of_node? {n : Node} (h : d.node? place = some n) (hn : n ≠ .directory) :
    place ≠ [] := by
  rintro rfl
  exact hn (Option.some.inj h).symm

/-! ### Passing through directories -/

/-- Names lead from one directory to the next. -/
def Passes (d : Disk) (place : Place) : List Text → Prop
  | [] => True
  | name :: rest =>
    Utf8.size name ≤ nameLimit ∧ d.node? (step place name) = some .directory ∧
      d.Passes (step place name) rest

variable {pieces : List Text} {last : Text}

theorem Passes.of_keepsDirectories (h : KeepsDirectories d d') (hplace : place.IsProper)
    (hpasses : d.Passes place pieces) : d'.Passes place pieces := by
  induction pieces generalizing place with
  | nil => trivial
  | cons name rest ih =>
    obtain ⟨hsize, hnode, hrest⟩ := hpasses
    have hstep := isProper_step hplace name
    exact ⟨hsize, h _ hstep hnode, ih hstep hrest⟩

/-- Where directories lead, there is a directory. -/
theorem Passes.node?_foldl (hpasses : d.Passes place pieces)
    (hplace : d.node? place = some .directory) :
    d.node? (pieces.foldl step place) = some .directory := by
  induction pieces generalizing place with
  | nil => exact hplace
  | cons name rest ih => exact ih hpasses.2.2 hpasses.2.1

/-- Pieces that lead nowhere do not stand in the way. -/
theorem passes_busy (hplace : d.node? place = some .directory) :
    d.Passes place (busy pieces) ↔ d.Passes place pieces := by
  induction pieces generalizing place with
  | nil => exact Iff.rfl
  | cons piece pieces ih =>
    rw [busy, List.filter_cons]
    cases hidle : isIdle piece with
    | true =>
      have hsize : Utf8.size piece ≤ nameLimit := by
        simp only [isIdle, Bool.or_eq_true, beq_iff_eq] at hidle
        rcases hidle with rfl | rfl
        · decide
        · decide
      rw [Passes, step_of_isIdle hidle]
      exact ⟨fun h => ⟨hsize, hplace, (ih hplace).mp h⟩, fun h => (ih hplace).mpr h.2.2⟩
    | false =>
      show d.Passes place (piece :: busy pieces) ↔ _
      rw [Passes, Passes]
      refine and_congr_right fun _ => and_congr_right fun hnode => ih hnode

theorem foldl_of_follow {names : List Text} (h : d.follow place names = .ok target) :
    names.foldl step place = target := by
  induction names generalizing place with
  | nil => exact Except.ok.inj h
  | cons name rest ih =>
    rw [follow] at h
    split at h
    · cases h
    · split at h
      · rename_i hrest
        rw [hrest]
        exact Except.ok.inj h
      · split at h
        · cases h
        · exact ih h
        · cases h

/-- A path leads to its place, if it leads anywhere. -/
theorem place_of_locate {current : Place} {p : Path} (h : d.locate current p = .ok target) :
    p.place current = target := by
  rw [locate] at h
  split at h
  · cases h
  · split at h
    · cases h
    · rw [place_eq]
      exact foldl_of_follow h

theorem follow_concat_eq_ok_iff :
    d.follow place (pieces ++ [last]) = .ok target ↔
      d.Passes place pieces ∧ Utf8.size last ≤ nameLimit ∧
        step (pieces.foldl step place) last = target := by
  induction pieces generalizing place with
  | nil =>
    rw [List.nil_append, follow]
    split
    · rename_i hsize
      exact iff_of_false (fun h => by cases h) fun h => absurd h.2.1 (Nat.not_le.mpr hsize)
    · rename_i hsize
      rw [if_pos rfl]
      simp [Passes, Nat.not_lt.mp hsize]
  | cons piece pieces ih =>
    rw [List.cons_append, follow, Passes, List.foldl_cons]
    split
    · rename_i hsize
      exact iff_of_false (fun h => by cases h) fun h => absurd h.1.1 (Nat.not_le.mpr hsize)
    · rename_i hsize
      rw [if_neg (by simp)]
      have hpiece := Nat.not_lt.mp hsize
      cases hnode : d.node? (step place piece) with
      | none => simp
      | some n =>
        cases n with
        | directory => simp [ih, hpiece]
        | file content => simp
        | database db => simp

/-- A path that ends in a name leads to its place, if the pieces before the name pass through
directories. -/
theorem locate_eq_ok_iff {current : Place} {p : Path}
    (hpieces : Text.splitOn '/' p = pieces ++ [last]) (hlast : IsName last) :
    d.locate current p = .ok target ↔
      p.fault? = none ∧ d.Passes (p.start current) pieces ∧ Utf8.size last ≤ nameLimit ∧
        pieces.foldl step (p.start current) ++ [last] = target := by
  have hne := ne_nil_of_isName hpieces hlast
  rw [locate]
  cases hfault : p.fault? with
  | some fault => simp
  | none => simp [hne, hpieces, follow_concat_eq_ok_iff, step_of_isName hlast]

/-! ### Making directories -/

/-- Directories are made where there is nothing. If that succeeds, they can be passed through. -/
theorem makeDirectoriesFrom_spec (d : Disk) (place : Place) (made : Bool) (names : List Text) :
    Furnishes d (d.makeDirectoriesFrom place made names).1 ∧
      ((d.makeDirectoriesFrom place made names).2 = .ok () →
        (d.makeDirectoriesFrom place made names).1.Passes place names) := by
  induction names generalizing d place made with
  | nil => exact ⟨.refl d, fun _ => trivial⟩
  | cons name rest ih =>
    rw [makeDirectoriesFrom]
    split
    · exact ⟨.refl d, fun h => by cases h⟩
    · rename_i hsize
      have hsize := Nat.not_lt.mp hsize
      split
      · rename_i hnone
        obtain ⟨hfurnishes, hpasses⟩ :=
          ih (d.put (step place name) .directory) (step place name) true
        have hne : step place name ≠ [] := by
          intro hroot
          rw [hroot] at hnone
          cases hnone
        have hput : Furnishes d (d.put (step place name) .directory) := by
          intro q
          rw [FurnishesAt, node?_put d hne]
          split
          · rename_i hq
            exact .inr ⟨hq ▸ hnone, rfl⟩
          · exact .inl rfl
        have hnode : (d.put (step place name) .directory).node? (step place name) =
            some .directory := by
          rw [node?_put d hne, if_pos rfl]
        exact ⟨hput.trans hfurnishes,
          fun h => ⟨hsize, (hfurnishes _).directory hnode, hpasses h⟩⟩
      · rename_i hdirectory
        obtain ⟨hfurnishes, hpasses⟩ := ih d (step place name) made
        exact ⟨hfurnishes,
          fun h => ⟨hsize, (hfurnishes _).directory hdirectory, hpasses h⟩⟩
      · exact ⟨.refl d, fun h => by cases h⟩

theorem furnishes_makeDirectories (d : Disk) (current : Place) (p : Path) :
    Furnishes d (d.makeDirectories current p).1 := by
  rw [makeDirectories]
  split
  · exact .refl d
  · exact (makeDirectoriesFrom_spec ..).1

theorem passes_makeDirectories {current : Place} {p : Path}
    (h : (d.makeDirectories current p).2 = .ok ()) :
    (d.makeDirectories current p).1.Passes (p.start current) p.names := by
  rw [makeDirectories] at h ⊢
  split at h
  · cases h
  · rename_i hfault
    exact (makeDirectoriesFrom_spec ..).2 h

end Disk

end Filmography
