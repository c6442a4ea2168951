import Mathlib.Algebra.Order.Ring.Cast
import Mathlib.Algebra.Order.Ring.Rat
import Mathlib.Order.Compare
import Filmography.Proofs.Search.Meaning
import Filmography.Proofs.Text.ByteOrder

/-!
# The order that sort keys ask for

A sort key orders pairs of a name and a joined credit by what the tables hold for them: a **cell**
for each column, which is a number or the bytes of a text, or missing. Years, ranks and votes that
are missing count as zero; where a cell is missing, its pair comes last, whichever end is asked for
first. Of several keys, the first that tells two pairs apart decides. `SortKey.Precedes` says so
without rows and comparisons.

A statement compares its rows number by number and character by character. That is a total preorder
on rows, so its rows can be sorted, and on rows that are decoded it is the order of the cells.

* `SortKey.compareAll_rowOf_eq_lt_iff`: rows compare as the cells of their pairs precede;
* `SortKey.pairwise_mergeSort`: sorted rows are in order.
-/

namespace Filmography

/-! ### Cells -/

/-- What a column holds for a pair, as it counts for sorting. -/
inductive SortCell where
  /-- Nothing. -/
  | missing
  /-- A number. -/
  | number (x : Rat)
  /-- The bytes of a text. -/
  | text (bytes : Bytes)

namespace SortCell

/-- A cell is below another if its number is smaller, or its bytes come first. -/
def Below : SortCell → SortCell → Prop
  | number x, number y => x < y
  | text a, text b => a < b
  | _, _ => False

/-- The cell for an integer that may be missing. -/
def ofInt? (v : Option Int) : SortCell :=
  (v.map fun n : Int => number n).getD missing

end SortCell

/-- What a column holds for a name and the credit that it is joined with. `measured` is the text
that names are compared with by similarity, if they are. -/
def Catalog.sortCell (c : Catalog) (measured : Option Text) (n : NameRow)
    (credit : Option CreditRow) : SortColumn → SortCell
  | .entity =>
    ((Kind.all.find? (c.has · n.atom)).map fun k => .text (Utf8.encode k.name)).getD .missing
  | .id => .number n.atom
  | .name => .text (Utf8.encode n.name)
  | .year => .number ((c.knownYear? n.atom).getD 0 : Int)
  | .similarity => .number ((measured.map fun t => similarity n.name t).getD (-1))
  | .rank => .number (((c.ratings.find? n.atom).map (·.rank)).getD 0 : Int)
  | .votes => .number (((c.ratings.find? n.atom).map (·.votes)).getD 0 : Int)
  | .season => .ofInt? ((c.episodes.find? n.atom).bind (·.season))
  | .episode => .ofInt? ((c.episodes.find? n.atom).bind (·.number))
  | .billing => .ofInt? (credit.bind (·.position))

/-- A cell comes before another in a direction. What is missing comes last in both. -/
def Direction.Before (d : Direction) : SortCell → SortCell → Prop
  | .missing, _ => False
  | _, .missing => True
  | a, b =>
    match d with
    | .asc => a.Below b
    | .desc => b.Below a

/-- Cells precede others by sort keys, the first that tells them apart deciding. -/
def SortKey.Precedes : List SortKey → (SortColumn → SortCell) → (SortColumn → SortCell) → Prop
  | [], _, _ => False
  | k :: keys, f, g =>
    k.direction.Before (f k.column) (g k.column) ∨
      f k.column = g k.column ∧ Precedes keys f g

/-! ### Comparisons -/

/-- Comparing what is read off is a total preorder if comparing what it is read as is. -/
private theorem transCmp_on {α β : Type} {cmp : β → β → Ordering} (h : Std.TransCmp cmp)
    (f : α → β) : Std.TransCmp fun a b => cmp (f a) (f b) where
  eq_swap := h.eq_swap
  isLE_trans := h.isLE_trans

namespace Row

theorem compareRatio_eq_compare (x y : Rat) : compareRatio x y = compare x y := by
  rcases lt_trichotomy x y with h | rfl | h
  · rw [compareRatio, if_pos h, compare_lt_iff_lt.mpr h]
  · simp [compareRatio]
  · rw [compareRatio, if_neg h.le.not_gt, if_pos h, compare_gt_iff_gt.mpr h]

theorem transCmp_compareRatio : Std.TransCmp compareRatio := by
  have h : compareRatio = compare := funext fun x => funext fun y => compareRatio_eq_compare x y
  rw [h]
  infer_instance

/-- Putting what is missing last keeps a total preorder, in either direction. -/
theorem transCmp_directed {α : Type} {cmp : α → α → Ordering} (h : Std.TransCmp cmp)
    (d : Direction) : Std.TransCmp (directed d cmp) where
  eq_swap := by
    intro a b
    match a, b with
    | none, none => rfl
    | none, some _ => rfl
    | some _, none => rfl
    | some _, some _ =>
      cases d with
      | asc => exact h.eq_swap
      | desc => exact h.eq_swap
  isLE_trans := by
    intro a b c hab hbc
    match a, b, c with
    | _, none, none => exact hab
    | none, none, some _ => exact hbc
    | some _, none, some _ => cases hbc
    | none, some _, _ => cases hab
    | some _, some _, none => rfl
    | some _, some _, some _ =>
      cases d with
      | asc => exact h.isLE_trans hab hbc
      | desc => exact h.isLE_trans hbc hab

end Row

namespace SortKey

/-- Comparing rows by a sort key is a total preorder. -/
theorem transCmp_compare (k : SortKey) : Std.TransCmp k.compare := by
  obtain ⟨column, d⟩ := k
  have hnumber := Row.transCmp_directed (inferInstance : Std.TransOrd Int) d
  have htext := Row.transCmp_directed (inferInstance : Std.TransOrd Text) d
  have hratio := Row.transCmp_directed Row.transCmp_compareRatio d
  cases column with
  | entity => exact transCmp_on htext fun r : Row => r.joined.kind?.map Kind.name
  | id => exact transCmp_on hnumber fun r : Row => r.joined.id?
  | name => exact transCmp_on htext fun r : Row => some r.joined.name.name
  | year => exact transCmp_on hnumber fun r : Row => some (r.joined.year?.getD 0)
  | similarity => exact transCmp_on hratio fun r : Row => some (r.similarity.getD (-1))
  | rank => exact transCmp_on hnumber fun r : Row => some (r.joined.rank?.getD 0)
  | votes => exact transCmp_on hnumber fun r : Row => some (r.joined.votes?.getD 0)
  | season => exact transCmp_on hnumber fun r : Row => r.joined.season?
  | episode => exact transCmp_on hnumber fun r : Row => r.joined.number?
  | billing => exact transCmp_on hnumber fun r : Row => r.joined.position?

/-- Comparing rows by several sort keys is a total preorder. -/
theorem transCmp_compareAll (keys : List SortKey) : Std.TransCmp (compareAll keys) := by
  induction keys with
  | nil => exact { eq_swap := rfl, isLE_trans := fun _ _ => rfl }
  | cons k keys ih =>
    have hk := k.transCmp_compare
    exact inferInstanceAs (Std.TransCmp (compareLex k.compare (compareAll keys)))

/-- Sorted rows are in order: none comes after one that it compares below. -/
theorem pairwise_mergeSort (keys : List SortKey) (rows : List Row) :
    (rows.mergeSort fun a b => (compareAll keys a b).isLE).Pairwise fun a b =>
      compareAll keys b a ≠ .lt := by
  have h := transCmp_compareAll keys
  have htrans : ∀ a b c, (compareAll keys a b).isLE = true → (compareAll keys b c).isLE = true →
      (compareAll keys a c).isLE = true := fun a b c => h.isLE_trans
  have hswap : ∀ a b, compareAll keys b a = (compareAll keys a b).swap := fun a b => h.eq_swap
  have htotal : ∀ a b, ((compareAll keys a b).isLE || (compareAll keys b a).isLE) = true := by
    intro a b
    rw [hswap a b]
    cases compareAll keys a b <;> rfl
  refine (List.pairwise_mergeSort htrans htotal rows).imp fun {a b} hab => ?_
  rw [hswap a b]
  cases hcmp : compareAll keys a b with
  | lt => decide
  | eq => decide
  | gt =>
    rw [hcmp] at hab
    cases hab

end SortKey

/-! ### Rows and cells -/

/-- Values compare as the cells for them do. -/
structure SortCell.Represents {α : Type} (cmp : α → α → Ordering) (f : α → SortCell) : Prop where
  /-- There is a cell for every value. -/
  ne_missing : ∀ a, f a ≠ .missing
  /-- The lesser value has the lower cell. -/
  below : ∀ a b, cmp a b = .lt ↔ (f a).Below (f b)
  /-- Equal values have the same cell. -/
  eq : ∀ a b, cmp a b = .eq ↔ f a = f b

namespace SortCell

theorem represents_number : Represents (compare : Int → Int → Ordering) fun n => number n where
  ne_missing := by simp
  below a b := by simp [Below, compare_lt_iff_lt]
  eq a b := by simp

theorem represents_ratio : Represents Row.compareRatio number where
  ne_missing := by simp
  below a b := by simp [Row.compareRatio_eq_compare, Below, compare_lt_iff_lt]
  eq a b := by simp [Row.compareRatio_eq_compare]

theorem represents_text :
    Represents (compare : Text → Text → Ordering) fun t => text (Utf8.encode t) where
  ne_missing := by simp
  below a b := by simp [Below, Utf8.encode_lt_encode_iff]
  eq a b := by simp [Utf8.encode_inj]

variable {α : Type} {cmp : α → α → Ordering} {f : α → SortCell}

/-- Values that may be missing compare in a direction as their cells do. -/
theorem Represents.directed_eq_lt_iff (h : Represents cmp f) (d : Direction) (a b : Option α) :
    Row.directed d cmp a b = .lt ↔
      d.Before ((a.map f).getD missing) ((b.map f).getD missing) := by
  cases a with
  | none => cases b <;> simp [Row.directed, Direction.Before]
  | some a =>
    -- the cell of a value is not missing, whatever it is
    have ha := h.ne_missing a
    cases b with
    | none => cases hfa : f a <;> simp_all [Row.directed, Direction.Before]
    | some b =>
      have hb := h.ne_missing b
      have hbefore : d.Before (f a) (f b) ↔
          match d with
          | .asc => (f a).Below (f b)
          | .desc => (f b).Below (f a) := by
        cases hfa : f a <;> cases hfb : f b <;> simp_all [Direction.Before]
      simp only [Option.map_some, Option.getD_some, hbefore]
      cases d with
      | asc => exact h.below a b
      | desc => exact h.below b a

theorem Represents.directed_eq_eq_iff (h : Represents cmp f) (d : Direction) (a b : Option α) :
    Row.directed d cmp a b = .eq ↔ (a.map f).getD missing = (b.map f).getD missing := by
  cases a with
  | none =>
    cases b with
    | none => simp [Row.directed]
    | some b => simp [Row.directed, (h.ne_missing b).symm]
  | some a =>
    cases b with
    | none => simp [Row.directed, h.ne_missing a]
    | some b =>
      cases d with
      | asc => exact h.eq a b
      | desc => exact (h.eq b a).trans eq_comm

end SortCell

namespace SortKey

/-- The row of a pair: the name, joined, and its similarity with the text that is compared. -/
def rowOf (c : Catalog) (measured : Option Text) (n : NameRow) (credit : Option CreditRow) : Row :=
  ⟨c.joinedName n credit, measured.map fun t => similarity n.name t⟩

/-- Comparing the rows of two pairs of some kind by a key tells how their cells are ordered. -/
theorem compare_rowOf (k : SortKey) {c : Catalog} (measured : Option Text) {n n' : NameRow}
    (credit credit' : Option CreditRow) (hn : ∃ kind, c.has kind n.atom = true)
    (hn' : ∃ kind, c.has kind n'.atom = true) :
    (k.compare (rowOf c measured n credit) (rowOf c measured n' credit') = .lt ↔
      k.direction.Before (c.sortCell measured n credit k.column)
        (c.sortCell measured n' credit' k.column)) ∧
    (k.compare (rowOf c measured n credit) (rowOf c measured n' credit') = .eq ↔
      c.sortCell measured n credit k.column = c.sortCell measured n' credit' k.column) := by
  obtain ⟨column, d⟩ := k
  have hid := Catalog.id?_joinedName credit hn
  have hid' := Catalog.id?_joinedName credit' hn'
  have hnumber (a b : Option Int) :=
    And.intro (SortCell.represents_number.directed_eq_lt_iff d a b)
      (SortCell.represents_number.directed_eq_eq_iff d a b)
  have hratio (a b : Option Rat) :=
    And.intro (SortCell.represents_ratio.directed_eq_lt_iff d a b)
      (SortCell.represents_ratio.directed_eq_eq_iff d a b)
  have htext (a b : Option Text) :=
    And.intro (SortCell.represents_text.directed_eq_lt_iff d a b)
      (SortCell.represents_text.directed_eq_eq_iff d a b)
  cases column with
  | entity =>
    have hkind (n : NameRow) (credit : Option CreditRow) :
        (c.joinedName n credit).kind? = Kind.all.find? (c.has · n.atom) :=
      congrArg (Kind.all.find? ·) (funext fun k => Catalog.isKind_joinedName c n credit k)
    simpa only [SortKey.compare, rowOf, hkind, Catalog.sortCell, Option.map_map, Function.comp_def]
      using htext ((Kind.all.find? (c.has · n.atom)).map Kind.name)
        ((Kind.all.find? (c.has · n'.atom)).map Kind.name)
  | id =>
    simpa only [SortKey.compare, rowOf, hid, hid', Catalog.sortCell, Option.map_some,
      Option.getD_some] using hnumber (some n.atom) (some n'.atom)
  | name => exact htext (some n.name) (some n'.name)
  | year =>
    simpa only [SortKey.compare, rowOf, Catalog.year?_joinedName, Catalog.sortCell, Option.map_some,
      Option.getD_some] using hnumber (some _) (some _)
  | similarity => exact hratio (some _) (some _)
  | rank => exact hnumber (some _) (some _)
  | votes => exact hnumber (some _) (some _)
  | season => exact hnumber (c.joinedName n credit).season? (c.joinedName n' credit').season?
  | episode => exact hnumber (c.joinedName n credit).number? (c.joinedName n' credit').number?
  | billing => exact hnumber (c.joinedName n credit).position? (c.joinedName n' credit').position?

/-- Rows of pairs of some kind compare by several keys as their cells precede each other. -/
theorem compareAll_rowOf_eq_lt_iff (keys : List SortKey) {c : Catalog} (measured : Option Text)
    {n n' : NameRow} (credit credit' : Option CreditRow) (hn : ∃ kind, c.has kind n.atom = true)
    (hn' : ∃ kind, c.has kind n'.atom = true) :
    compareAll keys (rowOf c measured n credit) (rowOf c measured n' credit') = .lt ↔
      Precedes keys (c.sortCell measured n credit) (c.sortCell measured n' credit') := by
  induction keys with
  | nil => simp [compareAll, Precedes]
  | cons k keys ih =>
    obtain ⟨hlt, heq⟩ := k.compare_rowOf measured credit credit' hn hn'
    show (k.compare _ _).then (compareAll keys _ _) = .lt ↔ _
    rw [Ordering.then_eq_lt, hlt, heq, ih, Precedes]

end SortKey

end Filmography
