import Filmography.Data.Utf8

/-!
# Patterns

In a pattern `%` stands for any characters, also none, and `_` for any one character. Every other
character stands for itself, in either case if it is an ASCII letter. There is no way to escape a
wildcard.

Matching keeps one row of truth values, one for each suffix of the text, and works through the
pattern from its end, so its cost is the product of the two lengths. `Pattern.Denotes` says
declaratively which texts a pattern stands for, and `Pattern.accepts_iff` that matching decides it.
-/

namespace Filmography.Pattern

/-- The greatest count of bytes of a pattern. -/
def limit : Nat := 50000

/-- What matching sees of a text: it ends at the first null character, and the two code points
U+FFFE and U+FFFF, which are no characters, count as replacement characters. -/
def seen (t : Text) : Text :=
  (t.takeWhile (· ≠ '\x00')).map fun c =>
    if c = '\ufffe' || c = '\uffff' then '\ufffd' else c

/-- Whether two characters are the same, or the same ASCII letter in different case. -/
def sameLetter (c d : Char) : Bool :=
  c.toLower == d.toLower

/-- For each entry of a row, whether it or one after it is true. -/
def someFrom : List Bool → List Bool
  | [] => []
  | b :: bs =>
    let rest := someFrom bs
    (b || rest.headD false) :: rest

/-- For each suffix of a text, the longest first, whether a pattern stands for it. -/
def row : Text → Text → List Bool
  | [], t => t.map (fun _ => false) ++ [true]
  | c :: p, t =>
    let rest := row p t
    if c = '%' then someFrom rest
    else List.zipWith (fun d b => (c == '_' || sameLetter c d) && b) t rest.tail ++ [false]

/-- Whether a pattern stands for a text. -/
def accepts (p t : Text) : Bool :=
  (row p t).headD false

/-- The texts that a pattern stands for. -/
inductive Denotes : Text → Text → Prop where
  /-- The empty pattern stands for the empty text. -/
  | nil : Denotes [] []
  /-- A percent sign stands for any characters. -/
  | any (skipped : Text) {p t : Text} : Denotes p t → Denotes ('%' :: p) (skipped ++ t)
  /-- An underscore stands for one character. -/
  | one (d : Char) {p t : Text} : Denotes p t → Denotes ('_' :: p) (d :: t)
  /-- Any other character stands for itself, up to ASCII letter case. -/
  | same {c d : Char} {p t : Text} : c ≠ '%' → c ≠ '_' → sameLetter c d = true → Denotes p t →
      Denotes (c :: p) (d :: t)

theorem someFrom_ne_nil {bs : List Bool} (h : bs ≠ []) : someFrom bs ≠ [] := by
  cases bs with
  | nil => exact absurd rfl h
  | cons b bs => simp [someFrom]

theorem tail_someFrom (bs : List Bool) : (someFrom bs).tail = someFrom bs.tail := by
  cases bs <;> rfl

theorem row_ne_nil (p t : Text) : row p t ≠ [] := by
  induction p with
  | nil => simp [row]
  | cons c p ih =>
    rw [row]
    split
    · exact someFrom_ne_nil ih
    · simp

theorem row_eq (p t : Text) : row p t = accepts p t :: (row p t).tail := by
  rw [accepts]
  cases h : row p t with
  | nil => exact absurd h (row_ne_nil p t)
  | cons b bs => rfl

/-- Without its first entry, the row of a text is that of its longest proper suffix. -/
theorem tail_row_cons (p : Text) (d : Char) (t : Text) : (row p (d :: t)).tail = row p t := by
  induction p with
  | nil => simp [row]
  | cons c p ih =>
    rw [row, row]
    split
    · rw [tail_someFrom, ih]
    · rw [ih, row_eq p t, List.zipWith_cons_cons]
      rfl

theorem accepts_nil (t : Text) : accepts [] t = t.isEmpty := by
  cases t <;> rfl

theorem tail_row_nil (p : Text) : (row p []).tail = [] := by
  induction p with
  | nil => rfl
  | cons c p ih =>
    rw [row]
    split
    · rw [tail_someFrom, ih]
      rfl
    · rfl

theorem accepts_percent_nil (p : Text) : accepts ('%' :: p) [] = accepts p [] := by
  rw [accepts, row, if_pos rfl, row_eq p [], tail_row_nil]
  exact Bool.or_false _

theorem accepts_percent_cons (p : Text) (d : Char) (t : Text) :
    accepts ('%' :: p) (d :: t) = (accepts p (d :: t) || accepts ('%' :: p) t) := by
  rw [accepts, row, if_pos rfl, row_eq p (d :: t), tail_row_cons, someFrom, List.headD_cons]
  rw [accepts, accepts, row, if_pos rfl]

theorem accepts_cons_nil {c : Char} (hc : c ≠ '%') (p : Text) : accepts (c :: p) [] = false := by
  rw [accepts, row, if_neg hc]
  rfl

theorem accepts_cons_cons {c : Char} (hc : c ≠ '%') (p : Text) (d : Char) (t : Text) :
    accepts (c :: p) (d :: t) = ((c == '_' || sameLetter c d) && accepts p t) := by
  rw [accepts, row, if_neg hc, tail_row_cons, row_eq p t, List.zipWith_cons_cons]
  rfl

/-- A percent sign lets a pattern match after any characters. -/
theorem accepts_percent_iff {p t : Text} :
    accepts ('%' :: p) t = true ↔ ∃ skipped rest, t = skipped ++ rest ∧ accepts p rest = true := by
  induction t with
  | nil => simp [accepts_percent_nil, and_assoc]
  | cons c t ih =>
    rw [accepts_percent_cons, Bool.or_eq_true, ih]
    constructor
    · rintro (h | ⟨skipped, rest, rfl, h⟩)
      · exact ⟨[], c :: t, rfl, h⟩
      · exact ⟨c :: skipped, rest, rfl, h⟩
    · rintro ⟨skipped, rest, e, h⟩
      cases skipped with
      | nil => exact .inl (by rw [e]; exact h)
      | cons d skipped =>
        cases e
        exact .inr ⟨skipped, rest, rfl, h⟩

/-- Matching decides what a pattern stands for. -/
theorem accepts_iff {p t : Text} : accepts p t = true ↔ Denotes p t := by
  induction p generalizing t with
  | nil =>
    rw [accepts_nil, List.isEmpty_iff]
    exact ⟨fun h => h ▸ .nil, fun h => by cases h; rfl⟩
  | cons c p ih =>
    by_cases hc : c = '%'
    · subst hc
      rw [accepts_percent_iff]
      constructor
      · rintro ⟨skipped, rest, rfl, h⟩
        exact .any skipped (ih.1 h)
      · intro h
        cases h with
        | any skipped h => exact ⟨skipped, _, rfl, ih.2 h⟩
        | same h => exact absurd rfl h
    · cases t with
      | nil =>
        refine ⟨fun h => by simp [accepts_cons_nil hc] at h, fun h => ?_⟩
        generalize hx : c :: p = x at h
        generalize hy : ([] : Text) = y at h
        cases h with
        | nil => cases hx
        | any skipped h => exact absurd (List.cons.inj hx).1 hc
        | one d h => cases hy
        | same h1 h2 h3 h4 => cases hy
      | cons d t =>
        simp only [accepts_cons_cons hc, Bool.and_eq_true, Bool.or_eq_true, beq_iff_eq, ih]
        constructor
        · rintro ⟨h | h, ht⟩
          · subst h
            exact .one d ht
          · by_cases hu : c = '_'
            · subst hu
              exact .one d ht
            · exact .same hc hu h ht
        · intro h
          generalize hx : c :: p = x at h
          generalize hy : d :: t = y at h
          cases h with
          | nil => cases hx
          | any skipped h => exact absurd (List.cons.inj hx).1 hc
          | one d' h =>
            cases hx
            cases hy
            exact ⟨.inl rfl, h⟩
          | same h1 h2 h3 h4 =>
            cases hx
            cases hy
            exact ⟨.inr h3, h4⟩

end Filmography.Pattern
