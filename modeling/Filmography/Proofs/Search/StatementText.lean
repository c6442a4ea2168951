import Mathlib.Data.List.TakeWhile
import Filmography.Proofs.Text.Occurrences
import Filmography.Search.StatementText

/-!
# What the text of a statement refers to

The text of a statement refers to parameters by number, to columns by the names of the tables that
they are of, and to credits only if they are joined. What stands in the text is told from the
statement: the placeholders are those of the similarity, of the conditions and of the limit, and
nothing else in the text has a question mark.

* `Text.references`: the numbers after the question marks of a text;
* `Statement.references_text`: those in the text of a statement;
* `Statement.occurrences_join_text`: how often credits are joined;
* `Statement.occurrences_alias_text`: where credits are not joined, nothing refers to them but a
  condition on an end of a credit.
-/

namespace Filmography

/-! ### References -/

/-- What a text refers to: the digits after each question mark. -/
def Text.references : Text → List Text
  | [] => []
  | c :: t => if c = '?' then t.takeWhile Char.isDigit :: references t else references t

namespace Text

/-- Two parts of which the second does not go on with a number. -/
theorem references_append_of_head {a b : Text} (hb : ∀ c ∈ b.head?, c.isDigit = false) :
    references (a ++ b) = references a ++ references b := by
  have hnone : b.takeWhile Char.isDigit = [] := by
    rcases b with _ | ⟨c, b⟩
    · rfl
    · rw [List.takeWhile_cons, hb c rfl]
      rfl
  induction a with
  | nil => rfl
  | cons d a ih =>
    rw [List.cons_append, references, references, ih, List.takeWhile_append, hnone,
      List.append_nil]
    have hdigits : (if (a.takeWhile Char.isDigit).length = a.length then a
        else a.takeWhile Char.isDigit) = a.takeWhile Char.isDigit := by
      split
      · next hall =>
        exact ((List.takeWhile_prefix Char.isDigit).eq_of_length hall).symm
      · rfl
    rw [hdigits]
    split
    · rfl
    · rfl

theorem references_of_notMem {a : Text} (ha : '?' ∉ a) : references a = [] := by
  induction a with
  | nil => rfl
  | cons c a ih =>
    rw [List.mem_cons, not_or] at ha
    rw [references, if_neg (Ne.symm ha.1), ih ha.2]

/-- What comes before the first question mark does not count. -/
theorem references_append_of_notMem {a : Text} (ha : '?' ∉ a) (b : Text) :
    references (a ++ b) = references b := by
  induction a with
  | nil => rfl
  | cons c a ih =>
    rw [List.mem_cons, not_or] at ha
    rw [List.cons_append, references, if_neg (Ne.symm ha.1), ih ha.2]

theorem isDigit_of_mem_ofNat {n : Nat} {c : Char} (h : c ∈ ofNat n) : c.isDigit = true :=
  Nat.isDigit_of_mem_toDigits (by decide) (by decide) h

/-- Parts that are joined by something without question marks and not starting in a digit. -/
theorem references_joined {sep : Text} (hhead : ∃ c ∈ sep.head?, c.isDigit = false)
    (hsep : '?' ∉ sep) (ps : List Text) : references (joined sep ps) = ps.flatMap references := by
  induction ps with
  | nil => rfl
  | cons a ps ih =>
    rcases ps with _ | ⟨b, ps⟩
    · rw [joined, List.intercalate_singleton, List.flatMap_singleton]
    · obtain ⟨c, hc, hdigit⟩ := hhead
      have hrest : ∀ d ∈ (sep ++ joined sep (b :: ps)).head?, d.isDigit = false := by
        rw [List.head?_append, Option.mem_def.mp hc]
        rintro d ⟨⟩
        exact hdigit
      rw [joined_cons_cons, references_append_of_head hrest, references_append_of_notMem hsep, ih]
      rfl

end Text

/-- A placeholder refers to its number. -/
theorem references_placeholder (p : Nat) : (placeholder p).references = [Text.ofNat p] := by
  have hdigits : (Text.ofNat p).takeWhile Char.isDigit = Text.ofNat p := by
    rw [List.takeWhile_eq_self_iff]
    exact fun c hc => Text.isDigit_of_mem_ofNat hc
  have hnone : '?' ∉ Text.ofNat p := fun h => absurd (Text.isDigit_of_mem_ofNat h) (by decide)
  rw [placeholder, Text.references, if_pos rfl, hdigits, Text.references_of_notMem hnone]

/-! ### Marks -/

/-- The marks by which a text shows what it refers to: the question mark of a placeholder, the first
letter of the word that joins a table, and the name of the credits. -/
def marks : List Text := [['?'], ['J'], ['c', '.']]

theorem question_mem_marks : ['?'] ∈ marks :=
  List.mem_cons_self ..

/-- Characters that no mark has. -/
def separators : List Char := [' ', '\n', ',', '(', ')', '\'']

namespace Text

variable {w : Text}

theorem ne_nil_of_mem_marks : ∀ w ∈ marks, w ≠ [] := by
  decide

theorem notMem_of_occurrences {c : Char} {t : Text} (h : occurrences [c] t = 0) : c ∉ t := by
  intro hmem
  obtain ⟨before, after, rfl⟩ := List.append_of_mem hmem
  have hpos : 0 < occurrences [c] (before ++ c :: after) :=
    occurrences_pos_iff.mpr ⟨before, after, by simp⟩
  omega

theorem notMem_literal {c : Char} {l : List Char} (h : c ∉ l) : c ∉ (String.ofList l).toList := by
  rwa [String.toList_ofList]

/-- A literal is searched as the list of its characters. -/
theorem occurrences_literal (hw : w ∈ marks) {l : List Char}
    (hl : ∀ w ∈ marks, occurrences w l = 0) : occurrences w (String.ofList l).toList = 0 := by
  rw [String.toList_ofList]
  exact hl w hw

theorem notMem_of_mem_separators (hw : w ∈ marks) {c : Char} (hc : c ∈ separators) : c ∉ w := by
  intro hmem
  have hinter : w ∩ separators = [] := (by decide : ∀ w ∈ marks, w ∩ separators = []) w hw
  have hboth : c ∈ w ∩ separators := List.mem_inter_iff.mpr ⟨hmem, hc⟩
  rw [hinter] at hboth
  cases hboth

theorem occurrences_separator (hw : w ∈ marks) {c : Char} (hc : c ∈ separators) :
    occurrences w [c] = 0 := by
  obtain ⟨d, hd⟩ := List.exists_mem_of_ne_nil w (ne_nil_of_mem_marks w hw)
  refine occurrences_eq_zero_of_notMem hd fun hdc => ?_
  obtain rfl := List.mem_singleton.mp hdc
  exact notMem_of_mem_separators hw hc hd

/-- No mark goes across a separator. -/
theorem occurrences_append_eq_zero (hw : w ∈ marks) {a b : Text} {c : Char}
    (ha : occurrences w a = 0) (hb : occurrences w b = 0)
    (hcut : a.getLast? = some c ∨ b.head? = some c) (hc : c ∈ separators) :
    occurrences w (a ++ b) = 0 := by
  have hne : w ≠ [] := ne_nil_of_mem_marks w hw
  have hnot : c ∉ w := notMem_of_mem_separators hw hc
  rcases hcut with h | h
  · rw [occurrences_append_of_last hne ⟨c, h, hnot⟩, ha, hb]
  · rw [occurrences_append_of_head hne ⟨c, h, hnot⟩, ha, hb]

/-- A part between two others of which the one ends and the other starts in a separator. -/
theorem occurrences_enclosed (hw : w ∈ marks) {a b d : Text} (ha : occurrences w a = 0)
    (hb : occurrences w b = 0) (hd : occurrences w d = 0)
    (hlast : ∃ c ∈ separators, a.getLast? = some c)
    (hhead : ∃ c ∈ separators, d.head? = some c) : occurrences w (a ++ b ++ d) = 0 := by
  obtain ⟨c, hc, hlast⟩ := hlast
  obtain ⟨c', hc', hhead⟩ := hhead
  have hopen := occurrences_append_eq_zero hw ha hb (.inl hlast) hc
  exact occurrences_append_eq_zero hw hopen hd (.inr hhead) hc'

/-- Parts that are joined by something with separators at its ends. -/
theorem occurrences_joined_eq_zero (hw : w ∈ marks) {sep : Text} (hsep : occurrences w sep = 0)
    (hhead : ∃ c ∈ separators, sep.head? = some c)
    (hlast : ∃ c ∈ separators, sep.getLast? = some c) {ps : List Text}
    (hps : ∀ p ∈ ps, occurrences w p = 0) : occurrences w (joined sep ps) = 0 := by
  obtain ⟨c, hc, hhead⟩ := hhead
  obtain ⟨c', hc', hlast⟩ := hlast
  exact occurrences_joined (ne_nil_of_mem_marks w hw) ⟨c, hhead, notMem_of_mem_separators hw hc⟩
    ⟨c', hlast, notMem_of_mem_separators hw hc'⟩ hsep hps

end Text

/-! ### Columns and kinds -/

section

variable {w : Text}

theorem Kind.occurrences_test (hw : w ∈ marks) (k : Kind) : Text.occurrences w k.test = 0 := by
  have htest : k.test = k.alias ++ ".atom_id IS NOT NULL".toList := rfl
  rw [htest, String.toList_ofList]
  -- for all marks at once, so that there is something to decide
  revert w
  rcases k <;> decide

/-- A column of the credits refers to them only if they are joined. -/
theorem occurrences_creditColumn (hw : w ∈ marks) {join : Option CreditEnd}
    (h : w = ['c', '.'] → join = none) {name : String}
    (hname : Text.occurrences w name.toList = 0) :
    Text.occurrences w (creditColumn join name) = 0 := by
  cases join with
  | none => exact Text.occurrences_literal hw (by decide)
  | some e =>
    -- what is left has no full stop, and the name of the column starts after one
    have hne : w ≠ ['c', '.'] := fun hc => Option.some_ne_none e (h hc)
    have halias : Text.occurrences w ['c', '.'] = 0 :=
      (by decide : ∀ w ∈ marks, w ≠ ['c', '.'] → Text.occurrences w ['c', '.'] = 0) w hw hne
    have hdot : '.' ∉ w := (by decide : ∀ w ∈ marks, w ≠ ['c', '.'] → '.' ∉ w) w hw hne
    have hnil : w ≠ [] := Text.ne_nil_of_mem_marks w hw
    show Text.occurrences w ("c.".toList ++ name.toList) = 0
    rw [String.toList_ofList, Text.occurrences_append_of_last hnil ⟨'.', rfl, hdot⟩, halias, hname]

/-- A column in a condition refers to the credits only if it is the media or the actor of one, or if
credits are joined. -/
theorem Column.occurrences_text (hw : w ∈ marks) {join : Option CreditEnd} {column : Column}
    (h : w = ['c', '.'] → join = none ∧ column ≠ .creditMedia ∧ column ≠ .creditActor) :
    Text.occurrences w (column.text join) = 0 := by
  -- the two ends of a credit are called so whatever is joined
  have hend {l : List Char} (hne : w ≠ ['c', '.'])
      (hl : ∀ w ∈ marks, w ≠ ['c', '.'] → Text.occurrences w l = 0) :
      Text.occurrences w (String.ofList l).toList = 0 := by
    rw [String.toList_ofList]
    exact hl w hw hne
  cases column with
  | creditMedia => exact hend (fun hc => (h hc).2.1 rfl) (by decide)
  | creditActor => exact hend (fun hc => (h hc).2.2 rfl) (by decide)
  | position =>
    exact occurrences_creditColumn hw (fun hc => (h hc).1) (Text.occurrences_literal hw (by decide))
  | tvshow | year | rank | votes | season | number =>
    exact Text.occurrences_literal hw (by decide)

end

/-! ### Conditions -/

/-- The placeholders of a condition, in the order in which they are written. -/
def Condition.placeholders : Condition → List Nat
  | always | never | ofKinds _ | notTv | notVideo => []
  | equal _ p | atLeast _ p | atMost _ p | nameIs p | nameLike p => [p]
  | between _ p q | similar p q => [p, q]

/-- The column that a condition compares with numbers. -/
def Condition.column? : Condition → Option Column
  | equal column _ | atLeast column _ | atMost column _ | between column _ _ => some column
  | always | never | ofKinds _ | notTv | notVideo | nameIs _ | nameLike _ | similar _ _ => none

/-- What stands between the two sides of a comparison is set off by blanks, and has no mark. -/
structure IsOperator (operator : String) : Prop where
  /-- It starts in a blank. -/
  head : operator.toList.head? = some ' '
  /-- It ends in a blank. -/
  last : operator.toList.getLast? = some ' '
  /-- It has no mark. -/
  marks : ∀ w ∈ marks, Text.occurrences w operator.toList = 0

theorem isOperator_literal {l : List Char} (hhead : l.head? = some ' ')
    (hlast : l.getLast? = some ' ') (hl : ∀ w ∈ marks, Text.occurrences w l = 0) :
    IsOperator (String.ofList l) := by
  refine ⟨?_, ?_, fun w hw => Text.occurrences_literal hw hl⟩
  · rwa [String.toList_ofList]
  · rwa [String.toList_ofList]

/-- The operators of comparisons. -/
theorem isOperator : ∀ operator ∈ [" = ", " >= ", " <= ", " BETWEEN ", " AND ", " LIKE "],
    IsOperator operator := by
  simp only [List.forall_mem_cons]
  exact ⟨isOperator_literal rfl rfl (by decide), isOperator_literal rfl rfl (by decide),
    isOperator_literal rfl rfl (by decide), isOperator_literal rfl rfl (by decide),
    isOperator_literal rfl rfl (by decide), isOperator_literal rfl rfl (by decide), nofun⟩

/-- A comparison refers to what its left side refers to, and to a number. -/
theorem references_comparison {operator : String} (ho : IsOperator operator) (left : Text)
    (p : Nat) : (comparison left operator p).references = left.references ++ [Text.ofNat p] := by
  have hnone : '?' ∉ operator.toList :=
    Text.notMem_of_occurrences (ho.marks _ (List.mem_cons_self ..))
  have hhead : ∀ c ∈ (operator.toList ++ placeholder p).head?, c.isDigit = false := by
    rw [List.head?_append, ho.head]
    rintro c ⟨⟩
    rfl
  rw [comparison, List.append_assoc, Text.references_append_of_head hhead,
    Text.references_append_of_notMem hnone, references_placeholder]

/-- A question mark and a number are no mark but the first. -/
theorem occurrences_placeholder {w : Text} (hw : w ∈ marks) (hne : w ≠ ['?']) (p : Nat) :
    Text.occurrences w (placeholder p) = 0 := by
  have hany : w.any (fun c => c != '?' && !c.isDigit) = true :=
    (by decide : ∀ w ∈ marks, w ≠ ['?'] → w.any (fun c => c != '?' && !c.isDigit) = true) w hw hne
  obtain ⟨c, hc, hother⟩ := List.any_eq_true.mp hany
  refine Text.occurrences_eq_zero_of_notMem hc fun hmem => ?_
  rcases List.mem_cons.mp hmem with rfl | hmem
  · exact absurd hother (by decide)
  · rw [Text.isDigit_of_mem_ofNat hmem, Bool.not_true, Bool.and_false] at hother
    cases hother

theorem occurrences_comparison {w : Text} (hw : w ∈ marks) (hne : w ≠ ['?']) {operator : String}
    (ho : IsOperator operator) {left : Text} (hleft : Text.occurrences w left = 0) (p : Nat) :
    Text.occurrences w (comparison left operator p) = 0 := by
  have hoperator : Text.occurrences w (left ++ operator.toList) = 0 :=
    Text.occurrences_append_eq_zero hw hleft (ho.marks w hw) (.inr ho.head) (by decide)
  have hlast : (left ++ operator.toList).getLast? = some ' ' := by
    rw [List.getLast?_append, ho.last]
    rfl
  exact Text.occurrences_append_eq_zero hw hoperator (occurrences_placeholder hw hne p)
    (.inl hlast) (by decide)

theorem references_similarityText (p : Nat) :
    (similarityText p).references = [Text.ofNat p] := by
  have htext : similarityText p = "similarity(n.name, ".toList ++ placeholder p ++ [')'] := rfl
  have hclose : ∀ c ∈ [')'].head?, c.isDigit = false := by
    rintro c ⟨⟩
    rfl
  rw [htext, String.toList_ofList, Text.references_append_of_head hclose,
    Text.references_append_of_notMem (by decide), references_placeholder]
  rfl

theorem occurrences_similarityText {w : Text} (hw : w ∈ marks) (hne : w ≠ ['?']) (p : Nat) :
    Text.occurrences w (similarityText p) = 0 := by
  have hopen : Text.occurrences w "similarity(n.name, ".toList = 0 :=
    Text.occurrences_literal hw (by decide)
  exact Text.occurrences_enclosed hw hopen (occurrences_placeholder hw hne p)
    (Text.occurrences_separator hw (by decide)) ⟨' ', by decide, rfl⟩ ⟨')', by decide, rfl⟩

theorem occurrences_kinds {w : Text} (hw : w ∈ marks) (join : Option CreditEnd)
    (kinds : List Kind) : Text.occurrences w ((Condition.ofKinds kinds).text join) = 0 := by
  have htests : ∀ t ∈ kinds.map Kind.test, Text.occurrences w t = 0 := by
    intro t ht
    obtain ⟨k, -, rfl⟩ := List.mem_map.mp ht
    exact k.occurrences_test hw
  have hjoined : Text.occurrences w (Text.joined " OR ".toList (kinds.map Kind.test)) = 0 :=
    Text.occurrences_joined_eq_zero hw (Text.occurrences_literal hw (by decide))
      ⟨' ', by decide, rfl⟩ ⟨' ', by decide, rfl⟩ htests
  exact Text.occurrences_enclosed (a := ['(']) hw (Text.occurrences_separator hw (by decide))
    hjoined (Text.occurrences_separator hw (by decide)) ⟨'(', by decide, rfl⟩
    ⟨')', by decide, rfl⟩

/-- A condition refers to its placeholders. -/
theorem Condition.references_text (join : Option CreditEnd) (k : Condition) :
    (k.text join).references = k.placeholders.map Text.ofNat := by
  have hplain {t : Text} (ht : Text.occurrences ['?'] t = 0) : t.references = [] :=
    Text.references_of_notMem (Text.notMem_of_occurrences ht)
  have hcolumn (column : Column) : (column.text join).references = [] :=
    hplain (column.occurrences_text question_mem_marks fun h => absurd h (by decide))
  have hcompare {left : Text} (hleft : left.references = []) {operator : String}
      (ho : IsOperator operator) (p : Nat) :
      (comparison left operator p).references = [Text.ofNat p] := by
    rw [references_comparison ho, hleft, List.nil_append]
  have hname : Text.references "n.name".toList = [] :=
    hplain (Text.occurrences_literal question_mem_marks (by decide))
  cases k with
  | ofKinds kinds => exact hplain (occurrences_kinds question_mem_marks join kinds)
  | equal column p | atLeast column p | atMost column p =>
    exact hcompare (hcolumn column) (isOperator _ (by simp)) p
  | between column p q =>
    exact (references_comparison (isOperator _ (by simp)) _ q).trans
      (congrArg (· ++ [Text.ofNat q]) (hcompare (hcolumn column) (isOperator _ (by simp)) p))
  | nameIs p | nameLike p => exact hcompare hname (isOperator _ (by simp)) p
  | similar p q =>
    exact (references_comparison (isOperator _ (by simp)) _ q).trans
      (congrArg (· ++ [Text.ofNat q]) (references_similarityText p))
  | always | never | notTv | notVideo =>
    exact hplain (Text.occurrences_literal question_mem_marks (by decide))

/-- Where no end of a credit is compared with anything, a condition has no mark but the
placeholders. -/
theorem Condition.occurrences_text {w : Text} (hw : w ∈ marks) (hne : w ≠ ['?'])
    {join : Option CreditEnd} {k : Condition}
    (h : ∀ column ∈ k.column?, Text.occurrences w (column.text join) = 0) :
    Text.occurrences w (k.text join) = 0 := by
  have hname : Text.occurrences w "n.name".toList = 0 := Text.occurrences_literal hw (by decide)
  have hcompare {left : Text} (hleft : Text.occurrences w left = 0) {operator : String}
      (ho : IsOperator operator) (p : Nat) : Text.occurrences w (comparison left operator p) = 0 :=
    occurrences_comparison hw hne ho hleft p
  cases k with
  | ofKinds kinds => exact occurrences_kinds hw join kinds
  | equal column p | atLeast column p | atMost column p =>
    exact hcompare (h column rfl) (isOperator _ (by simp)) p
  | between column p q =>
    exact hcompare (hcompare (h column rfl) (isOperator _ (by simp)) p) (isOperator _ (by simp)) q
  | nameIs p | nameLike p => exact hcompare hname (isOperator _ (by simp)) p
  | similar p q =>
    exact hcompare (occurrences_similarityText hw hne p) (isOperator _ (by simp)) q
  | always | never | notTv | notVideo => exact Text.occurrences_literal hw (by decide)

/-! ### The parts of a text -/

namespace Statement

variable {ν : Type}

/-- A line for a column that is selected. -/
def columnLine (x : Text × String) : Text :=
  "  ".toList ++ x.1 ++ " AS ".toList ++ x.2.toList

/-- The text of a statement up to the tables: what is selected. -/
def selection (s : Statement ν) : Text :=
  "SELECT\n".toList ++ Text.joined ",\n".toList (s.selected.map columnLine)

/-- The text of the conditions. -/
def filter (s : Statement ν) : Text :=
  "WHERE ".toList ++ Text.joined "\n  AND ".toList (s.conditions.map (Condition.text s.join)) ++
    ['\n']

/-- The text of the order. -/
def orderText (s : Statement ν) : Text :=
  if s.order = [] then []
  else "ORDER BY ".toList ++ Text.joined ", ".toList (s.order.map SortKey.text) ++ ['\n']

/-- The text of the limit. -/
def limitText (s : Statement ν) : Text :=
  match s.limit with
  | none => []
  | some p => "LIMIT ".toList ++ placeholder p ++ ['\n']

theorem text_eq (s : Statement ν) :
    s.text = s.selection ++ ('\n' :: s.joins ++ (s.filter ++ (s.orderText ++ s.limitText))) := by
  have hassoc (a b c d e f g h : Text) : a ++ b ++ c ++ d ++ e ++ f ++ g ++ h =
      (a ++ b) ++ (c ++ ((d ++ e ++ f) ++ (g ++ h))) := by simp only [List.append_assoc]
  exact hassoc ..

/-- The statement that selects everything, with credits joined at an end or not joined. -/
def bare (join : Option CreditEnd) : Statement ν :=
  ⟨.exact, none, join, [], [], none, []⟩

/-- Apart from the similarity, what is selected depends on the joined credits only. -/
theorem selected_eq (s : Statement ν) : s.selected =
    match s.measured with
    | none => (bare s.join : Statement ν).selected
    | some p => (bare s.join : Statement ν).selected.set 4 (similarityText p, "similarity") := by
  obtain ⟨strategy, measured, join, conditions, order, limit, params⟩ := s
  cases measured <;> rfl

/-- The name of a kind in quotation marks, where its table has the atom. -/
theorem occurrences_case {w : Text} (hw : w ∈ marks) (k : Kind) :
    Text.occurrences w ("WHEN ".toList ++ k.test ++ " THEN '".toList ++ k.name ++ ['\'']) = 0 := by
  have hname : Text.occurrences w k.name = 0 := by
    rcases k <;> exact Text.occurrences_literal hw (by decide)
  have hthen : Text.occurrences w ("WHEN ".toList ++ k.test ++ " THEN '".toList) = 0 :=
    Text.occurrences_enclosed hw (Text.occurrences_literal hw (by decide)) (k.occurrences_test hw)
      (Text.occurrences_literal hw (by decide)) ⟨' ', by decide, rfl⟩ ⟨' ', by decide, rfl⟩
  have hlast : ("WHEN ".toList ++ k.test ++ " THEN '".toList).getLast? = some '\'' := by
    rw [List.getLast?_append]
    rfl
  exact Text.occurrences_enclosed hw hthen hname (Text.occurrences_separator hw (by decide))
    ⟨'\'', by decide, hlast⟩ ⟨'\'', by decide, rfl⟩

theorem occurrences_columnLine {w : Text} (hw : w ∈ marks) {x : Text × String}
    (hcolumn : Text.occurrences w x.1 = 0) (hname : Text.occurrences w x.2.toList = 0) :
    Text.occurrences w (columnLine x) = 0 := by
  have has : Text.occurrences w ("  ".toList ++ x.1 ++ " AS ".toList) = 0 :=
    Text.occurrences_enclosed hw (Text.occurrences_literal hw (by decide)) hcolumn
      (Text.occurrences_literal hw (by decide)) ⟨' ', by decide, rfl⟩ ⟨' ', by decide, rfl⟩
  have hlast : ("  ".toList ++ x.1 ++ " AS ".toList).getLast? = some ' ' := by
    rw [List.getLast?_append]
    rfl
  exact Text.occurrences_append_eq_zero hw has hname (.inl hlast) (by decide)

/-- What is selected apart from the similarity has no mark, if credits are joined or the mark is not
their name. -/
theorem occurrences_bare {w : Text} (hw : w ∈ marks) {join : Option CreditEnd}
    (h : w = ['c', '.'] → join = none) :
    ∀ x ∈ (bare join : Statement ν).selected, Text.occurrences w (columnLine x) = 0 := by
  have hfixed {l name : List Char} (hl : ∀ w ∈ marks, Text.occurrences w l = 0)
      (hname : ∀ w ∈ marks, Text.occurrences w name = 0) :
      Text.occurrences w (columnLine ((String.ofList l).toList, String.ofList name)) = 0 :=
    occurrences_columnLine hw (Text.occurrences_literal hw hl) (Text.occurrences_literal hw hname)
  have hcredit {l name : List Char} (hl : ∀ w ∈ marks, Text.occurrences w l = 0)
      (hname : ∀ w ∈ marks, Text.occurrences w name = 0) :
      Text.occurrences w (columnLine (creditColumn join (String.ofList l), String.ofList name)) =
        0 :=
    occurrences_columnLine hw (occurrences_creditColumn hw h (Text.occurrences_literal hw hl))
      (Text.occurrences_literal hw hname)
  simp only [selected, bare, List.forall_mem_cons]
  refine ⟨?_, hfixed ?_ ?_, hfixed ?_ ?_, hfixed ?_ ?_, hfixed ?_ ?_, hfixed ?_ ?_, hfixed ?_ ?_,
    hfixed ?_ ?_, hfixed ?_ ?_, hfixed ?_ ?_, hfixed ?_ ?_, hfixed ?_ ?_, hfixed ?_ ?_,
    hfixed ?_ ?_, hcredit ?_ ?_, hcredit ?_ ?_, hcredit ?_ ?_, hcredit ?_ ?_, hcredit ?_ ?_, nofun⟩
  · refine occurrences_columnLine hw ?_ (Text.occurrences_literal hw (by decide))
    have hcases : Text.occurrences w (Text.joined [' '] (Kind.all.map fun k =>
        "WHEN ".toList ++ k.test ++ " THEN '".toList ++ k.name ++ ['\''])) = 0 := by
      refine Text.occurrences_joined_eq_zero hw (Text.occurrences_separator hw (by decide))
        ⟨' ', by decide, rfl⟩ ⟨' ', by decide, rfl⟩ fun t ht => ?_
      obtain ⟨k, -, rfl⟩ := List.mem_map.mp ht
      exact occurrences_case hw k
    have hopen : Text.occurrences w "CASE ".toList = 0 := Text.occurrences_literal hw (by decide)
    exact Text.occurrences_enclosed hw hopen hcases (Text.occurrences_literal hw (by decide))
      ⟨' ', by decide, rfl⟩ ⟨' ', by decide, rfl⟩
  all_goals decide

theorem occurrences_orderText {w : Text} (hw : w ∈ marks) (s : Statement ν) :
    Text.occurrences w s.orderText = 0 := by
  have hcolumn (column : SortColumn) : Text.occurrences w column.alias.toList = 0 := by
    rcases column <;> exact Text.occurrences_literal hw (by decide)
  have hdirection (d : Direction) : Text.occurrences w (' ' :: d.keyword.toList) = 0 := by
    have hkeyword : Text.occurrences w d.keyword.toList = 0 := by
      rcases d <;> exact Text.occurrences_literal hw (by decide)
    exact Text.occurrences_append_eq_zero (a := [' ']) hw
      (Text.occurrences_separator hw (by decide)) hkeyword (.inl rfl) (by decide)
  have hkeys : ∀ t ∈ s.order.map SortKey.text, Text.occurrences w t = 0 := by
    intro t ht
    obtain ⟨⟨column, d⟩, -, rfl⟩ := List.mem_map.mp ht
    have hkey := Text.occurrences_append_eq_zero hw (hcolumn column) (hdirection d) (.inr rfl)
      (by decide)
    exact Text.occurrences_append_eq_zero hw hkey (Text.occurrences_literal hw (by decide))
      (.inr rfl) (by decide)
  have hjoined : Text.occurrences w (Text.joined ", ".toList (s.order.map SortKey.text)) = 0 :=
    Text.occurrences_joined_eq_zero hw (Text.occurrences_literal hw (by decide))
      ⟨',', by decide, rfl⟩ ⟨' ', by decide, rfl⟩ hkeys
  rw [orderText]
  split
  · exact Text.occurrences_nil (Text.ne_nil_of_mem_marks w hw)
  · have hopen : Text.occurrences w "ORDER BY ".toList = 0 :=
      Text.occurrences_literal hw (by decide)
    exact Text.occurrences_enclosed hw hopen hjoined (Text.occurrences_separator hw (by decide))
      ⟨' ', by decide, rfl⟩ ⟨'\n', by decide, rfl⟩

theorem occurrences_limitText {w : Text} (hw : w ∈ marks) (hne : w ≠ ['?']) (s : Statement ν) :
    Text.occurrences w s.limitText = 0 := by
  have hline (p : Nat) :
      Text.occurrences w ("LIMIT ".toList ++ placeholder p ++ ['\n']) = 0 := by
    exact Text.occurrences_enclosed hw (Text.occurrences_literal hw (by decide))
      (occurrences_placeholder hw hne p) (Text.occurrences_separator hw (by decide))
      ⟨' ', by decide, rfl⟩ ⟨'\n', by decide, rfl⟩
  rw [limitText]
  cases s.limit with
  | none => exact Text.occurrences_nil (Text.ne_nil_of_mem_marks w hw)
  | some p => exact hline p

/-! ### References of a statement -/

theorem references_columnLine {x : Text × String} (hx : '?' ∉ x.2.toList) :
    (columnLine x).references = x.1.references := by
  have hhead : ∀ c ∈ (" AS ".toList ++ x.2.toList).head?, c.isDigit = false := by
    rintro c ⟨⟩
    rfl
  have hindent : '?' ∉ "  ".toList := Text.notMem_literal (by decide)
  have hname : '?' ∉ " AS ".toList ++ x.2.toList := by
    rw [List.mem_append]
    exact not_or.mpr ⟨Text.notMem_literal (by decide), hx⟩
  rw [columnLine, List.append_assoc, List.append_assoc, Text.references_append_of_notMem hindent,
    Text.references_append_of_head hhead, Text.references_of_notMem hname, List.append_nil]

/-- What is selected refers to the text with which names are compared. -/
theorem references_selection (s : Statement ν) :
    s.selection.references = s.measured.toList.map Text.ofNat := by
  have hopen : '?' ∉ "SELECT\n".toList := Text.notMem_literal (by decide)
  have hsep : '?' ∉ ",\n".toList := Text.notMem_literal (by decide)
  have hnone : ∀ l : List (Text × String), l ⊆ (bare s.join : Statement ν).selected →
      l.flatMap (fun x => (columnLine x).references) = [] := by
    intro l hl
    exact List.flatMap_eq_nil_iff.mpr fun x hx => Text.references_of_notMem
      (Text.notMem_of_occurrences (occurrences_bare question_mem_marks
        (fun h => absurd h (by decide)) x (hl hx)))
  show Text.references ("SELECT\n".toList ++ Text.joined _ (s.selected.map columnLine)) = _
  rw [Text.references_append_of_notMem hopen, Text.references_joined ⟨',', rfl, rfl⟩ hsep,
    List.flatMap_map, selected_eq]
  cases s.measured with
  | none => exact hnone _ fun x hx => hx
  | some p =>
    -- the similarity is the fifth of the columns
    have hlength : 4 < (bare s.join : Statement ν).selected.length := by
      show 4 < 19
      omega
    have hname : '?' ∉ "similarity".toList := Text.notMem_literal (by decide)
    have hline : (columnLine (similarityText p, "similarity")).references = [Text.ofNat p] := by
      rw [references_columnLine hname, references_similarityText]
    show ((bare s.join : Statement ν).selected.set 4 _).flatMap _ = _
    rw [List.set_eq_take_append_cons_drop, if_pos hlength, List.flatMap_append, List.flatMap_cons,
      hnone _ (List.take_subset 4 _), hnone _ (List.drop_subset _ _), hline]
    rfl

theorem references_filter (s : Statement ν) : s.filter.references =
    (s.conditions.flatMap Condition.placeholders).map Text.ofNat := by
  have hopen : '?' ∉ "WHERE ".toList := Text.notMem_literal (by decide)
  have hsep : '?' ∉ "\n  AND ".toList := Text.notMem_literal (by decide)
  have hclose : ∀ c ∈ ['\n'].head?, c.isDigit = false := by
    rintro c ⟨⟩
    rfl
  have hlist :
      (Text.joined "\n  AND ".toList (s.conditions.map (Condition.text s.join))).references =
        (s.conditions.flatMap Condition.placeholders).map Text.ofNat := by
    rw [Text.references_joined ⟨'\n', rfl, rfl⟩ hsep, List.flatMap_map, List.map_flatMap]
    exact List.flatMap_congr fun k _ => k.references_text s.join
  show Text.references ("WHERE ".toList ++ Text.joined _ _ ++ ['\n']) = _
  rw [Text.references_append_of_head hclose, Text.references_append_of_notMem hopen, hlist]
  exact List.append_nil _

theorem references_limitText (s : Statement ν) :
    s.limitText.references = s.limit.toList.map Text.ofNat := by
  have hline (p : Nat) :
      Text.references ("LIMIT ".toList ++ placeholder p ++ ['\n']) = [Text.ofNat p] := by
    have hclose : ∀ c ∈ ['\n'].head?, c.isDigit = false := by
      rintro c ⟨⟩
      rfl
    have hopen : '?' ∉ "LIMIT ".toList := Text.notMem_literal (by decide)
    rw [Text.references_append_of_head hclose, Text.references_append_of_notMem hopen,
      references_placeholder]
    rfl
  rw [limitText]
  cases s.limit with
  | none => rfl
  | some p => exact hline p

/-- The joined tables refer to no parameter. Credits are joined once or not at all, and if they are
not joined, then no other table is joined by a column of theirs. -/
theorem joins_bare (join : Option CreditEnd) :
    '?' ∉ (bare join : Statement ν).joins ∧
      Text.occurrences "JOIN credit c ON ".toList (bare join : Statement ν).joins =
        (if join.isSome then 1 else 0) ∧
      (join = none → Text.occurrences "c.".toList (bare join : Statement ν).joins = 0) := by
  -- the lines are given as lists of characters first: decoding the literals takes the kernel long
  rcases join with _ | _ | _ <;> unfold joins <;> simp only [bare, String.toList_append] <;>
    repeat rw [String.toList_ofList]
  · decide +kernel
  · decide +kernel
  · decide +kernel

/-- The text of a statement refers to the placeholders of the similarity that is selected, of the
conditions and of the limit, in this order, and to nothing else. -/
theorem references_text (s : Statement ν) : s.text.references =
    (s.measured.toList ++ s.conditions.flatMap Condition.placeholders ++ s.limit.toList).map
      Text.ofNat := by
  have hjoins : '?' ∉ '\n' :: s.joins := by
    rw [List.mem_cons, not_or]
    exact ⟨by decide, (joins_bare s.join).1⟩
  have horder : '?' ∉ s.orderText :=
    Text.notMem_of_occurrences (s.occurrences_orderText question_mem_marks)
  -- every part is followed by a line break or a letter, so no number goes on in the next part
  have horderLimit : (s.orderText ++ s.limitText).references = s.limit.toList.map Text.ofNat := by
    rw [Text.references_append_of_notMem horder, references_limitText]
  have hhead : ∀ c ∈ (s.orderText ++ s.limitText).head?, c.isDigit = false := by
    rw [orderText, limitText]
    split <;> split <;> rintro c ⟨⟩ <;> rfl
  rw [text_eq, Text.references_append_of_head (by rintro c ⟨⟩; rfl), references_selection,
    Text.references_append_of_notMem hjoins, Text.references_append_of_head hhead,
    references_filter, horderLimit, List.map_append, List.map_append, List.append_assoc]

/-! ### Joined credits -/

variable {w : Text}

theorem occurrences_selection (hw : w ∈ marks) (hne : w ≠ ['?']) (s : Statement ν)
    (h : w = ['c', '.'] → s.join = none) : Text.occurrences w s.selection = 0 := by
  have hsimilarity (p : Nat) :
      Text.occurrences w (columnLine (similarityText p, "similarity")) = 0 :=
    occurrences_columnLine hw (occurrences_similarityText hw hne p)
      (Text.occurrences_literal hw (by decide))
  have hlines : ∀ t ∈ s.selected.map columnLine, Text.occurrences w t = 0 := by
    intro t ht
    obtain ⟨x, hx, rfl⟩ := List.mem_map.mp ht
    rw [selected_eq] at hx
    rcases hmeasured : s.measured with _ | p
    · rw [hmeasured] at hx
      exact occurrences_bare hw h x hx
    · rw [hmeasured] at hx
      rcases List.mem_or_eq_of_mem_set hx with hx | rfl
      · exact occurrences_bare hw h x hx
      · exact hsimilarity p
  have hjoined : Text.occurrences w (Text.joined ",\n".toList (s.selected.map columnLine)) = 0 :=
    Text.occurrences_joined_eq_zero hw (Text.occurrences_literal hw (by decide))
      ⟨',', by decide, rfl⟩ ⟨'\n', by decide, rfl⟩ hlines
  exact Text.occurrences_append_eq_zero hw (Text.occurrences_literal hw (by decide)) hjoined
    (.inl rfl) (by decide)

theorem occurrences_filter (hw : w ∈ marks) (hne : w ≠ ['?']) (s : Statement ν)
    (h : ∀ k ∈ s.conditions, ∀ column ∈ k.column?, Text.occurrences w (column.text s.join) = 0) :
    Text.occurrences w s.filter = 0 := by
  have hconditions : ∀ t ∈ s.conditions.map (Condition.text s.join), Text.occurrences w t = 0 := by
    intro t ht
    obtain ⟨k, hk, rfl⟩ := List.mem_map.mp ht
    exact Condition.occurrences_text hw hne (h k hk)
  have hjoined : Text.occurrences w
      (Text.joined "\n  AND ".toList (s.conditions.map (Condition.text s.join))) = 0 :=
    Text.occurrences_joined_eq_zero hw (Text.occurrences_literal hw (by decide))
      ⟨'\n', by decide, rfl⟩ ⟨' ', by decide, rfl⟩ hconditions
  have hopen : Text.occurrences w "WHERE ".toList = 0 := Text.occurrences_literal hw (by decide)
  exact Text.occurrences_enclosed hw hopen hjoined (Text.occurrences_separator hw (by decide))
    ⟨' ', by decide, rfl⟩ ⟨'\n', by decide, rfl⟩

/-- What follows the joined tables. -/
theorem occurrences_rest (hw : w ∈ marks) (hne : w ≠ ['?']) (s : Statement ν)
    (h : ∀ k ∈ s.conditions, ∀ column ∈ k.column?, Text.occurrences w (column.text s.join) = 0) :
    Text.occurrences w (s.filter ++ (s.orderText ++ s.limitText)) = 0 := by
  have hfilter : s.filter.getLast? = some '\n' := List.getLast?_concat
  have hlast : (s.filter ++ s.orderText).getLast? = some '\n' := by
    rw [orderText, List.getLast?_append, hfilter]
    split
    · rfl
    · rw [List.getLast?_concat]
      rfl
  have horder := Text.occurrences_append_eq_zero hw (s.occurrences_filter hw hne h)
    (s.occurrences_orderText hw) (.inl hfilter) (by decide)
  rw [← List.append_assoc]
  exact Text.occurrences_append_eq_zero hw horder (s.occurrences_limitText hw hne) (.inl hlast)
    (by decide)

/-- The joined tables stand after a line break, and the conditions that follow start in a W. -/
theorem occurrences_text {v : Text} (hv : v ≠ []) (hbreak : '\n' ∉ v) (hwhere : 'W' ∉ v)
    (s : Statement ν) :
    Text.occurrences v s.text = Text.occurrences v s.selection + Text.occurrences v s.joins +
      Text.occurrences v (s.filter ++ (s.orderText ++ s.limitText)) := by
  have hhead : ∃ c ∈ (s.filter ++ (s.orderText ++ s.limitText)).head?, c ∉ v :=
    ⟨'W', rfl, hwhere⟩
  rw [text_eq, List.cons_append, Text.occurrences_append_cons hv hbreak,
    Text.occurrences_append_of_head hv hhead, Nat.add_assoc]

/-- Credits are joined once or not at all: there is no capital J elsewhere in the text. -/
theorem occurrences_join_text (s : Statement ν) :
    Text.occurrences "JOIN credit c ON ".toList s.text = if s.join.isSome then 1 else 0 := by
  have hw : ['J'] ∈ marks := by decide
  have hne : ['J'] ≠ ['?'] := by decide
  have hcolumns : ∀ k ∈ s.conditions, ∀ column ∈ k.column?,
      Text.occurrences ['J'] (column.text s.join) = 0 := by
    intro k _ column _
    exact column.occurrences_text hw fun h => absurd h (by decide)
  have hselection : 'J' ∉ s.selection :=
    Text.notMem_of_occurrences (occurrences_selection hw hne s fun h => absurd h (by decide))
  have hrest : 'J' ∉ s.filter ++ (s.orderText ++ s.limitText) :=
    Text.notMem_of_occurrences (occurrences_rest hw hne s hcolumns)
  have hjoins := (joins_bare (ν := ν) s.join).2.1
  rw [String.toList_ofList] at hjoins ⊢
  rw [occurrences_text (by decide) (by decide) (by decide),
    Text.occurrences_eq_zero_of_notMem (c := 'J') (by decide) hselection,
    Text.occurrences_eq_zero_of_notMem (c := 'J') (by decide) hrest, Nat.zero_add, Nat.add_zero]
  exact hjoins

/-- Where credits are not joined, only a condition on an end of a credit could refer to them. -/
theorem occurrences_alias_text {s : Statement ν} (hjoin : s.join = none)
    (hcolumns : ∀ k ∈ s.conditions, ∀ column ∈ k.column?,
      column ≠ .creditMedia ∧ column ≠ .creditActor) :
    Text.occurrences "c.".toList s.text = 0 := by
  have hw : ['c', '.'] ∈ marks := by decide
  have hne : ['c', '.'] ≠ ['?'] := by decide
  have hnone : ∀ k ∈ s.conditions, ∀ column ∈ k.column?,
      Text.occurrences ['c', '.'] (column.text s.join) = 0 := by
    intro k hk column hcolumn
    exact column.occurrences_text hw fun _ => ⟨hjoin, hcolumns k hk column hcolumn⟩
  have hjoins := (joins_bare (ν := ν) s.join).2.2 hjoin
  rw [String.toList_ofList] at hjoins ⊢
  rw [occurrences_text (by decide) (by decide) (by decide),
    occurrences_selection hw hne s fun _ => hjoin, occurrences_rest hw hne s hnone, Nat.zero_add,
    Nat.add_zero]
  exact hjoins

end Statement

end Filmography
