import Mathlib.Data.Char
import Mathlib.Data.List.Nodup
import Filmography.Data.Record
import Filmography.Proofs.Data.Rows

/-!
# Records read back

Records that are written under a header are read back as they are, if nothing in their texts divides
a row or ends it. Every value is read back from its text, a row from its texts, and the file from
its rows: the header names the fields in their order, so each text is found by the name of its
field.

* `FieldType.read_write`: a value reads back;
* `Schema.readRow_write`: a row of texts reads back as the record that was written;
* `Schema.read_write`: a data file reads back.
-/

namespace Filmography

/-! ### Texts that fit a field -/

/-- Nothing in a text divides a row or ends it. -/
def Text.FitsField (t : Text) : Prop :=
  ∀ c ∈ t, c ≠ '\t' ∧ c ≠ '\r' ∧ c ≠ '\n'

instance (t : Text) : Decidable t.FitsField :=
  List.decidableBAll (fun c => c ≠ '\t' ∧ c ≠ '\r' ∧ c ≠ '\n') t

/-- A value fits a field if it is no text, or a text that does. -/
def FieldType.Fits : (type : FieldType) → type.Value → Prop
  | .text, t => Text.FitsField t
  | _, _ => True

/-- All values of a record fit their fields. -/
def Values.Fit : (fields : List Field) → Values fields → Prop
  | [], _ => True
  | f :: fs, (v, vs) => f.type.Fits v ∧ Values.Fit fs vs

instance : (type : FieldType) → (v : type.Value) → Decidable (type.Fits v)
  | .text, t => inferInstanceAs (Decidable (Text.FitsField t))
  | .atom, _ | .number, _ | .optional, _ | .flag, _ => isTrue trivial

instance Values.decidableFit :
    (fields : List Field) → (vs : Values fields) → Decidable (Values.Fit fields vs)
  | [], _ => isTrue trivial
  | f :: fs, (v, vs) =>
    have := decidableFit fs vs
    inferInstanceAs (Decidable (f.type.Fits v ∧ Values.Fit fs vs))

theorem Text.fitsField_ofNat (n : Nat) : Text.FitsField (Text.ofNat n) := by
  intro c hc
  have hdigit : c.isDigit := Nat.isDigit_of_mem_toDigits (by decide) (by decide) hc
  refine ⟨?_, ?_, ?_⟩ <;>
  · rintro rfl
    exact absurd hdigit (by decide)

/-- What a value that fits its field is written as fits the field. -/
theorem FieldType.fitsField_write (type : FieldType) {v : type.Value} (h : type.Fits v) :
    (type.write v).FitsField := by
  cases type with
  | atom => exact Text.fitsField_ofNat _
  | text => exact h
  | number => exact Text.fitsField_ofNat _
  | optional =>
    cases v with
    | none => exact fun c hc => absurd hc List.not_mem_nil
    | some n => exact Text.fitsField_ofNat _
  | flag => cases v <;> simp [FieldType.write, Text.FitsField]

/-! ### Values read back -/

/-- Digits are no prefix for another base. -/
theorem Integer.Format.parsePrefixed_ofNat {f : Integer.Format} {n : Nat} (h : n ≤ f.greatest) :
    f.parsePrefixed (Text.ofNat n) = .ok (Int.ofNat n) := by
  have hdigit : ∀ c ∈ Text.ofNat n, c.isDigit := fun c hc =>
    Nat.isDigit_of_mem_toDigits (by decide) (by decide) hc
  rw [parsePrefixed]
  · exact parse_ofNat h
  · intro digits hdigits
    rw [hdigits] at hdigit
    exact absurd (hdigit 'x' (by simp)) (by decide)

/-- A value reads back from what it is written as. -/
theorem FieldType.read_write (type : FieldType) (place : Nat) (v : type.Value) :
    type.read place (type.write v) = .ok v := by
  have hword (n : UInt32) :
      (((fun n => UInt32.ofNat n.toNat) <$>
        Integer.Format.unsigned32.parsePrefixed (Text.ofNat n.toNat)).mapError
          (FieldFault.integer place)) = .ok n := by
    have hle : n.toNat ≤ Integer.Format.unsigned32.greatest := by
      have := n.toNat_lt
      simp only [Integer.Format.unsigned32]
      omega
    rw [Integer.Format.parsePrefixed_ofNat hle]
    simp [Functor.map, Except.map, Except.mapError]
  cases type with
  | atom =>
    simp only [read, write, hword, bind, Except.bind, Atom.ofWord?_val]
    rfl
  | text => rfl
  | number => exact hword v
  | optional =>
    cases v with
    | none => rfl
    | some n =>
      simp only [read, write, hword]
      rfl
  | flag => cases v <;> rfl

/-! ### Rows read back -/

theorem Values.length_write (fields : List Field) (vs : Values fields) :
    (write fields vs).length = fields.length := by
  induction fields with
  | nil => rfl
  | cons f fs ih => exact congrArg (· + 1) (ih vs.2)

/-- What values that fit are written as fits. -/
theorem Values.fitsField_of_mem_write {fields : List Field} {vs : Values fields}
    (h : Values.Fit fields vs) : ∀ t ∈ write fields vs, t.FitsField := by
  induction fields with
  | nil => exact fun t ht => absurd ht List.not_mem_nil
  | cons f fs ih =>
    obtain ⟨v, vs⟩ := vs
    exact List.forall_mem_cons.mpr ⟨f.type.fitsField_write h.1, ih h.2⟩

/-- The texts of values, each with the name of its field. -/
def Values.named (fields : List Field) (vs : Values fields) : List (Text × Text) :=
  (fields.map (·.name.toList)).zip (write fields vs)

theorem Values.map_fst_named (fields : List Field) (vs : Values fields) :
    (named fields vs).map Prod.fst = fields.map (·.name.toList) := by
  rw [named, List.map_fst_zip]
  rw [List.length_map, length_write]

/-- A named text is that of a value of the field of that name. -/
theorem Values.exists_of_mem_named {fields : List Field} {vs : Values fields} {p : Text × Text}
    (h : p ∈ named fields vs) :
    ∃ f ∈ fields, f.name.toList = p.1 ∧ ∃ v : f.type.Value, p.2 = f.type.write v := by
  induction fields with
  | nil => cases h
  | cons f fs ih =>
    obtain ⟨v, vs⟩ := vs
    rcases List.mem_cons.mp h with rfl | h
    · exact ⟨f, List.mem_cons_self .., rfl, v, rfl⟩
    · obtain ⟨g, hg, hp⟩ := ih h
      exact ⟨g, List.mem_cons_of_mem _ hg, hp⟩

/-- Fields with different names are told apart by them. -/
theorem Field.eq_of_name {fields : List Field} (hnames : (fields.map (·.name)).Nodup) {f g : Field}
    (hf : f ∈ fields) (hg : g ∈ fields) (h : f.name.toList = g.name.toList) : f = g :=
  List.inj_on_of_nodup_map hnames hf hg (String.toList_inj.mp h)

/-- Where something is as required, something like it is found. -/
private theorem exists_find?_of_mem {α : Type} {p : α → Prop} [DecidablePred p] {l : List α} {a : α}
    (ha : a ∈ l) (hp : p a) : ∃ b, l.find? (fun b => decide (p b)) = some b ∧ b ∈ l ∧ p b := by
  have hsome : (l.find? fun b => decide (p b)).isSome = true :=
    List.find?_isSome.mpr ⟨a, ha, decide_eq_true hp⟩
  obtain ⟨b, hb⟩ := Option.isSome_iff_exists.mp hsome
  exact ⟨b, hb, List.mem_of_find?_eq_some hb, by simpa using List.find?_some hb⟩

/-- Texts that are those of values, each under the name of another field, pass the check. -/
theorem Values.check_eq_ok {fields : List Field} (hnames : (fields.map (·.name)).Nodup)
    {row : List (Text × Text)} (hrow : ∀ p ∈ row, ∃ f ∈ fields, f.name.toList = p.1 ∧
      ∃ v : f.type.Value, p.2 = f.type.write v)
    (hdistinct : (row.map Prod.fst).Nodup) {seen : List String}
    (hseen : ∀ name ∈ seen, name.toList ∉ row.map Prod.fst) (place : Nat) :
    check fields seen place row = .ok () := by
  induction row generalizing seen place with
  | nil => rfl
  | cons p row ih =>
    obtain ⟨name, t⟩ := p
    obtain ⟨⟨f, hf, hname, v, ht⟩, hrest⟩ := List.forall_mem_cons.mp hrow
    obtain rfl : f.name.toList = name := hname
    obtain rfl : t = f.type.write v := ht
    obtain ⟨hnew, hdistinct⟩ := List.nodup_cons.mp hdistinct
    have hfind : fields.find? (fun g => decide (g.name.toList = f.name.toList)) = some f := by
      obtain ⟨g, hfound, hg, hsame⟩ := exists_find?_of_mem
        (p := fun g => g.name.toList = f.name.toList) hf rfl
      rw [hfound, Field.eq_of_name hnames hg hf hsame]
    have hunseen : f.name ∉ seen := fun hmem => hseen f.name hmem (List.mem_cons_self ..)
    simp only [check, hfind, if_neg hunseen, FieldType.read_write]
    refine ih hrest hdistinct (List.forall_mem_cons.mpr ⟨hnew, fun name hname hmem => ?_⟩) _
    exact hseen name hname (List.mem_cons_of_mem _ hmem)

/-- Where each text stands under the name of its field, the values are collected. -/
theorem Values.collect_eq_ok {row : List (Text × Text)} (hdistinct : (row.map Prod.fst).Nodup)
    {fields : List Field} {vs : Values fields} (h : ∀ p ∈ named fields vs, p ∈ row) :
    collect row fields = .ok vs := by
  induction fields with
  | nil => rfl
  | cons f fs ih =>
    obtain ⟨v, vs⟩ := vs
    obtain ⟨hfirst, hrest⟩ := List.forall_mem_cons.mp h
    obtain ⟨place, hfind⟩ : ∃ place,
        row.zipIdx.find? (fun entry => decide (entry.1.1 = f.name.toList)) =
          some ((f.name.toList, f.type.write v), place) := by
      rw [← List.zipIdx_map_fst 0 row] at hfirst
      obtain ⟨entry, hentry, hnamed⟩ := List.mem_map.mp hfirst
      obtain ⟨entry', hfound, hentry', hsame⟩ := exists_find?_of_mem
        (p := fun entry => entry.1.1 = f.name.toList) hentry (by rw [hnamed])
      have heq : entry'.1 = entry.1 := List.inj_on_of_nodup_map hdistinct
        (List.fst_mem_of_mem_zipIdx hentry') (List.fst_mem_of_mem_zipIdx hentry)
        (by rw [hsame, hnamed])
      exact ⟨entry'.2, by rw [hfound, ← hnamed, ← heq]⟩
    simp only [collect, hfind, FieldType.read_write]
    rw [ih hrest]
    rfl

namespace Schema

/-- A schema whose records can be written: the header is a row from which the fields are told, and
no row is empty. -/
structure IsWritable (s : Schema) : Prop where
  /-- Fields are told apart by their names. -/
  distinct : (s.fields.map (·.name)).Nodup
  /-- Each name fits a field of the header. -/
  names : ∀ f ∈ s.fields, Text.FitsField f.name.toList
  /-- The first field is an atom, and its name does not start with a byte order mark. -/
  first : ∃ f fields, s.fields = f :: fields ∧ f.type = .atom ∧
    ∃ c t, f.name.toList = c :: t ∧ c ≠ '\uFEFF'

theorem decodeTexts_encode (start : Position) (place : Nat) (texts : List Text) :
    decodeTexts start place (texts.map Utf8.encode) = .ok texts := by
  induction texts generalizing place with
  | nil => rfl
  | cons t texts ih =>
    rw [List.map_cons, decodeTexts, Utf8.decode_encode]
    simp only [ih]
    rfl

/-- A row of the texts of a record reads back, wherever it stands. -/
theorem readRow_write {s : Schema} (hs : (s.fields.map (·.name)).Nodup) {r : s.Record}
    {header row : Delimited.Row}
    (hheader : header.fields = (s.fields.map (·.name.toList)).map Utf8.encode)
    (hrow : row.fields = (Values.write s.fields r).map Utf8.encode) :
    s.readRow header row = .ok r := by
  have hlength : row.fields.length = header.fields.length := by
    rw [hheader, hrow]
    simp only [List.length_map, Values.length_write]
  have hdistinct : ((Values.named s.fields r).map Prod.fst).Nodup := by
    rw [Values.map_fst_named]
    exact List.Nodup.of_map String.ofList (by simpa [Function.comp_def] using hs)
  have htexts : s.readTexts (some (s.fields.map (·.name.toList))) (Values.write s.fields r) =
      .ok r := by
    have hcheck := Values.check_eq_ok hs (fun p hp => Values.exists_of_mem_named hp) hdistinct
      (fun name hname => absurd hname List.not_mem_nil) 0
    have hcollect := Values.collect_eq_ok hdistinct fun p hp => hp
    rw [Values.named] at hcheck hcollect
    rw [readTexts, hcheck]
    exact hcollect
  rw [readRow, if_neg (not_not_intro hlength), hheader, hrow]
  simp only [decodeTexts_encode]
  show (s.readTexts (some _) _).mapError _ = _
  rw [htexts]
  rfl

end Schema

/-! ### Files read back -/

namespace Utf8

/-- The byte of a character below 128 is among those of a text only if the character is in it. -/
theorem notMem_encode {d : Char} (hd : d.toNat < 128) {t : Text} (h : d ∉ t) :
    UInt8.ofNat d.toNat ∉ encode t := by
  have hbyte {n : Nat} (hn : n < 256) (heq : UInt8.ofNat d.toNat = UInt8.ofNat n) :
      d.toNat = n := by
    have hnat := congrArg UInt8.toNat heq
    rwa [UInt8.toNat_ofNat_of_lt' (Nat.lt_trans hd (by decide)),
      UInt8.toNat_ofNat_of_lt' hn] at hnat
  intro hmem
  obtain ⟨c, hc, hmem⟩ := List.mem_flatMap.mp hmem
  simp only [String.utf8EncodeChar] at hmem
  split_ifs at hmem <;> simp only [List.mem_cons, List.not_mem_nil, or_false] at hmem
  · have hsame : d = c := Char.toNat_inj.mp (hbyte (n := c.val.toNat) (by omega) hmem)
    exact h (hsame ▸ hc)
  -- the bytes of a character that has several are all above
  · rcases hmem with hmem | hmem <;> have := hbyte (by omega) hmem <;> omega
  · rcases hmem with hmem | hmem | hmem <;> have := hbyte (by omega) hmem <;> omega
  · rcases hmem with hmem | hmem | hmem | hmem <;> have := hbyte (by omega) hmem <;> omega

theorem encode_append (s t : Text) : encode (s ++ t) = encode s ++ encode t :=
  List.flatMap_append

theorem encode_ne_nil {t : Text} (h : t ≠ []) : encode t ≠ [] := by
  obtain ⟨c, t, rfl⟩ := List.exists_cons_of_ne_nil h
  intro hnil
  exact String.utf8EncodeChar_ne_nil (List.append_eq_nil_iff.mp hnil).1

/-- A text that does not start with the character of a byte order mark does not start with its
bytes. -/
theorem isPrefixOf_encode {c : Char} (h : c ≠ '\uFEFF') (t : Text) (rest : Bytes) :
    Delimited.byteOrderMark.isPrefixOf (encode (c :: t) ++ rest) = false := by
  rw [← Bool.not_eq_true, List.isPrefixOf_iff_prefix]
  rintro ⟨rest', hrest⟩
  have hmark : Delimited.byteOrderMark = String.utf8EncodeChar '\uFEFF' := by decide
  have hfirst : first? (encode (c :: t) ++ rest) = some c := by
    rw [encode, List.flatMap_cons, List.append_assoc]
    exact first?_encodeChar_append c _
  rw [← hrest, hmark, first?_encodeChar_append] at hfirst
  exact h (Option.some.inj hfirst).symm

end Utf8

namespace Schema

/-- The line of a row of texts. -/
def line (texts : List Text) : Bytes :=
  [Delimited.tab].intercalate (texts.map Utf8.encode)

theorem line_cons_cons (t u : Text) (texts : List Text) :
    line (t :: u :: texts) = Utf8.encode t ++ [Delimited.tab] ++ line (u :: texts) := by
  rw [line, List.map_cons, List.map_cons, List.intercalate_cons_cons]
  rfl

theorem encode_rowText (texts : List Text) :
    Utf8.encode (rowText texts) = line texts ++ [Delimited.lineFeed] := by
  have hjoined : Utf8.encode (Text.joined ['\t'] texts) = line texts := by
    rw [Text.joined]
    induction texts with
    | nil => rfl
    | cons t texts ih =>
      cases texts with
      | nil => simp [line]
      | cons u texts =>
        rw [List.intercalate_cons_cons, Utf8.encode_append, Utf8.encode_append, ih, line_cons_cons]
        rfl
  rw [rowText, Utf8.encode_append, hjoined]
  rfl

/-- Tabs divide the line of a row into its texts. -/
theorem fields_line {texts : List Text} (hne : texts ≠ []) (h : ∀ t ∈ texts, t.FitsField) :
    Delimited.fields (line texts) = texts.map Utf8.encode := by
  rw [Delimited.fields_eq_splitOn, line, List.splitOn_intercalate]
  · intro l hl
    obtain ⟨t, ht, rfl⟩ := List.mem_map.mp hl
    exact Utf8.notMem_encode (d := '\t') (by decide) fun hmem => (h t ht _ hmem).1 rfl
  · simpa using hne

/-- Nothing in the line of a row ends it. -/
theorem isRowEnd_of_mem_line {texts : List Text} (h : ∀ t ∈ texts, t.FitsField) :
    ∀ b ∈ line texts, Delimited.isRowEnd b = false := by
  have hencode : ∀ t ∈ texts, ∀ b ∈ Utf8.encode t, Delimited.isRowEnd b = false := by
    intro t ht b hb
    refine decide_eq_false ?_
    rintro (rfl | rfl)
    · exact Utf8.notMem_encode (d := '\n') (by decide) (fun hmem => (h t ht _ hmem).2.2 rfl) hb
    · exact Utf8.notMem_encode (d := '\r') (by decide) (fun hmem => (h t ht _ hmem).2.1 rfl) hb
  clear h
  induction texts with
  | nil => exact fun b hb => absurd hb List.not_mem_nil
  | cons t texts ih =>
    obtain ⟨ht, hrest⟩ := List.forall_mem_cons.mp hencode
    cases texts with
    | nil => simpa [line] using ht
    | cons u texts =>
      have htab : ∀ b ∈ [Delimited.tab], Delimited.isRowEnd b = false :=
        List.forall_mem_singleton.mpr rfl
      rw [line_cons_cons]
      exact List.forall_mem_append.mpr ⟨List.forall_mem_append.mpr ⟨ht, htab⟩, ih hrest⟩

/-- A line starts with the bytes of the first of its texts. -/
theorem exists_line_eq_append (t : Text) (texts : List Text) :
    ∃ rest, line (t :: texts) = Utf8.encode t ++ rest := by
  cases texts with
  | nil => exact ⟨[], by simp [line]⟩
  | cons u texts => exact ⟨_, by rw [line_cons_cons, List.append_assoc]⟩

/-- The texts of the rows of a data file, the header first. -/
def rowTexts (s : Schema) (records : List s.Record) : List (List Text) :=
  s.fields.map (·.name.toList) :: records.map (Values.write s.fields)

/-- A data file consists of lines. -/
theorem write_eq_lines (s : Schema) (records : List s.Record) :
    s.write records =
      ((s.rowTexts records).map line).flatMap fun l => l ++ [Delimited.lineFeed] := by
  have hrecords : Utf8.encode (records.flatMap fun r => rowText (Values.write s.fields r)) =
      ((records.map (Values.write s.fields)).map line).flatMap
        fun l => l ++ [Delimited.lineFeed] := by
    induction records with
    | nil => rfl
    | cons r records ih =>
      rw [List.flatMap_cons, Utf8.encode_append, encode_rowText, ih]
      rfl
  rw [write, Utf8.encode_append, encode_rowText, hrecords]
  rfl

/-- Rows of the texts of records read back. -/
theorem mapM_readRow_write {s : Schema} (hs : (s.fields.map (·.name)).Nodup)
    {header : Delimited.Row} {rows : List Delimited.Row} {records : List s.Record}
    (hheader : header.fields = (s.fields.map (·.name.toList)).map Utf8.encode)
    (hrows : rows.map (·.fields) =
      (records.map (Values.write s.fields)).map (·.map Utf8.encode)) :
    rows.mapM (s.readRow header) = .ok records := by
  induction records generalizing rows with
  | nil =>
    obtain rfl := List.map_eq_nil_iff.mp hrows
    rfl
  | cons r records ih =>
    cases rows with
    | nil => cases hrows
    | cons row rows =>
      obtain ⟨hrow, hrest⟩ := List.cons.inj hrows
      rw [List.mapM_cons, readRow_write hs hheader hrow, ih hrest]
      rfl

/-- What a record starts with is not empty. -/
theorem exists_write_eq_cons {f : Field} (hatom : f.type = .atom) {fields : List Field}
    (vs : Values (f :: fields)) :
    ∃ t texts, Values.write (f :: fields) vs = t :: texts ∧ t ≠ [] := by
  obtain ⟨name, type⟩ := f
  obtain rfl : type = .atom := hatom
  exact ⟨_, _, rfl, Nat.toDigits_ne_nil⟩

/-- The texts of each row fit, and the first of them is not empty. -/
theorem fits_rowTexts {s : Schema} (hs : s.IsWritable) {records : List s.Record}
    (h : ∀ r ∈ records, Values.Fit s.fields r) : ∀ texts ∈ s.rowTexts records,
      (∀ t ∈ texts, t.FitsField) ∧ ∃ t rest, texts = t :: rest ∧ t ≠ [] := by
  refine List.forall_mem_cons.mpr ⟨⟨List.forall_mem_map.mpr hs.names, ?header⟩,
    List.forall_mem_map.mpr fun r hr => ⟨Values.fitsField_of_mem_write (h r hr), ?record⟩⟩
  case header =>
    obtain ⟨f, fields, hfields, -, c, t, hname, -⟩ := hs.first
    refine ⟨f.name.toList, fields.map (·.name.toList), by rw [hfields]; rfl, ?_⟩
    rw [hname]
    exact List.cons_ne_nil c t
  case record =>
    obtain ⟨f, fields, hfields, hatom, -⟩ := hs.first
    obtain ⟨name, _⟩ := s
    subst hfields
    exact exists_write_eq_cons hatom r

/-- A data file does not start with a byte order mark. -/
theorem isPrefixOf_write {s : Schema} (hs : s.IsWritable) (records : List s.Record) :
    Delimited.byteOrderMark.isPrefixOf (s.write records) = false := by
  obtain ⟨f, fields, hfields, -, c, t, hname, hc⟩ := hs.first
  obtain ⟨rest, hrest⟩ := exists_line_eq_append (c :: t) (fields.map (·.name.toList))
  have hheader : s.fields.map (·.name.toList) = (c :: t) :: fields.map (·.name.toList) := by
    rw [hfields, List.map_cons, hname]
  rw [write_eq_lines, rowTexts, List.map_cons, List.flatMap_cons, hheader, hrest,
    List.append_assoc, List.append_assoc]
  exact Utf8.isPrefixOf_encode hc t _

/-- **Records read back.** A data file of records that fit their fields is read back as these
records. -/
theorem read_write {s : Schema} (hs : s.IsWritable) {records : List s.Record}
    (h : ∀ r ∈ records, Values.Fit s.fields r) :
    s.read ⟨s.write records, none⟩ = .ok records := by
  have hfits := fits_rowTexts hs h
  have hlines : ∀ l ∈ (s.rowTexts records).map line,
      l ≠ [] ∧ ∀ b ∈ l, Delimited.isRowEnd b = false := by
    intro l hl
    obtain ⟨texts, htexts, rfl⟩ := List.mem_map.mp hl
    obtain ⟨hfit, t, rest, rfl, ht⟩ := hfits texts htexts
    refine ⟨fun hnil => ?_, isRowEnd_of_mem_line hfit⟩
    obtain ⟨bytes, hbytes⟩ := exists_line_eq_append t rest
    rw [hnil] at hbytes
    exact Utf8.encode_ne_nil ht (List.append_eq_nil_iff.mp hbytes.symm).1
  have htexts : ((s.rowTexts records).map line).map Delimited.fields =
      (s.rowTexts records).map (·.map Utf8.encode) := by
    rw [List.map_map]
    refine List.map_congr_left fun texts htexts => ?_
    obtain ⟨hfit, t, rest, rfl, -⟩ := hfits texts htexts
    exact fields_line (List.cons_ne_nil t rest) hfit
  have hrows := Delimited.map_fields_rows hlines (write_eq_lines s records ▸ isPrefixOf_write hs _)
  rw [← write_eq_lines, htexts, rowTexts, List.map_cons] at hrows
  obtain ⟨header, rows, hstream, hheader, hrest⟩ := List.map_eq_cons_iff.mp hrows
  rw [read, hstream]
  simp only [mapM_readRow_write hs.distinct hheader hrest]
  rfl

end Schema

end Filmography
