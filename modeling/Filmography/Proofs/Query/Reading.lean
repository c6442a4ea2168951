import Mathlib.Data.List.Forall2
import Filmography.Proofs.Query.Calls
import Filmography.Proofs.Query.Tokens
import Filmography.Query.Printer

/-!
# Reading what is written

Every call that has a directive is read back from the directive, with the argument as it is printed:
a range, a limit, a sort key, a least similarity or a sub-query. A word is read back as itself.
Pieces that are read back one by one are read back when they are joined, so what remains to be
shown of any text is what each of its pieces stands for.

That a floating-point number is read back from its digits is a property of the number, which is
asked for where one is written.

* `Range.parse_print`, `SortKey.parse_print`: arguments are read back;
* `Query.Reads`: a piece of text stands for a call;
* `Query.parse_joined`: pieces that are joined stand for their calls.
-/

namespace Filmography

/-! ### Characters of arguments -/

/-- A character that is neither a brace nor white space. -/
def IsPlain (c : Char) : Prop :=
  c ≠ '{' ∧ c ≠ '}' ∧ Text.isSpace c = false

instance : DecidablePred IsPlain := fun c =>
  inferInstanceAs (Decidable (c ≠ '{' ∧ c ≠ '}' ∧ Text.isSpace c = false))

theorem isPlain_of_isDigit {c : Char} (h : c.isDigit = true) : IsPlain c := by
  have hrange : 48 ≤ c.toNat ∧ c.toNat ≤ 57 := by
    simp only [Char.isDigit, ge_iff_le, Bool.and_eq_true, decide_eq_true_eq,
      UInt32.le_iff_toNat_le] at h
    exact h
  refine ⟨?_, ?_, ?_⟩
  · rintro rfl
    exact absurd h (by decide)
  · rintro rfl
    exact absurd h (by decide)
  · simp [Text.isSpace]
    omega

theorem isPlain_of_mem_ofNat {n : Nat} {c : Char} (h : c ∈ Text.ofNat n) : IsPlain c :=
  isPlain_of_isDigit (Nat.isDigit_of_mem_toDigits (by decide) (by decide) h)

theorem isPlain_hyphen : IsPlain '-' := by
  decide

theorem isPlain_point : IsPlain '.' := by
  decide

/-- A text of plain characters is not trimmed. -/
theorem trim_of_isPlain {t : Text} (h : ∀ c ∈ t, IsPlain c) : t.trim = t :=
  Text.trim_eq_self_of_forall fun c hc => (h c hc).2.2

/-- A text of plain characters opens and closes nothing. -/
theorem balanced_of_isPlain {t : Text} (h : ∀ c ∈ t, IsPlain c) : Token.Balanced t :=
  Token.balanced_of_forall fun c hc => ⟨(h c hc).1, (h c hc).2.1⟩

/-- The digits of a floating-point number are plain, and so are its sign and its point. -/
theorem isPlain_of_mem_plainFloat {x : Float} : ∀ c ∈ plainFloat x, IsPlain c := by
  have hzeros : ∀ n : Nat, ∀ c ∈ List.replicate n '0', IsPlain c := by
    intro n c hc
    rw [List.eq_of_mem_replicate hc]
    exact isPlain_of_isDigit (by decide)
  have hdigits : ∀ d : Decimal, ∀ c ∈ NumberStyle.plain.positional d, IsPlain c := by
    intro d
    have hd : ∀ c ∈ Text.ofNat d.digits, IsPlain c := fun c => isPlain_of_mem_ofNat
    have hzero : IsPlain '0' := isPlain_of_isDigit (by decide)
    rw [NumberStyle.positional]
    -- the point stands after all digits, among them, or before all of them
    split
    · exact List.forall_mem_append.mpr ⟨List.forall_mem_append.mpr ⟨hd, hzeros _⟩, by
        simp [NumberStyle.plain]⟩
    · split
      · exact List.forall_mem_append.mpr ⟨fun c hc => hd c (List.mem_of_mem_take hc),
          List.forall_mem_cons.mpr ⟨isPlain_point, fun c hc => hd c (List.mem_of_mem_drop hc)⟩⟩
      · exact List.forall_mem_cons.mpr ⟨hzero, List.forall_mem_cons.mpr ⟨isPlain_point,
          List.forall_mem_append.mpr ⟨hzeros _, hd⟩⟩⟩
  rw [plainFloat]
  split
  · simp [IsPlain, Text.isSpace]
  · split
    · split
      · simp [IsPlain, Text.isSpace]
      · simp [IsPlain, Text.isSpace]
    · have hpositional : ∀ point, NumberStyle.plain.isPositional point = true := fun _ => rfl
      rw [NumberStyle.write, hpositional, if_pos rfl]
      refine List.forall_mem_append.mpr ⟨?_, hdigits _⟩
      split
      · exact List.forall_mem_singleton.mpr isPlain_hyphen
      · exact List.forall_mem_nil _

/-! ### Arguments -/

theorem boundText_ne_nil (n : UInt32) : Range.boundText n ≠ [] :=
  Nat.toDigits_ne_nil

theorem isPlain_of_mem_boundText {n : UInt32} {c : Char} (h : c ∈ Range.boundText n) : IsPlain c :=
  isPlain_of_mem_ofNat h

theorem hyphen_notMem_boundText (n : UInt32) : '-' ∉ Range.boundText n := by
  intro h
  have hdigit := Nat.isDigit_of_mem_toDigits (by decide) (by decide) h
  exact absurd hdigit (by decide)

theorem parse32_boundText (n : UInt32) : Integer.parse32 (Range.boundText n) = .ok n := by
  have hn : n.toNat ≤ Integer.Format.unsigned32.greatest := by
    have := n.toNat_lt
    simp only [Integer.Format.unsigned32]
    omega
  rw [Integer.parse32, Range.boundText, Integer.Format.parse_ofNat hn]
  simp [Functor.map, Except.map]

theorem parseBound_boundText (n : UInt32) :
    Range.parseBound (Range.boundText n) = .ok (some n) := by
  obtain ⟨c, t, h⟩ := List.exists_cons_of_ne_nil (boundText_ne_nil n)
  rw [h, Range.parseBound, ← h, parse32_boundText]
  · rfl
  · exact List.cons_ne_nil c t

namespace Range

theorem isPlain_of_mem_print (r : Range) : ∀ c ∈ r.print, IsPlain c := by
  have hbound : ∀ n : UInt32, ∀ c ∈ boundText n, IsPlain c := fun n c => isPlain_of_mem_boundText
  obtain ⟨low, high⟩ := r
  cases low with
  | none =>
    cases high with
    | none => exact List.forall_mem_singleton.mpr isPlain_hyphen
    | some b => exact List.forall_mem_cons.mpr ⟨isPlain_hyphen, hbound b⟩
  | some a =>
    cases high with
    | none =>
      exact List.forall_mem_append.mpr ⟨hbound a, List.forall_mem_singleton.mpr isPlain_hyphen⟩
    | some b =>
      rw [print]
      split
      · exact hbound a
      · exact List.forall_mem_append.mpr
          ⟨hbound a, List.forall_mem_cons.mpr ⟨isPlain_hyphen, hbound b⟩⟩

theorem print_ne_nil (r : Range) : r.print ≠ [] := by
  obtain ⟨low, high⟩ := r
  cases low <;> cases high <;> simp [print, boundText_ne_nil]
  split <;> simp [boundText_ne_nil]

/-- A range is read back from its text. -/
theorem parse_print (r : Range) : parse r.print = .ok r := by
  have htrim : ∀ n, (boundText n).trim = boundText n := fun n =>
    trim_of_isPlain fun c => isPlain_of_mem_boundText
  have hempty : parseBound (Text.trim []) = .ok none := rfl
  rw [parse, trim_of_isPlain r.isPlain_of_mem_print]
  obtain ⟨low, high⟩ := r
  cases low with
  | none =>
    cases high with
    | none => rfl
    | some b =>
      rw [print]
      have hcut : Text.cutAt '-' ('-' :: boundText b) = ([], some (boundText b)) := rfl
      simp [hcut, htrim, hempty, parseBound_boundText, bind, Except.bind, pure, Except.pure]
  | some a =>
    have ha := hyphen_notMem_boundText a
    cases high with
    | none =>
      rw [print, Text.cutAt_append_cons ha]
      simp [htrim, hempty, parseBound_boundText, bind, Except.bind, pure, Except.pure]
    | some b =>
      rw [print]
      -- equal bounds are written once, without a hyphen
      by_cases hab : a = b
      · rw [if_pos hab, Text.cutAt_of_notMem ha]
        simp [parse32_boundText, exactly, hab, bind, Except.bind, pure, Except.pure]
      · rw [if_neg hab, Text.cutAt_append_cons ha]
        simp [htrim, parseBound_boundText, bind, Except.bind, pure, Except.pure]

end Range

namespace SortKey

/-- A sort key is read back from its text, which is not trimmed. -/
theorem parse_print (k : SortKey) : parse k.print = .ok k := by
  obtain ⟨column, direction⟩ := k
  cases column <;> cases direction <;> rfl

theorem trim_print (k : SortKey) : k.print.trim = k.print := by
  obtain ⟨column, direction⟩ := k
  cases column <;> cases direction <;> rfl

theorem balanced_print (k : SortKey) : Token.Balanced k.print := by
  obtain ⟨column, direction⟩ := k
  cases column <;> cases direction <;> rfl

theorem print_ne_nil (k : SortKey) : k.print ≠ [] := by
  obtain ⟨column, direction⟩ := k
  cases column <;> cases direction <;> exact List.cons_ne_nil _ _

end SortKey

/-! ### Names of directives -/

namespace Directive

theorem colon_notMem_name (d : Directive) : ':' ∉ d.name.toList := by
  cases d <;> decide

theorem trim_name (d : Directive) : Text.trim d.name.toList = d.name.toList := by
  cases d <;> rfl

theorem balanced_name (d : Directive) : Token.Balanced d.name.toList := by
  cases d <;> rfl

/-- A directive is found by its name. -/
theorem find?_name (d : Directive) : find? d.name.toList = some d := by
  cases d <;> rfl

/-- The directive that asks for a kind. -/
def ofKind : Kind → Directive
  | .movie => movie
  | .tvshow => tvshow
  | .episode => episode
  | .actor => actor

/-- A kind is written as its directive is. -/
theorem name_ofKind (k : Kind) : (ofKind k).name.toList = k.name := by
  cases k <;> rfl

theorem form_ofKind (k : Kind) : (ofKind k).form = .flag (.entity k) := by
  cases k <;> rfl

end Directive

/-! ### Pieces and calls -/

/-- The directive that a token names, if it names one. -/
def Token.directive? (token : Text) : Option Directive :=
  if isDirective token then Directive.find? (name token) else none

/-- The argument of a directive for a role. -/
def Token.argumentIn? (role : Role) (token : Text) : Option Text :=
  match (directive? token).map Directive.form with
  | some (.sub role' _) => if role = role' then argument? token else none
  | _ => none

namespace Query

/-- The call that a token stands for. -/
def readToken (token : Text) : Except Error Call :=
  Token.call? token fun a _ => parse a

/-- The calls of a text are those of its tokens. -/
theorem calls?_eq_mapM (t : Text) : calls? t = (tokens t).mapM readToken := by
  rw [calls?]
  have hread (token : Text) (h : token ∈ tokens t) :
      (Token.call? token fun a _ => (calls? a).map empty.applyAll) = readToken token :=
    congrArg (Token.call? token) (funext fun a => funext fun _ => (extend_eq empty a).symm)
  exact (List.mapM_subtype hread).trans (by rw [List.unattach_attach])

/-- A piece of text stands for a call. -/
structure Reads (p : Text) (c : Call) : Prop where
  /-- It is a piece. -/
  isPiece : Token.IsPiece p
  /-- The call is read from it. -/
  readToken : readToken p = .ok c

/-- A piece of text stands for a call in the text of a sub-query, too: it does not end the
sub-query, and it is not trimmed where it is the first or the last piece of it. -/
structure ReadsInside (p : Text) (c : Call) : Prop extends Reads p c where
  /-- Its braces are closed. -/
  balanced : Token.Balanced p
  /-- Nothing of it is trimmed. -/
  isTight : Text.IsTight p

/-- What is in braces stands for the same in a sub-query. -/
theorem Reads.inside {p : Text} {c : Call} (h : Reads p c) (hp : Token.isDirective p = true) :
    ReadsInside p c := by
  rcases h.isPiece with hw | ⟨body, hbody, rfl⟩
  · rw [hw.isDirective] at hp
    cases hp
  · refine ⟨h, hbody.braced, List.cons_ne_nil _ _, ?_, ?_⟩
    · rintro d ⟨⟩
      rfl
    · intro d hd
      rw [List.getLast?_concat] at hd
      cases hd
      rfl

/-- Pieces that are joined stand for their calls, in order. -/
theorem calls?_joined {ps : List Text} {cs : List Call} (h : List.Forall₂ Reads ps cs) :
    calls? (Text.joined [' '] ps) = .ok cs := by
  have hboth : List.Forall₂ (fun p c => Token.IsPiece p ∧ Reads p c) ps cs :=
    h.imp fun _ _ hp => ⟨hp.isPiece, hp⟩
  rw [calls?_eq_mapM, tokens_joined ((List.forall₂_and_left _ _).mp hboth).1]
  clear hboth
  induction h with
  | nil => rfl
  | cons hp _ ih =>
    rw [List.mapM_cons, hp.readToken, ih]
    rfl

/-- The query that joined pieces ask for. -/
theorem parse_joined {ps : List Text} {cs : List Call} (h : List.Forall₂ Reads ps cs) :
    parse (Text.joined [' '] ps) = .ok (empty.applyAll cs) := by
  rw [parse, extend_eq, calls?_joined h]
  rfl

/-- The call that a directive stands for, with its argument. -/
def readDirective (d : Directive) (arg : Option Text) : Except Error Call :=
  d.read arg fun a _ => parse a

/-- A directive stands for what is read from its name and its argument. -/
theorem readToken_directive {token : Text} (h : Token.isDirective token = true) :
    readToken token = match Directive.find? (Token.name token) with
      | none => .error (.unknownDirective (Token.name token))
      | some d => readDirective d (Token.argument? token) := by
  rw [readToken, Token.call?, if_pos h]
  rfl

theorem readToken_directiveText_none (d : Directive) :
    readToken (directiveText d none) = readDirective d none := by
  have hname := Token.name_braced d.colon_notMem_name d.trim_name none
  have harg := Token.argument?_braced_none d.colon_notMem_name
  rw [directiveText, readToken_directive (Token.isDirective_braced _ _), hname, d.find?_name, harg]

theorem readToken_directiveText_some (d : Directive) {a : Text} (ha : a.trim ≠ []) :
    readToken (directiveText d (some a)) = readDirective d (some a.trim) := by
  have hname := Token.name_braced d.colon_notMem_name d.trim_name (some a)
  have harg := Token.argument?_braced_some d.colon_notMem_name ha
  rw [directiveText, readToken_directive (Token.isDirective_braced _ _), hname, d.find?_name, harg]

theorem readDirective_flag {d : Directive} {c : Call} (h : d.form = .flag c) :
    readDirective d none = .ok c := by
  cases d <;> cases h <;> rfl

theorem readDirective_range {d : Directive} {call : Range → Call} (h : d.form = .range call)
    (a : Text) : readDirective d (some a) = call <$> d.readRange a := by
  cases d <;> cases h <;> rfl

theorem readDirective_sub {d : Directive} {role : Role} {call : Query → Call}
    (h : d.form = .sub role call) (a : Text) :
    readDirective d (some a) = call <$> (parse a).mapError (Error.subSearch role) := by
  cases d <;> cases h <;> rfl

theorem isSpan_directiveText (d : Directive) {arg : Option Text}
    (harg : ∀ a, arg = some a → Token.Balanced a) : Token.IsSpan (directiveText d arg) :=
  Token.isSpan_braced d.balanced_name harg

/-- A word stands for a term. -/
theorem reads_word {w : Text} (h : Token.IsWord w) : Reads w (.text w) :=
  ⟨.inl h, by rw [readToken, Token.call?, h.isDirective]; rfl⟩

/-- A word of plain characters stands for the same term in a sub-query. -/
theorem readsInside_word {w : Text} (hne : w ≠ []) (h : ∀ c ∈ w, IsPlain c) :
    ReadsInside w (.text w) := by
  refine ⟨reads_word ⟨hne, fun c hc => ⟨(h c hc).1, ?_⟩⟩, balanced_of_isPlain h, hne,
    fun c hc => (h c (List.mem_of_head? hc)).2.2, fun c hc => (h c (List.mem_of_getLast? hc)).2.2⟩
  -- blanks are white space
  cases hblank : Token.isBlank c with
  | false => rfl
  | true =>
    have hspace := (h c hc).2.2
    simp only [Token.isBlank, Bool.or_eq_true, decide_eq_true_eq] at hblank
    rcases hblank with ((rfl | rfl) | rfl) | rfl <;> cases hspace

/-- A flag stands for its call. -/
theorem reads_flag {d : Directive} {c : Call} (h : d.form = .flag c) :
    Reads (directiveText d none) c := by
  refine ⟨.inr (isSpan_directiveText d fun a ha => by cases ha), ?_⟩
  rw [readToken_directiveText_none, readDirective_flag h]

/-- The name of a kind in braces asks for the kind. -/
theorem reads_kind (k : Kind) : Reads (Directive.braced k.name none) (.entity k) := by
  rw [← Directive.name_ofKind]
  exact reads_flag (Directive.form_ofKind k)

/-- A directive with an argument stands for what is read from the argument. -/
theorem reads_directive {d : Directive} {a : Text} {c : Call} (hbalanced : Token.Balanced a)
    (htrim : a.trim ≠ []) (hread : readDirective d (some a.trim) = .ok c) :
    Reads (directiveText d (some a)) c := by
  refine ⟨.inr (isSpan_directiveText d fun a' ha' => ?_), ?_⟩
  · cases ha'
    exact hbalanced
  · rw [readToken_directiveText_some d htrim, hread]

/-- A range that is written stands for the call with the range. -/
theorem reads_range {d : Directive} {call : Range → Call} (h : d.form = .range call) (r : Range) :
    Reads (directiveText d (some r.print)) (call r) := by
  have htrim := trim_of_isPlain r.isPlain_of_mem_print
  refine reads_directive (balanced_of_isPlain r.isPlain_of_mem_print) ?_ ?_
  · rw [htrim]
    exact r.print_ne_nil
  · rw [htrim, readDirective_range h, Directive.readRange, r.parse_print]
    rfl

/-- A query that is written stands for the call with the query that is read from its text. -/
theorem reads_sub {d : Directive} {role : Role} {call : Query → Call} (h : d.form = .sub role call)
    {t : Text} {q : Query} (hbalanced : Token.Balanced t) (htrim : t.trim ≠ [])
    (hparse : parse t.trim = .ok q) : Reads (directiveText d (some t)) (call q) := by
  refine reads_directive hbalanced htrim ?_
  rw [readDirective_sub h, hparse]
  rfl

/-- The pieces of a sub-query, joined, stand for the call with the query that they ask for. -/
theorem reads_sub_joined {d : Directive} {role : Role} {call : Query → Call}
    (h : d.form = .sub role call) {ps : List Text} {cs : List Call}
    (hps : List.Forall₂ ReadsInside ps cs) (hne : ps ≠ []) :
    Reads (directiveText d (some (Text.joined [' '] ps))) (call (empty.applyAll cs)) := by
  have hall : ∀ p ∈ ps, Token.Balanced p ∧ Text.IsTight p := by
    clear hne
    induction hps with
    | nil => exact List.forall_mem_nil _
    | cons hp _ ih => exact List.forall_mem_cons.mpr ⟨⟨hp.balanced, hp.isTight⟩, ih⟩
  have htight := Text.isTight_joined hne fun p hp => (hall p hp).2
  refine reads_sub h (Token.balanced_joined fun p hp => (hall p hp).1) ?_ ?_
  · rw [htight.trim]
    exact htight.ne_nil
  · rw [htight.trim, parse_joined (hps.imp fun _ _ hp => hp.toReads)]

/-- A limit is read back if it is a positive number of 64 bits with a sign. -/
theorem reads_limit {n : UInt64} (h : n.toNat ≤ Integer.Format.signed64.greatest) :
    Reads (directiveText .limit (some (Text.ofNat n.toNat))) (.limit n) := by
  have hplain : ∀ c ∈ Text.ofNat n.toNat, IsPlain c := fun c => isPlain_of_mem_ofNat
  refine reads_directive (balanced_of_isPlain hplain) ?_ ?_
  · rw [trim_of_isPlain hplain]
    exact Nat.toDigits_ne_nil
  · rw [trim_of_isPlain hplain]
    show _ <$> Directive.readLimit .limit _ = _
    have hpos : ¬Int.ofNat n.toNat < 0 := Int.not_lt.mpr (Int.natCast_nonneg _)
    have hword : UInt64.ofNat (Int.ofNat n.toNat).toNat = n := UInt64.ofNat_toNat
    rw [Directive.readLimit, Integer.Format.parse_ofNat h]
    simp only [if_neg hpos, hword]
    rfl

/-- The limit `-1` stands for none. -/
theorem reads_unlimited : Reads (directiveText .limit (some ['-', '1'])) .unlimited :=
  reads_directive rfl (by decide) rfl

/-- A sort key that is written stands for the call with the key. -/
theorem reads_sort (k : SortKey) : Reads (directiveText .sort (some k.print)) (.sort k) := by
  refine reads_directive k.balanced_print ?_ ?_
  · rw [k.trim_print]
    exact k.print_ne_nil
  · rw [k.trim_print]
    show Call.sort <$> Directive.readSort .sort k.print = _
    rw [Directive.readSort, k.parse_print]
    rfl

/-- A similarity from zero to one whose digits are read back is read back from its directive. -/
theorem reads_similarity {x : Float} (hlow : (0.0 : Float) ≤ x) (hhigh : x ≤ 1.0)
    (hparse : FloatText.parse (plainFloat x) = .ok x) :
    Reads (directiveText .similar (some (plainFloat x))) (.minSimilarity x) := by
  have htrim := trim_of_isPlain (isPlain_of_mem_plainFloat (x := x))
  refine reads_directive (balanced_of_isPlain isPlain_of_mem_plainFloat) ?_ ?_
  · rw [htrim]
    intro hnil
    rw [hnil] at hparse
    cases hparse
  · rw [htrim]
    show Call.minSimilarity <$> Directive.readSimilarity .similar _ = _
    rw [Directive.readSimilarity, hparse]
    simp [hlow, hhigh, Functor.map, Except.map]

end Query

end Filmography
