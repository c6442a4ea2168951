import Filmography.Proofs.Results
import Filmography.Proofs.Query.Reading

/-!
# What directives accept

Every directive has a form, and the form says with what argument the directive stands for which
call, and what it says to any other argument. Both are relations, `Directive.Accepts` and
`Directive.Refuses`, in terms of how ranges, numbers, sort keys and queries are read. Only a
directive whose argument is read as a query leaves the refusal to the query.

* `Query.readDirective_eq_ok_iff`: what directives stand for;
* `Query.readDirective_eq_error_iff`: what they refuse;
* `Token.readToken_eq_ok_iff`: what tokens stand for.
-/

namespace Filmography

namespace Directive

/-- A directive stands for a call with its argument, or without one. -/
inductive Accepts (d : Directive) : Option Text → Call → Prop
  /-- A flag stands for its call. -/
  | flag {c : Call} (hform : d.form = .flag c) : Accepts d none c
  /-- The argument is a range. -/
  | range {call : Range → Call} {a : Text} {r : Range} (hform : d.form = .range call)
      (h : Range.parse a = .ok r) : Accepts d (some a) (call r)
  /-- The argument is read as a query. -/
  | sub {role : Role} {call : Query → Call} {a : Text} {q : Query} (hform : d.form = .sub role call)
      (h : Query.parse a = .ok q) : Accepts d (some a) (call q)
  /-- The argument is an integer that is not negative. -/
  | limit {a : Text} {n : Int} (hform : d.form = .limit)
      (h : Integer.Format.signed64.parse a = .ok n) (hn : ¬n < 0) :
      Accepts d (some a) (.limit (UInt64.ofNat n.toNat))
  /-- The argument is a negative integer. -/
  | unlimited {a : Text} {n : Int} (hform : d.form = .limit)
      (h : Integer.Format.signed64.parse a = .ok n) (hn : n < 0) : Accepts d (some a) .unlimited
  /-- The argument is a sort key. -/
  | sort {a : Text} {key : SortKey} (hform : d.form = .sort) (h : SortKey.parse a = .ok key) :
      Accepts d (some a) (.sort key)
  /-- The argument is a number between zero and one. -/
  | similarity {a : Text} {x : Float} (hform : d.form = .similarity)
      (h : FloatText.parse a = .ok x) (hx : (0.0 ≤ x && x ≤ 1.0) = true) :
      Accepts d (some a) (.minSimilarity x)

/-- A directive cannot do with its argument, or without one. -/
inductive Refuses (d : Directive) : Option Text → Error → Prop
  /-- It takes none. -/
  | unwanted {a : Text} (h : d.argument? = none) :
      Refuses d (some a) (.directiveArgument d (.unwanted a))
  /-- It needs one. -/
  | missing {what : String} (h : d.argument? = some what) :
      Refuses d none (.directiveArgument d (.missing what))
  /-- It needs a range. -/
  | range {call : Range → Call} {a : Text} {fault : IntegerFault} (hform : d.form = .range call)
      (h : Range.parse a = .error fault) :
      Refuses d (some a) (.directiveArgument d (.range a fault))
  /-- It needs an integer. -/
  | integer {a : Text} {fault : IntegerFault} (hform : d.form = .limit)
      (h : Integer.Format.signed64.parse a = .error fault) :
      Refuses d (some a) (.directiveArgument d (.integer a fault))
  /-- It needs a number. -/
  | float {a : Text} {fault : FloatFault} (hform : d.form = .similarity)
      (h : FloatText.parse a = .error fault) :
      Refuses d (some a) (.directiveArgument d (.float a fault))
  /-- It needs a number between zero and one. -/
  | outsideUnit {a : Text} {x : Float} (hform : d.form = .similarity)
      (h : FloatText.parse a = .ok x) (hx : (0.0 ≤ x && x ≤ 1.0) = false) :
      Refuses d (some a) (.directiveArgument d (.outsideUnit a))
  /-- It needs one or two words. -/
  | sortWords {a : Text} (hform : d.form = .sort) (h : SortKey.parse a = .error .wordCount) :
      Refuses d (some a) (.directiveArgument d (.sortWords a))
  /-- It needs the words for a sort column and a direction. -/
  | unknownSort {a word : Text} (hform : d.form = .sort)
      (h : SortKey.parse a = .error (.unknown word)) :
      Refuses d (some a) (.unknownSort word)

end Directive

namespace Query

open Directive

/-! ### Reading directives -/

theorem readDirective_limit {d : Directive} (h : d.form = .limit) (a : Text) :
    readDirective d (some a) =
      (fun n => n.elim Call.unlimited Call.limit) <$> d.readLimit a := by
  cases d <;> cases h
  rfl

theorem readDirective_sort {d : Directive} (h : d.form = .sort) (a : Text) :
    readDirective d (some a) = .sort <$> d.readSort a := by
  cases d <;> cases h
  rfl

theorem readDirective_similarity {d : Directive} (h : d.form = .similarity) (a : Text) :
    readDirective d (some a) = .minSimilarity <$> d.readSimilarity a := by
  cases d <;> cases h
  rfl

theorem readDirective_unwanted {d : Directive} (h : d.argument? = none) (a : Text) :
    readDirective d (some a) = .error (.directiveArgument d (.unwanted a)) := by
  cases d <;> cases h <;> rfl

theorem readDirective_missing {d : Directive} {what : String} (h : d.argument? = some what) :
    readDirective d none = .error (.directiveArgument d (.missing what)) := by
  cases d <;> cases h <;> rfl

theorem readDirective_of_accepts {d : Directive} {arg : Option Text} {c : Call}
    (h : d.Accepts arg c) : readDirective d arg = .ok c := by
  rcases h with hform | ⟨hform, h⟩ | ⟨hform, h⟩ | ⟨hform, h, hn⟩ | ⟨hform, h, hn⟩ | ⟨hform, h⟩ |
    ⟨hform, h, hx⟩
  · exact readDirective_flag hform
  · rw [readDirective_range hform, readRange, h]
    rfl
  · rw [readDirective_sub hform, h]
    rfl
  · rw [readDirective_limit hform, readLimit, h]
    dsimp only
    rw [if_neg hn]
    rfl
  · rw [readDirective_limit hform, readLimit, h]
    dsimp only
    rw [if_pos hn]
    rfl
  · rw [readDirective_sort hform, readSort, h]
    rfl
  · rw [readDirective_similarity hform, readSimilarity, h]
    dsimp only
    rw [if_pos hx]
    rfl

theorem readDirective_of_refuses {d : Directive} {arg : Option Text} {e : Error}
    (h : d.Refuses arg e) : readDirective d arg = .error e := by
  rcases h with h | h | ⟨hform, h⟩ | ⟨hform, h⟩ | ⟨hform, h⟩ | ⟨hform, h, hx⟩ | ⟨hform, h⟩ |
    ⟨hform, h⟩
  · exact readDirective_unwanted h _
  · exact readDirective_missing h
  · rw [readDirective_range hform, readRange, h]
    rfl
  · rw [readDirective_limit hform, readLimit, h]
    rfl
  · rw [readDirective_similarity hform, readSimilarity, h]
    rfl
  · rw [readDirective_similarity hform, readSimilarity, h]
    dsimp only
    rw [if_neg (Bool.eq_false_iff.mp hx)]
    rfl
  · rw [readDirective_sort hform, readSort, h]
    rfl
  · rw [readDirective_sort hform, readSort, h]
    rfl

theorem readDirective_of_sub {d : Directive} {role : Role} {call : Query → Call} {a : Text}
    {e : Error} (hform : d.form = .sub role call) (h : parse a = .error e) :
    readDirective d (some a) = .error (.subSearch role e) := by
  rw [readDirective_sub hform, h]
  rfl

/-- A directive accepts its argument, or refuses it, or the argument is read as a query and is
refused. -/
theorem accepts_or_refuses (d : Directive) (arg : Option Text) :
    (∃ c, d.Accepts arg c) ∨ (∃ e, d.Refuses arg e) ∨
      ∃ role call a e, d.form = .sub role call ∧ arg = some a ∧ parse a = .error e := by
  rcases hform : d.form with call | call | ⟨role, call⟩ | _ | _ | _
  · rcases arg with _ | a
    · exact .inl ⟨_, .flag hform⟩
    · exact .inr (.inl ⟨_, .unwanted (by rw [Directive.argument?_eq, hform]; rfl)⟩)
  all_goals
    rcases arg with _ | a
    · exact .inr (.inl ⟨_, .missing (by rw [Directive.argument?_eq, hform]; rfl)⟩)
  · rcases h : Range.parse a with fault | r
    · exact .inr (.inl ⟨_, .range hform h⟩)
    · exact .inl ⟨_, .range hform h⟩
  · rcases h : parse a with e | q
    · exact .inr (.inr ⟨role, call, a, e, rfl, rfl, h⟩)
    · exact .inl ⟨_, .sub hform h⟩
  · rcases h : Integer.Format.signed64.parse a with fault | n
    · exact .inr (.inl ⟨_, .integer hform h⟩)
    · by_cases hn : n < 0
      · exact .inl ⟨_, .unlimited hform h hn⟩
      · exact .inl ⟨_, .limit hform h hn⟩
  · rcases h : SortKey.parse a with (word | _) | key
    · exact .inr (.inl ⟨_, .unknownSort hform h⟩)
    · exact .inr (.inl ⟨_, .sortWords hform h⟩)
    · exact .inl ⟨_, .sort hform h⟩
  · rcases h : FloatText.parse a with fault | x
    · exact .inr (.inl ⟨_, .float hform h⟩)
    · rcases hx : (decide (0.0 ≤ x) && decide (x ≤ 1.0)) with _ | _
      · exact .inr (.inl ⟨_, .outsideUnit hform h hx⟩)
      · exact .inl ⟨_, .similarity hform h hx⟩

/-- What a directive stands for is what it accepts. -/
theorem readDirective_eq_ok_iff {d : Directive} {arg : Option Text} {c : Call} :
    readDirective d arg = .ok c ↔ d.Accepts arg c := by
  refine ⟨fun h => ?_, readDirective_of_accepts⟩
  rcases accepts_or_refuses d arg with
    ⟨c', hc'⟩ | ⟨e, he⟩ | ⟨role, call, a, e, hform, rfl, he⟩
  · rw [readDirective_of_accepts hc'] at h
    cases h
    exact hc'
  · rw [readDirective_of_refuses he] at h
    cases h
  · rw [readDirective_of_sub hform he] at h
    cases h

/-- A directive is not read if it refuses its argument, or if its argument is read as a query and is
refused. -/
theorem readDirective_eq_error_iff {d : Directive} {arg : Option Text} {e : Error} :
    readDirective d arg = .error e ↔ d.Refuses arg e ∨
      ∃ role call a e', d.form = .sub role call ∧ arg = some a ∧ parse a = .error e' ∧
        e = .subSearch role e' := by
  constructor
  · intro h
    rcases accepts_or_refuses d arg with
      ⟨c, hc⟩ | ⟨e', he'⟩ | ⟨role, call, a, e', hform, rfl, he'⟩
    · rw [readDirective_of_accepts hc] at h
      cases h
    · rw [readDirective_of_refuses he'] at h
      cases h
      exact .inl he'
    · rw [readDirective_of_sub hform he'] at h
      cases h
      exact .inr ⟨role, call, a, e', hform, rfl, he', rfl⟩
  · rintro (h | ⟨role, call, a, e', hform, rfl, he', rfl⟩)
    · exact readDirective_of_refuses h
    · exact readDirective_of_sub hform he'

end Query

namespace Token

theorem directive?_eq_some_iff {token : Text} {d : Directive} :
    directive? token = some d ↔
      isDirective token = true ∧ Directive.find? (name token) = some d := by
  rw [directive?]
  split
  · next h => exact (and_iff_right h).symm
  · next h => exact iff_of_false (Option.some_ne_none d).symm fun hd => h hd.1

theorem directive?_of_isDirective {token : Text} (h : isDirective token = false) :
    directive? token = none := by
  rw [directive?, h]
  rfl

/-- A token that names a directive is read as the directive with its argument. -/
theorem readToken_of_directive? {token : Text} {d : Directive} (h : directive? token = some d) :
    Query.readToken token = Query.readDirective d (argument? token) := by
  obtain ⟨hdirective, hname⟩ := directive?_eq_some_iff.mp h
  rw [Query.readToken_directive hdirective, hname]

/-- A token that is read is a word, or a directive that accepts its argument. -/
theorem readToken_eq_ok_iff {token : Text} {c : Call} :
    Query.readToken token = .ok c ↔ (isDirective token = false ∧ c = .text token) ∨
      ∃ d, directive? token = some d ∧ d.Accepts (argument? token) c := by
  constructor
  · intro h
    rcases hdirective : isDirective token with _ | _
    · rw [Query.readToken, call?, hdirective] at h
      cases h
      exact .inl ⟨rfl, rfl⟩
    · rw [Query.readToken_directive hdirective] at h
      split at h
      · cases h
      · next d hname =>
        exact .inr ⟨d, directive?_eq_some_iff.mpr ⟨hdirective, hname⟩,
          Query.readDirective_eq_ok_iff.mp h⟩
  · rintro (⟨hdirective, rfl⟩ | ⟨d, hd, h⟩)
    · rw [Query.readToken, call?, hdirective]
      rfl
    · rw [readToken_of_directive? hd, Query.readDirective_of_accepts h]

theorem argumentIn?_eq_some_iff {role : Role} {token a : Text} :
    argumentIn? role token = some a ↔
      ∃ d call, directive? token = some d ∧ d.form = .sub role call ∧ argument? token = some a := by
  rw [argumentIn?]
  constructor
  · intro h
    split at h
    · next role' call hform =>
      obtain ⟨d, hd, hform⟩ := Option.map_eq_some_iff.mp hform
      split at h
      · next hrole =>
        subst hrole
        exact ⟨d, call, hd, hform, h⟩
      · cases h
    · cases h
  · rintro ⟨d, call, hd, hform, harg⟩
    rw [hd, Option.map_some, hform]
    dsimp only
    rw [if_pos rfl, harg]

end Token

end Filmography
