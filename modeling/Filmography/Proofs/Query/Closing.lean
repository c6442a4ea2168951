import Filmography.Proofs.Query.Arguments
import Filmography.Proofs.Query.Seams

/-!
# Braces that are never closed

A text may end inside of braces. The token that is open then ends with the text, and so do the
directives inside of it; a text that goes on with the missing closing braces asks for the same.

From a directive that ends in a closing brace this one is taken away, whether it closes the
directive or another one inside of it. So the argument of an open directive may miss one brace less
or more than the text does, and what is shown is that a text asks for the same with some of the
braces that it misses, with white space between them, as long as these are all but those that the
argument has lost.

* `Token.find?_name_open`, `Token.argument?_open`: an open directive, and the same directive closed;
* `Query.agree_parse_append`: such a text, and the same text closed;
* `Query.parse_append_closing`: every text asks for the same when its missing braces are added.
-/

namespace Filmography

namespace Token

/-! ### Closing braces -/

/-- Closing braces with white space among them. -/
def IsClosing (x : Text) : Prop :=
  ∀ c ∈ x, c = '}' ∨ Text.isSpace c = true

theorem isClosing_replicate (n : Nat) : IsClosing (List.replicate n '}') :=
  fun _ hc => .inl (List.eq_of_mem_replicate hc)

/-- White space closes nothing. -/
theorem isClosing_of_isSpace {x : Text} (h : ∀ c ∈ x, Text.isSpace c = true) : IsClosing x :=
  fun c hc => .inr (h c hc)

theorem count_brace_of_isSpace {x : Text} (h : ∀ c ∈ x, Text.isSpace c = true) :
    x.count '}' = 0 := by
  refine List.count_eq_zero.mpr fun hmem => ?_
  cases h _ hmem

theorem IsClosing.append {x y : Text} (hx : IsClosing x) (hy : IsClosing y) :
    IsClosing (x ++ y) :=
  List.forall_mem_append.mpr ⟨hx, hy⟩

/-- White space may come before the braces that close something. -/
theorem isClosing_append_replicate {b : Text} (hb : ∀ c ∈ b, Text.isSpace c = true) (k : Nat) :
    IsClosing (b ++ List.replicate k '}') ∧ (b ++ List.replicate k '}').count '}' = k := by
  refine ⟨(isClosing_of_isSpace hb).append (isClosing_replicate k), ?_⟩
  rw [List.count_append, count_brace_of_isSpace hb, List.count_replicate_self, Nat.zero_add]

/-- They close as many braces as there are of them. -/
theorem IsClosing.level? {x : Text} (h : IsClosing x) (e : Nat) :
    level? (x.count '}' + e) x = some e := by
  induction x with
  | nil => rw [List.count_nil, Nat.zero_add, Token.level?]
  | cons c x ih =>
    obtain ⟨hc, hx⟩ := List.forall_mem_cons.mp h
    rcases hc with rfl | hspace
    · have hne : List.count '}' x + 1 + e ≠ 0 := by omega
      have hpred : List.count '}' x + 1 + e - 1 = List.count '}' x + e := by omega
      rw [List.count_cons_self, Token.level?, if_neg (by decide), if_pos rfl, if_neg hne, hpred]
      exact ih hx
    · have hopen : c ≠ '{' := by
        rintro rfl
        cases hspace
      have hclose : c ≠ '}' := by
        rintro rfl
        cases hspace
      rw [List.count_cons_of_ne hclose, Token.level?, if_neg hopen, if_neg hclose]
      exact ih hx

/-- What closes nothing is white space. -/
theorem IsClosing.isSpace {x : Text} (h : IsClosing x) (hcount : x.count '}' = 0) :
    ∀ c ∈ x, Text.isSpace c = true := by
  intro c hc
  refine (h c hc).resolve_left ?_
  rintro rfl
  exact List.count_eq_zero.mp hcount hc

theorem IsClosing.colon_notMem {x : Text} (h : IsClosing x) : ':' ∉ x := by
  intro hmem
  rcases h _ hmem with hc | hc
  · cases hc
  · cases hc

/-- What closes something has a last brace. -/
theorem IsClosing.exists_last {x : Text} (h : IsClosing x) {n : Nat}
    (hcount : x.count '}' = n + 1) :
    ∃ y w, x = y ++ '}' :: w ∧ IsClosing y ∧ y.count '}' = n ∧ ∀ c ∈ w, Text.isSpace c = true := by
  induction x generalizing n with
  | nil => cases hcount
  | cons c x ih =>
    obtain ⟨hc, hx⟩ : _ ∧ IsClosing x := List.forall_mem_cons.mp h
    rcases Nat.eq_zero_or_eq_succ_pred (x.count '}') with hzero | hsucc
    · -- the first character is the last brace
      have hclose : c = '}' := by
        by_contra hne
        rw [List.count_cons_of_ne hne, hzero] at hcount
        cases hcount
      subst hclose
      rw [List.count_cons_self, hzero, Nat.succ_inj] at hcount
      exact ⟨[], x, rfl, List.forall_mem_nil _, hcount, hx.isSpace hzero⟩
    · obtain ⟨y, w, rfl, hy, hycount, hw⟩ := ih hx hsucc
      refine ⟨c :: y, w, rfl, List.forall_mem_cons.mpr ⟨hc, hy⟩, ?_, hw⟩
      rw [List.count_cons] at hcount ⊢
      omega

/-! ### A directive that is open, and the same directive closed -/

/-- Inside of an open directive the same braces are missing as at its end, except that the last
brace of a directive is not inside of it. -/
theorem exists_inner_open {r x : Text} (hx : IsClosing x) (h : level? 0 r = some (x.count '}')) :
    ∃ u y, inner ('{' :: r) = u ∧ inner ('{' :: (r ++ x) ++ ['}']) = u ++ y ∧ IsClosing y ∧
      level? 0 u = some (y.count '}') := by
  have hclosed : inner ('{' :: (r ++ x) ++ ['}']) = r ++ x := by
    rw [inner, List.cons_append, List.tail_cons, withoutClosing_append]
  rw [hclosed, inner, List.tail_cons, withoutClosing]
  split
  · next hlast =>
    obtain ⟨u, rfl⟩ := List.getLast?_eq_some_iff.mp hlast
    rw [List.dropLast_concat]
    refine ⟨u, '}' :: x, rfl, by simp, List.forall_mem_cons.mpr ⟨.inl rfl, hx⟩, ?_⟩
    -- the brace that is taken away is missing in what is left
    rw [level?_append] at h
    obtain ⟨e, he, hbrace⟩ := Option.bind_eq_some_iff.mp h
    rw [he, List.count_cons_self]
    rw [level?, if_neg (by decide), if_pos rfl] at hbrace
    split at hbrace
    · cases hbrace
    · have hpred : e - 1 = x.count '}' := Option.some.inj hbrace
      congr
      omega
  · exact ⟨r, x, rfl, rfl, hx, h⟩

/-- A text without opening braces leaves no more braces open than there were. -/
theorem level?_le {depth e : Nat} {t : Text} (ht : '{' ∉ t) (h : level? depth t = some e) :
    e ≤ depth := by
  induction t generalizing depth with
  | nil =>
    cases h
    exact Nat.le_refl _
  | cons c t ih =>
    obtain ⟨hc, ht⟩ := List.ne_and_not_mem_of_not_mem_cons ht
    rw [level?, if_neg (Ne.symm hc)] at h
    split at h
    · split at h
      · cases h
      · exact Nat.le_trans (ih ht h) (Nat.sub_le _ _)
    · exact ih ht h

theorem brace_mem_of_level? {n : Nat} {t : Text} (h : level? 0 t = some (n + 1)) : '{' ∈ t := by
  by_contra hnot
  exact absurd (level?_le hnot h) (Nat.not_succ_le_zero n)

/-- After a text that misses braces nothing is trimmed but what is after the last of them. -/
theorem exists_trim_append_closing {t x : Text} {k : Nat} (ht : level? 0 t = some (k + 1))
    (hx : IsClosing x) (hcount : x.count '}' = k + 1) :
    ∃ y, (t ++ x).trim = t.trim ++ y ++ ['}'] ∧ IsClosing y ∧ y.count '}' = k := by
  obtain ⟨z, w, rfl, hz, hzcount, hw⟩ := hx.exists_last hcount
  have hne : t.trim ≠ [] := List.ne_nil_of_mem (brace_mem_of_level? (level?_trim ht))
  obtain ⟨b, hb, htrim⟩ := Text.exists_trim_append_concat hne
  refine ⟨b ++ z, ?_, (isClosing_of_isSpace hb).append hz, ?_⟩
  · have hassoc : t ++ (z ++ '}' :: w) = t ++ z ++ ['}'] ++ w := by simp
    rw [hassoc, Text.trim_append_of_isSpace hw, htrim z '}' rfl]
  · rw [List.count_append, count_brace_of_isSpace hb, Nat.zero_add, hzcount]

theorem find?_eq_none_of_brace {n : Text} (h : '{' ∈ n) : Directive.find? n = none := by
  by_contra hfound
  obtain ⟨d, hd⟩ := Option.ne_none_iff_exists'.mp hfound
  exact (Directive.forall_mem_of_find? hd _ h).1 rfl

section

variable {token token' u y : Text} (hinner : inner token = u) (hinner' : inner token' = u ++ y)
  (hy : IsClosing y) (hlevel : level? 0 u = some (y.count '}'))

include hinner hinner' hy hlevel

/-- The name of a directive is the same when the directive is closed, unless it has a brace, and
then there is no directive of this name. -/
theorem find?_name_open : Directive.find? (name token') = Directive.find? (name token) := by
  rw [name, name, hinner, hinner']
  rcases hcut : u.cutAt ':' with ⟨before, _ | after⟩
  · obtain ⟨rfl, hcolon⟩ := Text.eq_of_cutAt_none hcut
    rw [Text.cutAt_of_notMem (List.not_mem_append hcolon hy.colon_notMem)]
    rcases Nat.eq_zero_or_eq_succ_pred (y.count '}') with hzero | hsucc
    · rw [Text.trim_append_of_isSpace (hy.isSpace hzero)]
    · rw [hsucc] at hlevel
      have hbrace := brace_mem_of_level? hlevel
      rw [find?_eq_none_of_brace ((Text.mem_trim_iff rfl).mpr hbrace),
        find?_eq_none_of_brace ((Text.mem_trim_iff rfl).mpr (List.mem_append_left y hbrace))]
  · rw [Text.cutAt_append hcut]

/-- The argument of a directive is the same when the directive is closed, or it misses braces, and
then it is closed by all of the braces that it misses. -/
theorem argument?_open {d : Directive} (hname : Directive.find? (name token) = some d) :
    argument? token' = argument? token ∨
      ∃ a x, argument? token = some a ∧ argument? token' = some (a ++ x ++ ['}']) ∧
        IsClosing x ∧ depthOf 0 a = x.count '}' + 1 := by
  rw [name, hinner] at hname
  rw [argument?, argument?, hinner, hinner']
  rcases hcut : u.cutAt ':' with ⟨before, _ | after⟩
  · obtain ⟨rfl, hcolon⟩ := Text.eq_of_cutAt_none hcut
    rw [Text.cutAt_of_notMem (List.not_mem_append hcolon hy.colon_notMem)]
    exact .inl rfl
  · rw [hcut] at hname
    rw [Text.cutAt_append hcut]
    dsimp only
    rcases Nat.eq_zero_or_eq_succ_pred (y.count '}') with hzero | hsucc
    · rw [Text.trim_append_of_isSpace (hy.isSpace hzero)]
      exact .inl rfl
    · right
      rw [level?_of_cutAt hcut (balanced_of_find?_trim hname), hsucc] at hlevel
      obtain ⟨x, happend, hx, hcount⟩ := exists_trim_append_closing hlevel hy hsucc
      have htrim := level?_trim hlevel
      have hne : after.trim ≠ [] := List.ne_nil_of_mem (brace_mem_of_level? htrim)
      rw [happend, if_neg hne, if_neg (by simp)]
      refine ⟨_, x, rfl, rfl, hx, ?_⟩
      rw [hcount]
      exact depthOf_of_level? htrim

end

end Token

/-! ### Texts that miss braces -/

namespace Query

open Token

/-- A directive whose argument misses braces stands for the same call when the argument is closed:
it is read as a query, or it is not read, closed or not. -/
theorem agree_readDirective {d : Directive} {a x : Text} (hbrace : '{' ∈ a)
    (h : Agree (parse a) (parse (a ++ x))) :
    Agree (readDirective d (some a)) (readDirective d (some (a ++ x))) := by
  by_cases hform : ∃ role call, d.form = .sub role call
  · obtain ⟨role, call, hform⟩ := hform
    rw [readDirective_sub hform, readDirective_sub hform]
    exact (h.mapError _).map _
  · have hnot : ∀ role call, d.form ≠ .sub role call := fun role call hsub =>
      hform ⟨role, call, hsub⟩
    exact .of_error (fun c hc => Directive.brace_notMem_of_read hnot hc a rfl hbrace)
      fun c hc => Directive.brace_notMem_of_read hnot hc _ rfl (List.mem_append_left x hbrace)

/-- An open directive stands for the same call when it is closed, if that is so of the text that is
its argument. -/
theorem agree_readToken {r x : Text} (hx : IsClosing x) (hr : level? 0 r = some (x.count '}'))
    (hsub : ∀ a y, a.length < ('{' :: r).length → IsClosing y → depthOf 0 a = y.count '}' + 1 →
      Agree (parse a) (parse (a ++ y ++ ['}']))) :
    Agree (readToken ('{' :: r)) (readToken ('{' :: (r ++ x) ++ ['}'])) := by
  obtain ⟨u, y, hinner, hinner', hy, hlevel⟩ := exists_inner_open hx hr
  have hname := find?_name_open hinner hinner' hy hlevel
  rw [readToken_directive rfl, readToken_directive rfl, hname]
  rcases hd : Directive.find? (name ('{' :: r)) with _ | d
  · exact .of_error (fun _ h => by cases h) fun _ h => by cases h
  · rcases argument?_open hinner hinner' hy hlevel hd with hsame | ⟨a, z, harg, harg', hz, hdepth⟩
    · rw [hsame]
      exact .refl _
    · have hbrace : '{' ∈ a := by
        obtain ⟨b, s, rfl, -⟩ := exists_open_of_depthOf hdepth
        exact List.mem_append_right b (List.mem_cons_self ..)
      rw [harg, harg', List.append_assoc]
      refine agree_readDirective hbrace ?_
      rw [← List.append_assoc]
      exact hsub a z (length_argument?_lt harg) hz hdepth

/-- A text that ends inside of braces asks for the same when it is closed. -/
theorem agree_parse_append {t x : Text} (hx : IsClosing x) (ht : depthOf 0 t = x.count '}' + 1) :
    Agree (parse t) (parse (t ++ x ++ ['}'])) := by
  induction hn : t.length using Nat.strongRecOn generalizing t x with
  | ind n ih =>
    subst hn
    obtain ⟨a, r, rfl, ha, hr⟩ := exists_open_of_depthOf ht
    have htoken := agree_readToken hx hr fun a' y hlength hy hdepth =>
      ih a'.length (by simp at hlength ⊢; omega) hy hdepth rfl
    have hbody : Token.Balanced (r ++ x) := by
      rw [Token.Balanced, level?_append, hr]
      exact hx.level? 0
    have hcalls : Agree (calls? (a ++ '{' :: r)) (calls? (a ++ '{' :: r ++ x ++ ['}'])) := by
      have hassoc : a ++ '{' :: r ++ x ++ ['}'] = a ++ '{' :: ((r ++ x) ++ ['}']) := by simp
      rw [hassoc, calls?_eq_mapM, calls?_eq_mapM, tokens_append_open ha, tokens_append_open ha,
        tokens_open hr]
      rw [← List.cons_append, tokens_span hbody]
      exact htoken.mapM_append_cons _ []
    rw [parse, parse, extend_eq, extend_eq]
    exact hcalls.map _

/-- **Missing braces**: a text asks for a query exactly if it does so with as many closing braces
after it as it leaves open. -/
theorem parse_append_closing (t : Text) (q : Query) :
    parse t = .ok q ↔ parse (t ++ List.replicate (depthOf 0 t) '}') = .ok q := by
  rcases hdepth : depthOf 0 t with _ | n
  · rw [List.replicate_zero, List.append_nil]
  · rw [List.replicate_succ', ← List.append_assoc]
    refine agree_parse_append (isClosing_replicate n) ?_ q
    rw [hdepth, List.count_replicate_self]

end Query

end Filmography
