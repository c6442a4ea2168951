import Mathlib.Logic.Relation
import Filmography.Proofs.Query.Closing

/-!
# Other spellings of a query

A query can be spelled in many ways. A directive is found by its synonyms and in any letter case,
white space around its name and around its argument is trimmed, and between tokens there may be any
blanks. All of this is so in the argument of a directive, too, if the argument is read as a query.
The directive itself does not know this: it keeps its argument as it stands, and hands it on.

One change of the spelling is a relation between texts, which is closed under putting both texts
into the argument of a directive. What carries the induction over nested changes is that a change
leaves the braces as they are, and the ends of the text, which the outer directive trims. Where a
directive is not closed, white space may go at the end of the text, and then this end is white space
on one side only; but there a brace is missing, and missing braces make no difference.

* `Query.Respelled`: one change of the spelling;
* `Query.agree_readToken_inside`: what a directive stands for, however it is spelled;
* `Query.parse_eq_ok_iff_of_respelled`: all spellings of a query ask for the same.
-/

namespace Filmography

/-! ### Directives as they are spelled -/

/-- White space, or nothing. -/
abbrev Text.Space : Type :=
  { w : Text // ∀ c ∈ w, Text.isSpace c = true }

/-- The white space in a directive, which is nothing where nothing else is said. -/
structure Directive.Spacing where
  /-- After the opening brace. -/
  opening : Text.Space := ⟨[], List.forall_mem_nil _⟩
  /-- After the name. -/
  name : Text.Space := ⟨[], List.forall_mem_nil _⟩
  /-- After the colon. -/
  colon : Text.Space := ⟨[], List.forall_mem_nil _⟩
  /-- After the argument. -/
  argument : Text.Space := ⟨[], List.forall_mem_nil _⟩

namespace Directive.Spacing

/-- A name with white space around it. -/
def aroundName (p : Spacing) (n : Text) : Text :=
  p.opening.1 ++ n ++ p.name.1

/-- An argument with white space around it. -/
def aroundArgument (p : Spacing) (a : Text) : Text :=
  p.colon.1 ++ a ++ p.argument.1

/-- What stands between the braces of a directive. -/
def inside (p : Spacing) (n : Text) : Option Text → Text
  | none => p.aroundName n
  | some a => p.aroundName n ++ ':' :: p.aroundArgument a

end Directive.Spacing

/-- What a text may go on with after the inside of a directive: the brace that closes it, or nothing
if the brace is missing. -/
inductive Token.Ends (body : Text) : Text → Prop
  /-- The directive is closed. -/
  | closed (hbody : Balanced body) (rest : Text) : Ends body ('}' :: rest)
  /-- The directive goes on to the end of the text. -/
  | missing (hbody : NoStray body) : Ends body []

namespace Query

open Directive Token

/-- One change of the spelling of a text. -/
inductive Respelled : Text → Text → Prop
  /-- Other blanks between two tokens, or none where none are needed. -/
  | gap {a g g' b : Text} (ha : a ≠ []) (hb : b ≠ []) (h : Seam a g b) (h' : Seam a g' b) :
      Respelled (a ++ g ++ b) (a ++ g' ++ b)
  /-- Another name for a directive, and other white space in it. -/
  | directive {d : Directive} {a n n' rest : Text} {arg : Option Text} (p p' : Spacing)
      (ha : depthOf 0 a = 0) (hn : find? n = some d) (hname : SameName d n n')
      (hrest : Ends (p.inside n arg) rest) :
      Respelled (a ++ '{' :: p.inside n arg ++ rest) (a ++ '{' :: p'.inside n' arg ++ rest)
  /-- Another spelling of an argument that is read as a query. -/
  | argument {d : Directive} {role : Role} {call : Query → Call} {a n x x' rest : Text}
      (p : Spacing) (ha : depthOf 0 a = 0) (hn : find? n = some d) (hform : d.form = .sub role call)
      (hx : Text.IsTight x) (hrest : Ends (p.inside n (some x)) rest) (h : Respelled x x') :
      Respelled (a ++ '{' :: p.inside n (some x) ++ rest) (a ++ '{' :: p.inside n (some x') ++ rest)

end Query

/-! ### Braces -/

namespace Token

section

variable {d : Directive} {n : Text} (hn : Directive.find? n = some d) (p : Directive.Spacing)

include hn

theorem balanced_aroundName : Balanced (p.aroundName n) :=
  ((balanced_of_isSpace p.opening.2).append (balanced_of_find? hn)).append
    (balanced_of_isSpace p.name.2)

/-- The braces of a directive are those of its argument. -/
theorem level?_inside (depth : Nat) (arg : Option Text) :
    level? depth (p.inside n arg) = level? depth (arg.getD []) := by
  rcases arg with _ | a
  · exact (balanced_aroundName hn p).level? depth
  · have hcolon : Balanced [':'] := rfl
    have hbefore : Balanced (p.aroundName n ++ [':'] ++ p.colon.1) :=
      ((balanced_aroundName hn p).append hcolon).append (balanced_of_isSpace p.colon.2)
    have hsplit : p.inside n (some a) =
        (p.aroundName n ++ [':'] ++ p.colon.1) ++ (a ++ p.argument.1) := by
      simp [Directive.Spacing.inside, Directive.Spacing.aroundArgument]
    rw [hsplit, level?_append, hbefore.level?, Option.bind_some, level?_append]
    rcases hlevel : level? depth a with _ | e
    · exact hlevel.symm
    · rw [Option.bind_some, (balanced_of_isSpace p.argument.2).level?]
      exact hlevel.symm

theorem colon_notMem_aroundName : ':' ∉ p.aroundName n := by
  have hspace : ∀ w : Text.Space, ':' ∉ w.1 := by
    intro w hmem
    cases w.2 _ hmem
  exact List.not_mem_append (List.not_mem_append (hspace _) (Directive.colon_notMem_of_find? hn))
    (hspace _)

end

/-- An argument without white space around it, if anything is left of it. -/
def trimmed? (a : Text) : Option Text :=
  if a.trim = [] then none else some a.trim

/-- The inside of a directive with closing braces for those that it misses, in its own braces. -/
def completed (body : Text) (missing : Nat) : Text :=
  '{' :: (body ++ List.replicate missing '}') ++ ['}']

theorem inner_completed (body : Text) (missing : Nat) :
    inner (completed body missing) = body ++ List.replicate missing '}' := by
  rw [inner, completed, List.cons_append, List.tail_cons, withoutClosing_append]

end Token

/-! ### Blanks between tokens -/

namespace Token

variable {a g b : Text}

/-- Between texts that can be read one after the other there are blanks at most. -/
theorem Seam.balanced (h : Seam a g b) : Balanced g := by
  rcases h with ⟨-, -, hgap⟩ | ⟨-, -⟩ | -
  · refine balanced_of_forall fun c hc => ⟨?_, ?_⟩
    · rintro rfl
      cases hgap _ hc
    · rintro rfl
      cases hgap _ hc
  · rfl
  · rfl

/-- No brace is open between them. -/
theorem Seam.depthOf_eq_zero (h : Seam a g b) : depthOf 0 a = 0 := by
  rcases h with ⟨ha, -, -⟩ | ⟨hbody, rfl⟩ | ha
  · exact ha
  · rw [depthOf_append, hbody]
    rfl
  · exact ha

/-- Any blanks may stand between them. -/
theorem Seam.blanks_of (h : Seam a g b) {g' : Text} (hne : g' ≠ [])
    (hblank : ∀ c ∈ g', isBlank c = true) : Seam a g' b :=
  .blanks h.depthOf_eq_zero hne hblank

end Token

/-! ### Reading a directive in any spelling -/

namespace Query

open Directive Token

section

variable {d : Directive} {n : Text} (hn : find? n = some d) (p : Spacing)

include hn

theorem trim_aroundName : (p.aroundName n).trim = n := by
  rw [Spacing.aroundName, Text.trim_append_of_isSpace p.name.2,
    Text.trim_append_left_of_isSpace p.opening.2, trim_of_find? hn]

/-- A directive stands for what is read from its trimmed argument, however it is spelled. -/
theorem agree_readToken_inside {arg : Option Text} {k : Nat}
    (hlevel : level? 0 (p.inside n arg) = some k) :
    Agree (readToken (completed (p.inside n arg) k)) (readDirective d (arg.bind trimmed?)) := by
  have hcolon := colon_notMem_aroundName hn p
  rw [readToken_directive rfl, Token.name, Token.argument?, inner_completed]
  rw [level?_inside hn] at hlevel
  rcases arg with _ | a
  · obtain rfl : k = 0 := (Option.some.inj hlevel).symm
    rw [Spacing.inside, List.replicate_zero, List.append_nil, Text.cutAt_of_notMem hcolon]
    dsimp only
    rw [trim_aroundName hn, hn]
    exact .refl _
  · replace hlevel : level? 0 a = some k := hlevel
    have hcut : (p.inside n (some a) ++ List.replicate k '}').cutAt ':' =
        (p.aroundName n, some (p.aroundArgument a ++ List.replicate k '}')) :=
      Text.cutAt_append (Text.cutAt_append_cons hcolon _) _
    have htrim : (p.aroundArgument a ++ List.replicate k '}').trim =
        (a ++ (p.argument.1 ++ List.replicate k '}')).trim := by
      rw [Spacing.aroundArgument, List.append_assoc, List.append_assoc,
        Text.trim_append_left_of_isSpace p.colon.2]
    rw [hcut]
    dsimp only
    rw [trim_aroundName hn, hn, htrim, Option.bind_some, trimmed?]
    rcases k with _ | k
    · rw [List.replicate_zero, List.append_nil, Text.trim_append_of_isSpace p.argument.2]
      exact .refl _
    · -- the argument misses braces, and after it is trimmed it is followed by these braces
      obtain ⟨hclosing, hcount⟩ := isClosing_append_replicate p.argument.2 (k + 1)
      obtain ⟨y, happend, hy, hycount⟩ := exists_trim_append_closing hlevel hclosing hcount
      have hinside := level?_trim hlevel
      have hbrace : '{' ∈ a.trim := brace_mem_of_level? hinside
      have hdepth : depthOf 0 a.trim = y.count '}' + 1 := by
        rw [hycount]
        exact depthOf_of_level? hinside
      rw [happend, if_neg (List.ne_nil_of_mem hbrace), if_neg (by simp), List.append_assoc]
      refine (agree_readDirective hbrace ?_).symm
      rw [← List.append_assoc]
      exact agree_parse_append hy hdepth

end

/-! ### Changes inside of a directive -/

/-- A directive that misses braces stands for the same call as with these braces. -/
theorem agree_readToken_completed {body : Text} {k : Nat} (h : level? 0 body = some k) :
    Agree (readToken ('{' :: body)) (readToken (completed body k)) := by
  refine agree_readToken (isClosing_replicate k) ?_ fun _ _ _ hy hdepth =>
    agree_parse_append hy hdepth
  rw [h, List.count_replicate_self]

/-- A directive may be changed in a text if it stands for the same call and has the same braces. -/
theorem agree_parse_of_ends {a body body' rest : Text} (ha : depthOf 0 a = 0)
    (hrest : Ends body rest) (hlevel : level? 0 body' = level? 0 body)
    (hread : ∀ k, level? 0 body = some k →
      Agree (readToken (completed body k)) (readToken (completed body' k))) :
    Agree (parse (a ++ '{' :: body ++ rest)) (parse (a ++ '{' :: body' ++ rest)) := by
  have hcalls : Agree (calls? (a ++ '{' :: body ++ rest)) (calls? (a ++ '{' :: body' ++ rest)) := by
    rw [calls?_eq_mapM, calls?_eq_mapM, List.append_assoc, List.append_assoc, List.cons_append,
      List.cons_append, tokens_append_open ha, tokens_append_open ha]
    rcases hrest with ⟨hbody, rest⟩ | ⟨k, hk⟩
    · have hbody' : Balanced body' := hlevel.trans hbody
      have hread0 := hread 0 hbody
      rw [completed, completed, List.replicate_zero, List.append_nil, List.append_nil] at hread0
      rw [← List.cons_append, ← List.cons_append, tokens_span_append hbody,
        tokens_span_append hbody']
      exact hread0.mapM_append_cons _ _
    · have hk' : level? 0 body' = some k := hlevel.trans hk
      have hopen : Agree (readToken ('{' :: body)) (readToken ('{' :: body')) :=
        (agree_readToken_completed hk).trans
          ((hread k hk).trans (agree_readToken_completed hk').symm)
      rw [List.append_nil, List.append_nil, tokens_open hk, tokens_open hk']
      exact hopen.mapM_append_cons _ _
  rw [parse, parse, extend_eq, extend_eq]
  exact hcalls.map _

/-- A text that misses braces may end in white space. -/
theorem agree_parse_trim {t : Text} {k : Nat} (hlevel : level? 0 t = some k)
    (hhead : ∀ c, t.head? = some c → Text.isSpace c = false)
    (hlast : k = 0 → ∀ c, t.getLast? = some c → Text.isSpace c = false) :
    Agree (parse t.trim) (parse t) := by
  rcases k with _ | k
  · rw [Text.trim_eq_self hhead (hlast rfl)]
    exact .refl _
  · obtain ⟨b, hb, ht⟩ := Text.exists_trimEnd_append t
    rw [← Text.trim_eq_trimEnd hhead] at ht
    obtain ⟨hclosing, hcount⟩ := isClosing_append_replicate hb k
    have hfrom : Agree (parse t.trim) (parse (t.trim ++ (b ++ List.replicate k '}') ++ ['}'])) := by
      refine agree_parse_append hclosing ?_
      rw [hcount]
      exact depthOf_of_level? (level?_trim hlevel)
    have hto : Agree (parse t) (parse (t ++ List.replicate k '}' ++ ['}'])) := by
      refine agree_parse_append (isClosing_replicate k) ?_
      rw [List.count_replicate_self]
      exact depthOf_of_level? hlevel
    rw [← List.append_assoc, ← ht] at hfrom
    exact hfrom.trans hto.symm

/-! ### Changes of the spelling -/

/-- What a change of the spelling leaves as it is: the braces, the first character, and the last
one unless braces are missing. -/
structure SameEnds (t t' : Text) : Prop where
  /-- The same braces are open. -/
  level : ∀ depth, level? depth t' = level? depth t
  /-- Both start alike. -/
  head : t'.head? = t.head?
  /-- Both end alike if all braces are closed. -/
  last : Token.Balanced t → t'.getLast? = t.getLast?

/-- A change inside of a directive that leaves its braces as they are. -/
theorem sameEnds_of_ends {a body body' rest : Text} (hrest : Ends body rest)
    (hlevel : ∀ depth, level? depth body' = level? depth body) :
    SameEnds (a ++ '{' :: body ++ rest) (a ++ '{' :: body' ++ rest) := by
  refine ⟨fun depth => ?_, ?_, fun hbalanced => ?_⟩
  · have hopen : ∀ e, level? e ('{' :: body') = level? e ('{' :: body) := fun e => hlevel (e + 1)
    simp only [level?_append, hopen]
  · rcases a with _ | ⟨c, a⟩
    · rfl
    · rfl
  · rcases hrest with ⟨hbody, rest⟩ | ⟨k, hk⟩
    · rw [List.getLast?_append_cons, List.getLast?_append_cons]
    · -- the brace of the directive is not closed
      rw [Token.Balanced, List.append_nil, level?_append] at hbalanced
      obtain ⟨e, -, he⟩ := Option.bind_eq_some_iff.mp hbalanced
      have hinside := level?_add hk (e + 1)
      have hzero : level? (0 + (e + 1)) body = some 0 := by
        rw [Nat.zero_add]
        exact he
      rw [hzero] at hinside
      cases hinside

theorem Respelled.sameEnds {t t' : Text} (h : Respelled t t') : SameEnds t t' := by
  induction h with
  | @gap a g g' b ha hb h h' =>
    refine ⟨fun depth => ?_, ?_, fun _ => ?_⟩
    · have hgap : ∀ w, Token.Balanced w → level? depth (a ++ w ++ b) = level? depth (a ++ b) := by
        intro w hw
        rw [List.append_assoc, level?_append, level?_append]
        simp only [level?_append, hw.level?, Option.bind_some]
      rw [hgap g h.balanced, hgap g' h'.balanced]
    · simp only [List.append_assoc, List.head?_append_of_ne_nil _ ha]
    · rw [List.getLast?_append_of_ne_nil _ hb, List.getLast?_append_of_ne_nil _ hb]
  | directive p p' ha hn hname hrest =>
    refine sameEnds_of_ends hrest fun depth => ?_
    rw [level?_inside hn, level?_inside (find?_of_sameName hn hname)]
  | argument p ha hn hform hx hrest h ih =>
    refine sameEnds_of_ends hrest fun depth => ?_
    rw [level?_inside hn, level?_inside hn]
    exact ih.level depth

/-- An argument that is spelled differently is read as the same query. -/
theorem agree_readDirective_trimmed {d : Directive} {role : Role} {call : Query → Call}
    (hform : d.form = .sub role call) {x x' : Text} {k : Nat} (hlevel : level? 0 x = some k)
    (hx : Text.IsTight x) (hends : SameEnds x x') (h : Agree (parse x) (parse x')) :
    Agree (readDirective d (trimmed? x)) (readDirective d (trimmed? x')) := by
  obtain ⟨c, u, rfl⟩ := List.exists_cons_of_ne_nil hx.ne_nil
  have hhead : ∀ e, x'.head? = some e → Text.isSpace e = false := by
    rw [hends.head]
    exact hx.head
  have hlast : k = 0 → ∀ e, x'.getLast? = some e → Text.isSpace e = false := by
    rintro rfl
    rw [hends.last hlevel]
    exact hx.last
  have hne : x'.trim ≠ [] := by
    have hmem : c ∈ x' := List.mem_of_head? hends.head
    exact List.ne_nil_of_mem ((Text.mem_trim_iff (hx.head c rfl)).mpr hmem)
  have htrim := agree_parse_trim ((hends.level 0).trans hlevel) hhead hlast
  rw [trimmed?, trimmed?, hx.trim, if_neg hx.ne_nil, if_neg hne, readDirective_sub hform,
    readDirective_sub hform]
  exact ((h.trans htrim.symm).mapError _).map _

/-- Both spellings ask for the same. -/
theorem Respelled.agree_parse {t t' : Text} (h : Respelled t t') : Agree (parse t) (parse t') := by
  induction h with
  | gap ha hb h h' =>
    rw [parse, parse, extend_eq, extend_eq, calls?_eq_mapM, calls?_eq_mapM, tokens_of_seam h,
      tokens_of_seam h']
    exact .refl _
  | directive p p' ha hn hname hrest =>
    have hn' := find?_of_sameName hn hname
    refine agree_parse_of_ends ha hrest ?_ fun k hk => ?_
    · rw [level?_inside hn, level?_inside hn']
    · refine (agree_readToken_inside hn p hk).trans (agree_readToken_inside hn' p' ?_).symm
      rw [level?_inside hn', ← level?_inside hn p, hk]
  | @argument d role call a n x x' rest p ha hn hform hx hrest h ih =>
    have hlevel : level? 0 (p.inside n (some x')) = level? 0 (p.inside n (some x)) := by
      rw [level?_inside hn, level?_inside hn]
      exact h.sameEnds.level 0
    refine agree_parse_of_ends ha hrest hlevel fun k hk => ?_
    have hargument : level? 0 x = some k := by
      rw [← hk, level?_inside hn]
      rfl
    have hread := agree_readDirective_trimmed hform hargument hx h.sameEnds ih
    exact (agree_readToken_inside hn p hk).trans
      (hread.trans (agree_readToken_inside hn p (hlevel.trans hk)).symm)

/-- **Spelling**: a text asks for a query in one spelling exactly if it does so in every other one,
with other names for its directives, other white space in them and other blanks between tokens, in
the text itself and in the arguments that are read as queries. -/
theorem parse_eq_ok_iff_of_respelled {t t' : Text} (h : Relation.ReflTransGen Respelled t t')
    (q : Query) : parse t = .ok q ↔ parse t' = .ok q := by
  have hagree : Agree (parse t) (parse t') := by
    induction h with
    | refl => exact .refl _
    | tail _ hstep ih => exact ih.trans hstep.agree_parse
  exact hagree q

/-- In a directive that is not closed another one is renamed, then the first one is written with
white space and in small letters, and at last it is set off from the word before it. -/
theorem parse_eq_ok_iff_of_respelled_nested :
    Relation.ReflTransGen Respelled "al\x7bSHOW:x \x7bMovies".toList
      "al \t\x7bshow : x \x7b movie".toList ∧
    ∀ q, parse "al\x7bSHOW:x \x7bMovies".toList = .ok q ↔
      parse "al \t\x7bshow : x \x7b movie".toList = .ok q := by
  have hblank : ∀ c ∈ [' '], Text.isSpace c = true := List.forall_mem_singleton.mpr rfl
  have hblanks : ∀ c ∈ [' ', '\t'], isBlank c = true :=
    List.forall_mem_cons.mpr ⟨rfl, List.forall_mem_singleton.mpr rfl⟩
  have htight : Text.IsTight "x \x7bMovies".toList :=
    ⟨List.cons_ne_nil _ _, by rintro c ⟨⟩; rfl, by rintro c ⟨⟩; rfl⟩
  have hinner : Respelled "x \x7bMovies".toList "x \x7b movie".toList :=
    @Respelled.directive .movie ['x', ' '] "Movies".toList "movie".toList [] none {}
      { opening := ⟨[' '], hblank⟩ } rfl rfl (.name (List.mem_cons_self ..)) (.missing ⟨0, rfl⟩)
  have hnested : Respelled "al\x7bSHOW:x \x7bMovies".toList "al\x7bSHOW:x \x7b movie".toList :=
    @Respelled.argument .show .tvshow .tvshow ['a', 'l'] "SHOW".toList "x \x7bMovies".toList
      "x \x7b movie".toList [] {} rfl rfl rfl htight (.missing ⟨1, rfl⟩) hinner
  have houter : Respelled "al\x7bSHOW:x \x7b movie".toList "al\x7bshow : x \x7b movie".toList :=
    @Respelled.directive .show ['a', 'l'] "SHOW".toList "show".toList []
      (some "x \x7b movie".toList) {} { name := ⟨[' '], hblank⟩, colon := ⟨[' '], hblank⟩ }
      rfl rfl (.letterCase rfl) (.missing ⟨1, rfl⟩)
  have hseam : Seam ['a', 'l'] [] "\x7bshow : x \x7b movie".toList := .opening rfl
  have hgap : Respelled "al\x7bshow : x \x7b movie".toList
      "al \t\x7bshow : x \x7b movie".toList :=
    .gap (List.cons_ne_nil _ _) (List.cons_ne_nil _ _) hseam
      (hseam.blanks_of (List.cons_ne_nil ' ' ['\t']) hblanks)
  have hsteps := ((Relation.ReflTransGen.single hnested).tail houter).tail hgap
  exact ⟨hsteps, parse_eq_ok_iff_of_respelled hsteps⟩

end Query

end Filmography
