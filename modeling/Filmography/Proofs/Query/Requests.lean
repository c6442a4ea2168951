import Filmography.Proofs.Query.Reading

/-!
# Two ways to ask

What is asked of a query can be said by a call, or written as a piece of query text. A request is
what can be said in both ways; `Request.call` and `Request.piece` are the two. A request for a
sub-query says what is asked of that, again as a list of requests.

* `Request.parse_pieces`: a text of requests asks for what their calls build, in whatever order the
  requests come and however often one is repeated.
-/

namespace Filmography

/-- Something to ask of a query, by a call or in a text. -/
inductive Request where
  /-- A term. -/
  | text (word : Text)
  /-- A kind. -/
  | entity (kind : Kind)
  /-- A range of years. -/
  | years (range : Range)
  /-- A range of ranks. -/
  | rank (range : Range)
  /-- A range of numbers of votes. -/
  | votes (range : Range)
  /-- A range of seasons. -/
  | seasons (range : Range)
  /-- A range of numbers of episodes. -/
  | episodes (range : Range)
  /-- A range of billing positions. -/
  | billed (range : Range)
  /-- No movies made for TV. -/
  | noTv
  /-- No movies made for video. -/
  | noVideo
  /-- No matching by similarity. -/
  | noFuzzy
  /-- No regard for letter case. -/
  | ignoreCase
  /-- The compiled statement, logged. -/
  | debug
  /-- At most so many results. -/
  | limit (n : UInt64)
  /-- All results. -/
  | unlimited
  /-- A sort key. -/
  | sort (key : SortKey)
  /-- A least similarity. -/
  | minSimilarity (similarity : Float)
  /-- The episodes of a TV show. -/
  | tvshow (sub : List Request)
  /-- The cast of a movie, TV show or episode. -/
  | credits (sub : List Request)
  /-- The credits of an actor. -/
  | cast (sub : List Request)

namespace Request

mutual

/-- The call that makes a request. -/
def call : Request → Call
  | text word => .text word
  | entity kind => .entity kind
  | years range => .years range
  | rank range => .rank range
  | votes range => .votes range
  | seasons range => .seasons range
  | episodes range => .episodes range
  | billed range => .billed range
  | noTv => .noTv true
  | noVideo => .noVideo true
  | noFuzzy => .fuzzy false
  | ignoreCase => .ignoreCase true
  | debug => .debug true
  | limit n => .limit n
  | unlimited => .unlimited
  | sort key => .sort key
  | minSimilarity similarity => .minSimilarity similarity
  | tvshow sub => .tvshow (Query.empty.applyAll (calls sub))
  | credits sub => .credits (Query.empty.applyAll (calls sub))
  | cast sub => .cast (Query.empty.applyAll (calls sub))

/-- The calls that make requests, in order. -/
def calls : List Request → List Call
  | [] => []
  | r :: rs => call r :: calls rs

end

mutual

/-- The piece of text that makes a request: a directive, or a bare word. -/
def piece : Request → Text
  | text word => word
  | entity kind => Directive.braced kind.name none
  | years range => Query.directiveText .years (some range.print)
  | rank range => Query.directiveText .rank (some range.print)
  | votes range => Query.directiveText .votes (some range.print)
  | seasons range => Query.directiveText .seasons (some range.print)
  | episodes range => Query.directiveText .episodes (some range.print)
  | billed range => Query.directiveText .billed (some range.print)
  | noTv => Query.directiveText .notv none
  | noVideo => Query.directiveText .novideo none
  | noFuzzy => Query.directiveText .nofuzzy none
  | ignoreCase => Query.directiveText .nocase none
  | debug => Query.directiveText .debug none
  | limit n => Query.directiveText .limit (some (Text.ofNat n.toNat))
  | unlimited => Query.directiveText .limit (some ['-', '1'])
  | sort key => Query.directiveText .sort (some key.print)
  | minSimilarity similarity => Query.directiveText .similar (some (plainFloat similarity))
  | tvshow sub => Query.directiveText .show (some (Text.joined [' '] (pieces sub)))
  | credits sub => Query.directiveText .credits (some (Text.joined [' '] (pieces sub)))
  | cast sub => Query.directiveText .cast (some (Text.joined [' '] (pieces sub)))

/-- The pieces of text that make requests, in order. -/
def pieces : List Request → List Text
  | [] => []
  | r :: rs => piece r :: pieces rs

end

mutual

/-- A request that can be written: a word has something in it and neither braces nor white space, a
limit is a positive number of 64 bits with a sign, a similarity lies between zero and one and is
read back from its digits, and of a sub-query something is asked. -/
def IsWritable : Request → Prop
  | text word => word ≠ [] ∧ ∀ c ∈ word, IsPlain c
  | limit n => n.toNat ≤ Integer.Format.signed64.greatest
  | minSimilarity x => (0.0 : Float) ≤ x ∧ x ≤ 1.0 ∧ FloatText.parse (plainFloat x) = .ok x
  | tvshow sub | credits sub | cast sub => sub ≠ [] ∧ AreWritable sub
  | _ => True

/-- Requests each of which can be written. -/
def AreWritable : List Request → Prop
  | [] => True
  | r :: rs => IsWritable r ∧ AreWritable rs

end

theorem pieces_ne_nil {rs : List Request} (h : rs ≠ []) : pieces rs ≠ [] := by
  obtain ⟨r, rs, rfl⟩ := List.exists_cons_of_ne_nil h
  rw [pieces]
  exact List.cons_ne_nil _ _

mutual

/-- The piece of a request stands for the call of the request. A sub-query stands for what its own
requests build, by induction on how deep they are nested. -/
theorem reads_piece : (r : Request) → r.IsWritable → Query.ReadsInside r.piece r.call
  | text word, h => by
    rw [IsWritable] at h
    rw [piece, call]
    exact Query.readsInside_word h.1 h.2
  | entity kind, _ => by
    rw [piece, call]
    exact (Query.reads_kind kind).inside (Token.isDirective_braced _ _)
  | years range, _ => by
    rw [piece, call]
    exact (Query.reads_range rfl range).inside rfl
  | rank range, _ => by
    rw [piece, call]
    exact (Query.reads_range rfl range).inside rfl
  | votes range, _ => by
    rw [piece, call]
    exact (Query.reads_range rfl range).inside rfl
  | seasons range, _ => by
    rw [piece, call]
    exact (Query.reads_range rfl range).inside rfl
  | episodes range, _ => by
    rw [piece, call]
    exact (Query.reads_range rfl range).inside rfl
  | billed range, _ => by
    rw [piece, call]
    exact (Query.reads_range rfl range).inside rfl
  | noTv, _ => by
    rw [piece, call]
    exact (Query.reads_flag rfl).inside rfl
  | noVideo, _ => by
    rw [piece, call]
    exact (Query.reads_flag rfl).inside rfl
  | noFuzzy, _ => by
    rw [piece, call]
    exact (Query.reads_flag rfl).inside rfl
  | ignoreCase, _ => by
    rw [piece, call]
    exact (Query.reads_flag rfl).inside rfl
  | debug, _ => by
    rw [piece, call]
    exact (Query.reads_flag rfl).inside rfl
  | limit n, h => by
    rw [IsWritable] at h
    rw [piece, call]
    exact (Query.reads_limit h).inside rfl
  | unlimited, _ => by
    rw [piece, call]
    exact Query.reads_unlimited.inside rfl
  | sort key, _ => by
    rw [piece, call]
    exact (Query.reads_sort key).inside rfl
  | minSimilarity x, h => by
    rw [IsWritable] at h
    obtain ⟨hlow, hhigh, hparse⟩ := h
    rw [piece, call]
    exact (Query.reads_similarity hlow hhigh hparse).inside rfl
  | tvshow sub, h => by
    rw [IsWritable] at h
    rw [piece, call]
    exact (Query.reads_sub_joined rfl (reads_pieces sub h.2) (pieces_ne_nil h.1)).inside rfl
  | credits sub, h => by
    rw [IsWritable] at h
    rw [piece, call]
    exact (Query.reads_sub_joined rfl (reads_pieces sub h.2) (pieces_ne_nil h.1)).inside rfl
  | cast sub, h => by
    rw [IsWritable] at h
    rw [piece, call]
    exact (Query.reads_sub_joined rfl (reads_pieces sub h.2) (pieces_ne_nil h.1)).inside rfl

/-- The pieces of requests stand for their calls. -/
theorem reads_pieces : (rs : List Request) → AreWritable rs →
    List.Forall₂ Query.ReadsInside (pieces rs) (calls rs)
  | [], _ => by
    rw [pieces, calls]
    exact .nil
  | r :: rs, h => by
    rw [AreWritable] at h
    rw [pieces, calls]
    exact .cons (reads_piece r h.1) (reads_pieces rs h.2)

end

/-- **Two ways to ask.** The text of requests is read as the query that their calls build. -/
theorem parse_pieces {rs : List Request} (h : AreWritable rs) :
    Query.parse (Text.joined [' '] (pieces rs)) = .ok (Query.empty.applyAll (calls rs)) :=
  Query.parse_joined ((reads_pieces rs h).imp fun _ _ hp => hp.toReads)

private theorem parse_plainFloat_half : FloatText.parse (plainFloat 0.5) = .ok 0.5 := by
  have hdigits : plainFloat 0.5 = ['0', '.', '5'] := by decide +kernel
  rw [hdigits]
  rfl

/-- Requests of which one takes another back, one repeats what another implies, and one is for a
sub-query. -/
def mixed : List Request :=
  [seasons ⟨some 1, none⟩, entity .episode, seasons {}, unlimited,
    tvshow [entity .movie, text ['b', 'a', 'd'], minSimilarity 0.5], text ['h', '%']]

theorem parse_pieces_mixed :
    AreWritable mixed ∧
      Query.parse (Text.joined [' '] (pieces mixed)) =
        .ok (Query.empty.applyAll (calls mixed)) := by
  have hlow : (0.0 : Float) ≤ 0.5 := by decide +kernel
  have hhigh : (0.5 : Float) ≤ 1.0 := by decide +kernel
  have hbad : ∀ c ∈ ['b', 'a', 'd'], IsPlain c := by simp [IsPlain, Text.isSpace]
  have hpattern : ∀ c ∈ ['h', '%'], IsPlain c := by simp [IsPlain, Text.isSpace]
  have h : AreWritable mixed := by
    refine ⟨trivial, trivial, trivial, trivial, ⟨List.cons_ne_nil _ _, trivial, ?_, ?_, trivial⟩,
      ?_, trivial⟩
    · exact ⟨List.cons_ne_nil _ _, hbad⟩
    · exact ⟨hlow, hhigh, parse_plainFloat_half⟩
    · exact ⟨List.cons_ne_nil _ _, hpattern⟩
  exact ⟨h, parse_pieces h⟩

end Request

end Filmography
