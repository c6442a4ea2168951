import Filmography.Text.Basic

/-!
# Tokens

A query text is read as tokens: words between blanks, and spans from an opening brace to the brace
that closes it. Braces nest, and inside a span everything is kept as it is. Nothing is malformed:
a span that is never closed ends with the text, and a closing brace outside of spans is an
ordinary character.

`tokens` reads from left to right with the count of open braces as its only state. Reading yields
the rest of the current token together with the tokens after it, so the text is traversed once and
no buffer is kept.
-/

namespace Filmography

namespace Token

/-- The blanks that separate tokens. -/
def isBlank (c : Char) : Bool :=
  c = ' ' || c = '\t' || c = '\r' || c = '\n'

/-- The count of open braces after a character. A closing brace that closes nothing does not
count. -/
def depthAfter (depth : Nat) (c : Char) : Nat :=
  if c = '{' then depth + 1 else if c = '}' then depth - 1 else depth

/-- The count of open braces after a text. -/
def depthOf (depth : Nat) (t : Text) : Nat :=
  t.foldl depthAfter depth

/-- With `depth` braces open, the rest of the current token, and the tokens after it. -/
def scan : Nat → Text → Text × List Text
  | _, [] => ([], [])
  | 0, c :: t =>
    if c = '{' then
      let r := scan 1 t
      ([], ('{' :: r.1) :: r.2)
    else if isBlank c then ([], Text.settle (scan 0 t))
    else
      let r := scan 0 t
      (c :: r.1, r.2)
  | depth + 1, c :: t =>
    if c = '}' ∧ depth = 0 then (['}'], Text.settle (scan 0 t))
    else
      let r := scan (depthAfter (depth + 1) c) t
      (c :: r.1, r.2)

end Token

/-- The tokens of a query text. -/
def tokens (t : Text) : List Text :=
  Text.settle (Token.scan 0 t)

namespace Token

/-! ### No token is longer than the text -/

private theorem length_settle_le (r : Text × List Text) :
    (Text.settle r).flatten.length ≤ r.1.length + r.2.flatten.length := by
  obtain ⟨w, ts⟩ := r
  cases w with
  | nil => simp [Text.settle]
  | cons c w => exact Nat.le_of_eq List.length_append

/-- Reading loses blanks at most. -/
theorem length_scan_le (depth : Nat) (t : Text) :
    (scan depth t).1.length + (scan depth t).2.flatten.length ≤ t.length := by
  induction t generalizing depth with
  | nil => simp [scan]
  | cons c t ih =>
    cases depth with
    | zero =>
      rw [scan]
      have h0 := ih 0
      have h1 := ih 1
      have hs := length_settle_le (scan 0 t)
      split
      · simp [-List.length_flatten]; omega
      · split
        · simp [-List.length_flatten]; omega
        · simp [-List.length_flatten]; omega
    | succ depth =>
      rw [scan]
      have h0 := ih 0
      have h1 := ih (depthAfter (depth + 1) c)
      have hs := length_settle_le (scan 0 t)
      split
      · simp [-List.length_flatten]; omega
      · simp [-List.length_flatten]; omega

/-- No token is longer than the text. -/
theorem length_le_of_mem_tokens {t token : Text} (h : token ∈ tokens t) :
    token.length ≤ t.length := by
  have h1 : token.length ≤ (tokens t).flatten.length := (List.sublist_flatten_of_mem h).length_le
  exact Nat.le_trans h1 (Nat.le_trans (length_settle_le _) (length_scan_le 0 t))

/-! ### The parts of a directive -/

/-- Whether a token is a directive: all others are words. -/
def isDirective (token : Text) : Bool :=
  token.head? == some '{'

/-- A text without the closing brace that it ends in, if it does. -/
def withoutClosing (t : Text) : Text :=
  if t.getLast? = some '}' then t.dropLast else t

/-- What is between the braces of a directive. A missing closing brace is none to remove. -/
def inner (token : Text) : Text :=
  withoutClosing token.tail

/-- The name of a directive: what comes before the first colon, without white space around it. -/
def name (token : Text) : Text :=
  ((inner token).cutAt ':').1.trim

/-- The argument of a directive: what comes after the first colon, without white space around it.
An argument of white space only is none. -/
def argument? (token : Text) : Option Text :=
  match (inner token).cutAt ':' with
  | (_, none) => none
  | (_, some a) => if a.trim = [] then none else some a.trim

theorem length_withoutClosing_le (t : Text) : (withoutClosing t).length ≤ t.length := by
  rw [withoutClosing]
  split <;> simp

/-- An argument is shorter than its directive. -/
theorem length_argument?_lt {token a : Text} (h : argument? token = some a) :
    a.length < token.length := by
  have h1 : (inner token).length ≤ token.length :=
    Nat.le_trans (length_withoutClosing_le _) (by simp)
  rw [argument?] at h
  split at h
  · cases h
  · next b hb =>
    split at h
    · cases h
    · cases h
      have h2 : b.length < (inner token).length := Text.length_lt_of_cutAt (by rw [hb])
      have h3 := Text.length_trim_le b
      omega

end Token

end Filmography
