import Shorthand.Toml.Scalar

/-! Strings, keys and values of configuration documents. A reading gives what it has read and the
text behind it, which is shorter than the text before; that is why reading nested values ends. -/
namespace Shorthand.Toml

/-- Something read from the start of `t`, and the rest of `t`. -/
abbrev Reading (α : Type) (t : Text) := { r : α × Text // r.2.length < t.length }

namespace Reading

/-- Reads `a` as the first `n + 1` characters of a text that is not empty. -/
def ofLength (a : α) (c : Char) (t : Text) (n : Nat) : Reading α (c :: t) :=
  ⟨(a, t.drop n), by simp only [List.length_drop, List.length_cons]; omega⟩

/-- The same reading, seen from a longer text and with another result. -/
def widen {s t : Text} (h : s.length ≤ t.length) (r : Reading α s) (f : α → β) : Reading β t :=
  ⟨(f r.1.1, r.1.2), Nat.lt_of_lt_of_le r.2 h⟩

/-- The same reading, seen from a text with one more character in front and with another result. -/
def behind (c : Char) {t : Text} (r : Reading α t) (f : α → β) : Reading β (c :: t) :=
  r.widen (Nat.le_succ _) f

end Reading

theorem length_dropWhile_le (p : Char → Bool) (t : Text) : (t.dropWhile p).length ≤ t.length :=
  (List.dropWhile_sublist p).length_le

def isSpace (c : Char) : Bool := c == ' ' || c == '\t'

/-- A control character, which may not stand for itself; the tab is not one of them. -/
def isControl (c : Char) : Bool := (c.toNat < 32 && c != '\t') || c.toNat == 127

def isControlInLine (c : Char) : Bool := isControl c && c != '\n'

def skipSpaces (t : Text) : Text := t.dropWhile isSpace

def skipBlankLines (t : Text) : Text := t.dropWhile fun c => isSpace c || c == '\n'

theorem length_skipSpaces_le (t : Text) : (skipSpaces t).length ≤ t.length :=
  length_dropWhile_le _ t

def spaces (t : Text) : { s : Text // s.length ≤ t.length } := ⟨skipSpaces t, length_skipSpaces_le t⟩

theorem length_skipBlankLines_le (t : Text) : (skipBlankLines t).length ≤ t.length :=
  length_dropWhile_le _ t

def isBareKeyChar (c : Char) : Bool := c.isAlphanum || c == '_' || c == '-'

def isCommentChar (c : Char) : Bool := c != '\n'

/-- Drops a comment, which may hold no control character. -/
def skipComment (t : Text) : Except Error Text :=
  match t with
  | '#' :: rest =>
    if (rest.takeWhile isCommentChar).any isControl then .error .malformed
    else .ok (rest.dropWhile isCommentChar)
  | t => .ok t

theorem length_le_of_skipComment {s t : Text} (h : skipComment t = .ok s) : s.length ≤ t.length := by
  unfold skipComment at h
  split at h
  · split at h
    · cases h
    · cases h
      exact Nat.le_succ_of_le (length_dropWhile_le _ _)
  · cases h
    exact Nat.le_refl _

def skipAll (t : Text) : Except Error { s : Text // s.length ≤ t.length } :=
  match h : skipComment (skipBlankLines t) with
  | .error e => .error e
  | .ok s =>
    have hs : s.length ≤ t.length :=
      Nat.le_trans (length_le_of_skipComment h) (length_skipBlankLines_le t)
    if _h : s.length < t.length then do
      let ⟨r, hr⟩ ← skipAll s
      return ⟨r, Nat.le_trans hr hs⟩
    else .ok ⟨s, hs⟩
termination_by t.length

/-! ### Strings -/

def escape? : Char → Option Char
  | 'b' => some '\x08'
  | 't' => some '\t'
  | 'n' => some '\n'
  | 'f' => some '\x0c'
  | 'r' => some '\r'
  | '"' => some '"'
  | '\\' => some '\\'
  | _ => none

def codeLength? : Char → Option Nat
  | 'u' => some 4
  | 'U' => some 8
  | _ => none

/-- The character whose code point is written with exactly `n` hexadecimal digits at the start. -/
def codePoint? (n : Nat) (t : Text) : Option Char :=
  let digits := t.take n
  let code := digitsValue 16 digits
  if digits.length = n ∧ digits.all isHexDigit ∧ code.isValidChar then some (Char.ofNat code)
  else none

/-- What is left of a text behind a backslash that ends its line: blanks and line feeds are dropped up
to the next other character. -/
def continueLine (t : Text) : Except Error Text :=
  match skipSpaces t with
  | '\n' :: rest => .ok (skipBlankLines rest)
  | [] => .ok []
  | _ => .error .malformed

theorem length_le_of_continueLine {s t : Text} (h : continueLine t = .ok s) :
    s.length ≤ t.length := by
  have ht := length_skipSpaces_le t
  unfold continueLine at h
  split at h
  · rename_i rest heq
    cases h
    rw [heq] at ht
    exact Nat.le_trans (length_skipBlankLines_le rest) (Nat.le_of_succ_le ht)
  · cases h
    exact Nat.zero_le _
  · cases h

def startsTriple (quote : Char) (t : Text) : Bool := [quote, quote, quote].isPrefixOf t

theorem length_drop_lt (c d : Char) (t : Text) (n : Nat) :
    (t.drop n).length < (c :: d :: t).length := by
  simp only [List.length_drop, List.length_cons]
  omega

/-- The rest of a basic string, behind its opening quotes. Over several lines it ends at three quotes, and
a backslash may end a line. -/
def basicString (multiline : Bool) : (t : Text) → Except Error (Reading Text t)
  | [] => .error .malformed
  | c :: rest =>
    if c = '"' then
      if multiline then
        if startsTriple '"' (c :: rest) then .ok (.ofLength [] c rest 2)
        else (basicString multiline rest).map fun r => r.behind c (c :: ·)
      else .ok (.ofLength [] c rest 0)
    else if c = '\\' then
      match rest with
      | [] => .error .malformed
      | d :: tail =>
        if multiline ∧ (isSpace d ∨ d = '\n') then
          match h : continueLine (d :: tail) with
          | .error e => .error e
          | .ok s =>
            have hs := length_le_of_continueLine h
            (basicString multiline s).map fun r => r.widen (Nat.le_succ_of_le hs) id
        else match codeLength? d with
          | some n =>
            match codePoint? n tail with
            | none => .error .malformed
            | some x => (basicString multiline (tail.drop n)).map fun r =>
              r.widen (Nat.le_of_lt (length_drop_lt c d tail n)) (x :: ·)
          | none =>
            match escape? d with
            | none => .error .malformed
            | some x => (basicString multiline tail).map fun r =>
              r.widen (Nat.le_of_lt (length_drop_lt c d tail 0)) (x :: ·)
    else if isControl c ∧ ¬(multiline ∧ c = '\n') then .error .malformed
    else (basicString multiline rest).map fun r => r.behind c (c :: ·)
termination_by t => t.length
decreasing_by
  · exact Text.length_lt_cons c rest
  · exact Nat.lt_succ_of_le hs
  · exact length_drop_lt c d tail n
  · exact length_drop_lt c d tail 0
  · exact Text.length_lt_cons c rest

def literalString : (t : Text) → Except Error (Reading Text t)
  | [] => .error .malformed
  | c :: rest =>
    if c = '\'' then .ok (.ofLength [] c rest 0)
    else if isControl c then .error .malformed
    else (literalString rest).map fun r => r.behind c (c :: ·)

/-- The rest of a literal string over several lines, behind its opening quotes. -/
def literalLines : (t : Text) → Except Error (Reading Text t)
  | [] => .error .malformed
  | c :: rest =>
    if startsTriple '\'' (c :: rest) then .ok (.ofLength [] c rest 2)
    else if isControlInLine c then .error .malformed
    else (literalLines rest).map fun r => r.behind c (c :: ·)

/-- Adds up to two further quotes, which belong to a string that ends in four or five of them. -/
def extraQuotes {t : Text} (quote : Char) (r : Reading Text t) : Reading Text t :=
  match hr : r.1.2 with
  | [] => r
  | c :: rest =>
    if c = quote then
      match rest with
      | d :: rest' =>
        if d = quote then
          ⟨(r.1.1 ++ [quote, quote], rest'), by
            have h := r.2
            rw [hr] at h
            simp only [List.length_cons] at h
            show rest'.length < t.length
            omega⟩
        else
          ⟨(r.1.1 ++ [quote], d :: rest'), by
            have h := r.2
            rw [hr] at h
            simp only [List.length_cons] at h
            show (d :: rest').length < t.length
            simp only [List.length_cons]
            omega⟩
      | [] =>
        ⟨(r.1.1 ++ [quote], []), by
          have h := r.2
          rw [hr] at h
          simp only [List.length_cons, List.length_nil] at h
          show 0 < t.length
          omega⟩
    else r

/-- Drops a line feed at the start, which does not belong to a string over several lines. -/
def dropLineFeed : Text → Text
  | '\n' :: rest => rest
  | t => t

theorem length_dropLineFeed_le (t : Text) : (dropLineFeed t).length ≤ t.length := by
  unfold dropLineFeed
  split
  · exact Nat.le_succ _
  · exact Nat.le_refl _

/-- A string over several lines, behind the first of its three opening quotes. -/
def multilineString (quote : Char) (rest : Text) : Except Error (Reading Text (quote :: rest)) :=
  let body := dropLineFeed (rest.drop 2)
  have h : body.length ≤ (quote :: rest).length := by
    have := length_dropLineFeed_le (rest.drop 2)
    show (dropLineFeed (rest.drop 2)).length ≤ (quote :: rest).length
    simp only [List.length_drop] at this
    simp only [List.length_cons]
    omega
  let inner := if quote = '"' then basicString true body else literalLines body
  inner.map fun r => extraQuotes quote (r.widen h id)

def lineString (quote : Char) (rest : Text) : Except Error (Reading Text (quote :: rest)) :=
  let inner := if quote = '"' then basicString false rest else literalString rest
  inner.map fun r => r.behind quote id

/-! ### Keys -/

def keyPart : (t : Text) → Except Error (Reading Text t)
  | [] => .error .malformed
  | c :: rest =>
    if isBareKeyChar c then
      .ok (.ofLength (c :: rest.takeWhile isBareKeyChar) c rest (rest.takeWhile isBareKeyChar).length)
    else if c = '"' ∨ c = '\'' then lineString c rest
    else .error .malformed

def key (t : Text) : Except Error (Reading (List Text) t) := do
  let ⟨(part, rest), h⟩ ← keyPart t
  have hs := length_skipSpaces_le rest
  match hr : skipSpaces rest with
  | '.' :: tail =>
    have ht : (skipSpaces tail).length < t.length := by
      have := length_skipSpaces_le tail
      rw [hr, List.length_cons] at hs
      simp only at h
      omega
    let r ← key (skipSpaces tail)
    return r.widen (Nat.le_of_lt ht) (part :: ·)
  | tail => return ⟨([part], tail), by rw [← hr]; exact Nat.lt_of_le_of_lt hs h⟩
termination_by t.length

end Shorthand.Toml
