import Shorthand.Diagnostic
import Shorthand.Lexeme

/-! Positions in a text, as line and column, both counted from one. A position is a function of what
has been read: reading two chunks one after the other is reading them as one (`advance_append`). -/
namespace Shorthand

structure Position where
  line : Nat := 1
  column : Nat := 1
deriving DecidableEq, Repr

namespace Position

/-- The position after `chunk` has been read: a line feed starts a new line, and any other character
takes one column. -/
def advance (p : Position) (chunk : Text) : Position :=
  if '\n' ∈ chunk then ⟨p.line + chunk.count '\n', (Text.lastLine chunk).length + 1⟩
  else ⟨p.line, p.column + chunk.length⟩

@[simp] theorem advance_nil (p : Position) : p.advance [] = p := rfl

theorem line_advance (p : Position) (chunk : Text) :
    (p.advance chunk).line = p.line + chunk.count '\n' := by
  by_cases h : '\n' ∈ chunk
  · simp [advance, h]
  · simp [advance, h, List.count_eq_zero_of_not_mem h]

theorem advance_append (p : Position) (a b : Text) :
    p.advance (a ++ b) = (p.advance a).advance b := by
  by_cases hb : '\n' ∈ b
  · -- The last line feed is in `b`, and only line counts come from `a`.
    have hab : '\n' ∈ a ++ b := List.mem_append_right a hb
    have hlast := Text.lastLine_append_of_mem a hb
    have hline : (p.advance (a ++ b)).line = ((p.advance a).advance b).line := by
      rw [line_advance, line_advance, line_advance, List.count_append]
      omega
    simp only [advance, hab, hb, if_true, hlast, mk.injEq, and_true] at hline ⊢
    exact hline
  · by_cases ha : '\n' ∈ a
    · have hab : '\n' ∈ a ++ b := List.mem_append_left b ha
      have hlast := Text.lastLine_append_of_notMem a hb
      simp only [advance, hab, ha, hb, if_true, if_false, hlast, List.count_append,
        List.count_eq_zero_of_not_mem hb, List.length_append, mk.injEq]
      constructor <;> omega
    · have hab : '\n' ∉ a ++ b := fun h => (List.mem_append.1 h).elim ha hb
      simp only [advance, hab, ha, hb, if_false, List.length_append, mk.injEq]
      exact ⟨trivial, (Nat.add_assoc ..).symm⟩

end Position

/-! Scans: reading the tokens of a text from where the last reading stopped. A scan counts what it has
passed, keeps the tokens found so far in order, and remembers the blanks behind the last token. A
scan that meets an unclosed string stops in front of its quote and keeps what it found before. -/

/-- The tokens of consecutive lexemes, the first of which starts at `p` behind the blanks `leading`,
and the blanks behind the last token. -/
def Token.ofLexemes (p : Position) (leading : Text) : List Lexeme → List Token × Text
  | [] => ([], leading)
  | l :: ls =>
    match l.kind? with
    | none =>
      ofLexemes (p.advance l.text) (if l.rule = .space then leading ++ l.text else leading) ls
    | some kind =>
      let (tokens, trailing) := ofLexemes (p.advance l.text) [] ls
      (⟨kind, l.text, p.line, p.column, leading⟩ :: tokens, trailing)

structure Scan where
  text : Text
  file : Option FilePath := none
  /-- The number of characters passed. -/
  offset : Nat := 0
  /-- The position behind them. -/
  position : Position := {}
  tokens : List Token := []
  /-- The blanks behind the last token, once the text is read to its end. -/
  trailing : Text := []
deriving DecidableEq, Repr

namespace Scan

/-- Passes over a chunk, whether the text holds it or not. -/
def advance (s : Scan) (chunk : Text) : Scan :=
  { s with offset := s.offset + chunk.length, position := s.position.advance chunk }

/-- The diagnostic for an unclosed string at the place that the scan has reached. -/
def openString (s : Scan) : Diagnostic where
  fault := .openString
  site :=
    { file := s.file
      line := s.position.line
      column := s.position.column
      excerpt := some (excerpt s.text s.position.line) }

def tokenize (s : Scan) : Scan × Except Diagnostic (List Token) :=
  let (lexemes, stuck) := Lexeme.segment (s.text.drop s.offset)
  let (tokens, blanks) := Token.ofLexemes s.position [] lexemes
  let reached := s.advance (lexemes.flatMap Lexeme.text)
  let read := { reached with tokens := s.tokens ++ tokens }
  if stuck = [] then ({ read with trailing := blanks }, .ok read.tokens)
  else (read, .error read.openString)

end Scan

def tokenize (t : Text) (file : Option FilePath := none) : Except Diagnostic (List Token × Text) :=
  match Scan.tokenize { text := t, file := file } with
  | (s, .ok tokens) => .ok (tokens, s.trailing)
  | (_, .error e) => .error e

end Shorthand
