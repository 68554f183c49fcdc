import Shorthand.Proofs.Grammar

/-! Bookkeeping of a scan. Whatever is done with it, where a scan is depends on the text that it has consumed
and on nothing else, and what it has found it keeps. Main statement: `scan_bookkeeping`. -/
namespace Shorthand

/-- What is done with a scan: it reads on, or it passes over a chunk. -/
inductive ScanStep where
  | tokenize
  | advance (chunk : Text)
deriving DecidableEq, Repr

namespace Scan

/-- The scan behind a step, whether the step succeeds or fails. -/
def after (s : Scan) : ScanStep → Scan
  | .tokenize => s.tokenize.1
  | .advance chunk => s.advance chunk

/-- The chunks that a step passes, in order: the lexemes that it reads, or the chunk that it is given. -/
def chunks (s : Scan) : ScanStep → List Text
  | .tokenize => s.passed.map Lexeme.text
  | .advance chunk => [chunk]

def afterAll (s : Scan) (steps : List ScanStep) : Scan := steps.foldl after s

def chunksAll (s : Scan) : List ScanStep → List Text
  | [] => []
  | step :: steps => s.chunks step ++ (s.after step).chunksAll steps

variable {s s' s'' : Scan} {consumed : Text}

theorem afterAll_cons (s : Scan) (step : ScanStep) (steps : List ScanStep) :
    s.afterAll (step :: steps) = (s.after step).afterAll steps := rfl

/-- Reading moves the position over the lexemes that are passed, as one chunk. -/
theorem position_tokenize (s : Scan) :
    s.tokenize.1.position = s.position.advance (s.passed.flatMap Lexeme.text) := by
  simp only [tokenize]
  split <;> rfl

theorem text_tokenize (s : Scan) : s.tokenize.1.text = s.text := by
  simp only [tokenize]
  split <;> rfl

theorem text_afterAll (s : Scan) (steps : List ScanStep) : (s.afterAll steps).text = s.text := by
  induction steps generalizing s with
  | nil => rfl
  | cons step steps ih =>
    rw [afterAll_cons, ih]
    cases step with
    | tokenize => exact text_tokenize s
    | advance chunk => rfl

/-- The chunks that a reading passes are what the text has in front of the place that it reaches. -/
theorem flatten_chunks_tokenize (s : Scan) :
    (s.chunks .tokenize).flatten ++ s.text.drop (s.after .tokenize).offset = s.text.drop s.offset := by
  rw [chunks, ← List.flatMap_def, after, drop_offset_tokenize]
  exact (Lexeme.segments_segment (s.text.drop s.offset)).flatMap_text

/-- A scan stands behind a text if it has passed as many characters as the text has, and if its position is
that of the end of the text. -/
structure Behind (s : Scan) (consumed : Text) : Prop where
  offset : s.offset = consumed.length
  position : s.position = Position.advance {} consumed

namespace Behind

/-- Passing over a chunk adds it to what has been consumed. -/
theorem advance (h : s.Behind consumed) (chunk : Text) : (s.advance chunk).Behind (consumed ++ chunk) := by
  constructor
  · rw [List.length_append, ← h.offset]
    rfl
  · rw [Position.advance_append, ← h.position]
    rfl

/-- A step leads on by the chunks that it passes, and these count as one. -/
theorem after (h : s.Behind consumed) (step : ScanStep) :
    (s.after step).Behind (consumed ++ (s.chunks step).flatten) := by
  cases step with
  | advance chunk =>
    rw [chunks, List.flatten_singleton]
    exact h.advance chunk
  | tokenize =>
    have hmoved := h.advance (s.passed.flatMap Lexeme.text)
    rw [chunks, ← List.flatMap_def]
    constructor
    · exact (offset_tokenize s).trans hmoved.offset
    · exact (position_tokenize s).trans hmoved.position

/-- Steps lead on by all the chunks that they pass. -/
theorem afterAll (h : s.Behind consumed) (steps : List ScanStep) :
    (s.afterAll steps).Behind (consumed ++ (s.chunksAll steps).flatten) := by
  -- One step after the other: the text consumed so far grows by what the first of them passes.
  induction steps generalizing s consumed with
  | nil =>
    rw [chunksAll, List.flatten_nil, List.append_nil]
    exact h
  | cons step steps ih =>
    rw [chunksAll, List.flatten_append, ← List.append_assoc]
    exact ih (h.after step)

/-- Two scans behind the same text are at the same place. -/
theorem place_eq (h : s.Behind consumed) (h' : s'.Behind consumed) :
    s.offset = s'.offset ∧ s.position = s'.position :=
  ⟨h.offset.trans h'.offset.symm, h.position.trans h'.position.symm⟩

end Behind

/-- A scan before anything is done with it stands behind the empty text. -/
theorem behind_start (t : Text) (file : Option FilePath) : Behind { text := t, file } [] := ⟨rfl, rfl⟩

/-- A scan has gone on from another: it is as far or further, and it has added tokens behind those that were
there. -/
structure GoesOn (s s' : Scan) : Prop where
  offset : s.offset ≤ s'.offset
  tokens : s.tokens <+: s'.tokens

theorem GoesOn.refl (s : Scan) : s.GoesOn s := ⟨Nat.le_refl _, List.prefix_rfl⟩

theorem GoesOn.trans (h : s.GoesOn s') (h' : s'.GoesOn s'') : s.GoesOn s'' :=
  ⟨Nat.le_trans h.offset h'.offset, h.tokens.trans h'.tokens⟩

/-- No step takes back a character or a token. -/
theorem goesOn_after (s : Scan) (step : ScanStep) : s.GoesOn (s.after step) := by
  cases step with
  | advance chunk => exact ⟨Nat.le_add_right _ _, List.prefix_rfl⟩
  | tokenize =>
    constructor
    · rw [after, offset_tokenize]
      exact Nat.le_add_right _ _
    · rw [after, tokens_tokenize]
      exact List.prefix_append _ _

/-- So no sequence of steps does, by induction over the steps. -/
theorem goesOn_afterAll (s : Scan) (steps : List ScanStep) : s.GoesOn (s.afterAll steps) := by
  induction steps generalizing s with
  | nil => exact .refl s
  | cons step steps ih => exact (goesOn_after s step).trans (ih (s.after step))

end Scan

/-- Behind any steps, of which some may fail and some may lead beyond the end of the text, a scan has passed as
many characters as it has consumed, its line is one more than the line feeds among them, and its column is one
more than the characters behind the last line feed. So steps that consume the same text lead to the same
place, in whatever chunks they consume it. What a reading consumes is what the text has from there on, up to
where the reading stops. Further steps never lead back, and they only add tokens. -/
theorem scan_bookkeeping (t : Text) (file : Option FilePath) (steps : List ScanStep) :
    let start : Scan := { text := t, file }
    let s := start.afterAll steps
    let consumed := (start.chunksAll steps).flatten
    (s.offset = consumed.length ∧ s.position.line = 1 + consumed.count '\n' ∧
      s.position.column = 1 + (Text.lastLine consumed).length) ∧
    (∀ (t' : Text) (file' : Option FilePath) (steps' : List ScanStep),
      let start' : Scan := { text := t', file := file' }
      (start'.chunksAll steps').flatten = consumed →
        (start'.afterAll steps').offset = s.offset ∧ (start'.afterAll steps').position = s.position) ∧
    (s.chunks .tokenize).flatten ++ t.drop (s.after .tokenize).offset = t.drop s.offset ∧
    ∀ more, s.offset ≤ (s.afterAll more).offset ∧ s.tokens <+: (s.afterAll more).tokens := by
  intro start s consumed
  have hs : s.Behind consumed := (Scan.behind_start t file).afterAll steps
  refine ⟨⟨hs.offset, ?line, ?column⟩, fun t' file' steps' => ?place, ?read, fun more => ?further⟩
  case line => rw [hs.position, Position.advance_start]
  case column => rw [hs.position, Position.advance_start]
  case place =>
    intro start' hsame
    have hs' : (start'.afterAll steps').Behind consumed := by
      rw [← hsame]
      exact (Scan.behind_start t' file').afterAll steps'
    exact hs'.place_eq hs
  case read =>
    have htext : s.text = t := start.text_afterAll steps
    rw [← htext]
    exact s.flatten_chunks_tokenize
  case further =>
    have hmore := s.goesOn_afterAll more
    exact ⟨hmore.offset, hmore.tokens⟩

/-- A scan stops at an open quote, is led over it and beyond the end of its text, and finds nothing more there.
A scan of the empty text that is led over the same characters in two chunks is at the same place. -/
theorem scan_bookkeeping_beyond :
    let start : Scan := { text := "a\n\"b".toList }
    let s := start.afterAll [.tokenize, .advance "\"b\n\nx".toList, .tokenize]
    let start' : Scan := { text := [] }
    let steps' : List ScanStep := [.advance "a\n\"b\n".toList, .advance "\nx".toList]
    (start'.chunksAll steps').flatten = "a\n\"b\n\nx".toList ∧
    s.offset = 7 ∧ s.position = ⟨4, 2⟩ ∧
    (start'.afterAll steps').offset = s.offset ∧ (start'.afterAll steps').position = s.position ∧
    start.tokenize.1.tokens <+: s.tokens := by
  intro start s start' steps'
  have hconsumed : (start.chunksAll [.tokenize, .advance "\"b\n\nx".toList, .tokenize]).flatten =
      "a\n\"b\n\nx".toList := by decide +kernel
  obtain ⟨⟨hoffset, hline, hcolumn⟩, hplace, -⟩ :=
    scan_bookkeeping "a\n\"b".toList none [.tokenize, .advance "\"b\n\nx".toList, .tokenize]
  rw [hconsumed] at hoffset hline hcolumn
  obtain ⟨hoffset', hposition'⟩ := hplace [] none steps' hconsumed.symm
  obtain ⟨-, -, -, hfurther⟩ := scan_bookkeeping "a\n\"b".toList none [.tokenize]
  have hposition : s.position = ⟨4, 2⟩ := by
    rw [Position.mk.injEq]
    exact ⟨hline, hcolumn⟩
  exact ⟨rfl, hoffset, hposition, hoffset', hposition',
    (hfurther [.advance "\"b\n\nx".toList, .tokenize]).2⟩

end Shorthand
