import Shorthand.Proofs.LongestMatch

/-! Reading a text blank by blank. Lexemes take blanks run by run, and where a run is cut or joined the
lexemes change but the tokens do not. The relation `Token.Reads` takes blanks one at a time; it holds of
what `tokenize` finds and of nothing else. -/
namespace Shorthand

namespace Lexeme

/-- A blank begins the longest run of blanks. -/
theorem read?_blank {c : Char} (hc : isBlank c = true) (t : Text) :
    read? (c :: t) = some ⟨.space, c :: t.takeWhile isBlank⟩ := by
  have htake : (c :: t).takeWhile isBlank = c :: t.takeWhile isBlank := List.takeWhile_cons_of_pos hc
  refine read?_eq_some_iff.mpr ⟨?_, ⟨List.cons_ne_nil _ _, ?_⟩, ?_, nofun⟩
  · rw [← htake]
    exact List.takeWhile_prefix isBlank
  · rw [← htake]
    exact fun d hd => List.all_eq_true.mp List.all_takeWhile d hd
  · intro w hp hm
    rw [← htake]
    exact Rule.length_le_takeWhile hm.2 hp

/-- A comment goes up to the end of its line. -/
theorem read?_comment {body t : Text} (line : '\n' ∉ body) (ends : ∀ c ∈ t.head?, c = '\n') :
    read? ('#' :: (body ++ t)) = some ⟨.comment, '#' :: body⟩ := by
  refine read?_eq_some_iff.mpr ⟨⟨t, rfl⟩, ⟨body, rfl, line⟩, ?_, ?_⟩
  · rintro w hp ⟨body', rfl, hline⟩
    have hbody : body' <+: body := by
      apply prefix_of_cut (List.cons_prefix_cons.mp hp).2 _ ends
      exact fun c hc he => hline (he ▸ hc)
    exact Nat.succ_le_succ hbody.length_le
  · intro rule hrule w hp hm
    obtain rfl : rule = .space := List.mem_singleton.mp hrule
    obtain ⟨c, w, rfl⟩ := List.exists_cons_of_ne_nil hm.ne_nil
    obtain ⟨rfl, -⟩ := List.cons_prefix_cons.mp hp
    exact absurd (hm.2 '#' List.mem_cons_self) (by decide)

theorem segment_blank {c : Char} (hc : isBlank c = true) (t : Text) :
    segment (c :: t) = (⟨.space, c :: t.takeWhile isBlank⟩ :: (segment (t.dropWhile isBlank)).1,
      (segment (t.dropWhile isBlank)).2) := by
  apply segment_of_some (read?_blank hc t)
  rw [List.cons_append, List.takeWhile_append_dropWhile]

end Lexeme

namespace Token

open Lexeme

/-- The text `t`, read at position `p` behind the blanks `leading`, has the tokens `ts`, the blanks
`trailing` behind them, and the rest `stuck` that starts with an unclosed quote or is empty. -/
inductive Reads : Position → Text → Text → List Token → Text → Text → Prop where
  | nil (p : Position) (leading : Text) : Reads p leading [] [] leading []
  | stuck {p : Position} {leading rest : Text} (never : Rule.closing? rest = none) :
      Reads p leading ('"' :: rest) [] leading ('"' :: rest)
  | blank {p : Position} {leading t trailing stuck : Text} {ts : List Token} {c : Char}
      (separates : isBlank c = true) (behind : Reads (p.advance [c]) (leading ++ [c]) t ts trailing stuck) :
      Reads p leading (c :: t) ts trailing stuck
  | comment {p : Position} {leading t trailing stuck body : Text} {ts : List Token} (line : '\n' ∉ body)
      (ends : ∀ c ∈ t.head?, c = '\n')
      (behind : Reads (p.advance ('#' :: body)) leading t ts trailing stuck) :
      Reads p leading ('#' :: (body ++ t)) ts trailing stuck
  | token {p : Position} {leading t trailing stuck : Text} {ts : List Token} {l : Lexeme} {kind : TokenKind}
      (first : read? (l.text ++ t) = some l) (shown : l.kind? = some kind)
      (behind : Reads (p.advance l.text) [] t ts trailing stuck) :
      Reads p leading (l.text ++ t) (⟨kind, l.text, p.line, p.column, leading⟩ :: ts) trailing stuck

/-- Blanks in front are kept for the next token. -/
theorem Reads.blanks {p : Position} {leading w t trailing stuck : Text} {ts : List Token}
    (hw : ∀ c ∈ w, isBlank c = true) (h : Reads (p.advance w) (leading ++ w) t ts trailing stuck) :
    Reads p leading (w ++ t) ts trailing stuck := by
  induction w generalizing p leading with
  | nil =>
    rw [List.append_nil] at h
    exact h
  | cons c w ih =>
    have hrest : Reads ((p.advance [c]).advance w) (leading ++ [c] ++ w) t ts trailing stuck := by
      rw [← Position.advance_append, List.append_assoc]
      exact h
    obtain ⟨hc, hw⟩ := List.forall_mem_cons.mp hw
    exact .blank hc (ih hw hrest)

/-- What the lexemes of a text give is a reading of it. -/
theorem reads_of_segments {t stuck : Text} {ls : List Lexeme} (h : Segments t ls stuck) (p : Position)
    (leading : Text) : Reads p leading t (ofLexemes p leading ls).1 (ofLexemes p leading ls).2 stuck := by
  induction h generalizing p leading with
  | nil => exact .nil p leading
  | stuck never => exact .stuck never
  | @cons l rest ls stuck first _ ih =>
    cases hk : l.kind? with
    | some kind =>
      simp only [ofLexemes, hk]
      exact .token first hk (ih _ _)
    | none =>
      obtain ⟨-, -, -, hm⟩ := exists_rest first
      simp only [ofLexemes, hk]
      rcases (kind?_eq_none first).mp hk with hs | hc
      · rw [hs] at hm
        rw [if_pos hs]
        exact .blanks hm.2 (ih _ _)
      · have hends := head?_of_comment first hc
        rw [hc] at hm
        obtain ⟨body, htext, hline⟩ := hm
        rw [hc, if_neg nofun, htext]
        exact .comment hline hends (ih _ _)

theorem ofLexemes_blank {c : Char} (hc : isBlank c = true) (p : Position) (leading t : Text) :
    ofLexemes p leading (segment (c :: t)).1 =
        ofLexemes (p.advance [c]) (leading ++ [c]) (segment t).1 ∧
      (segment (c :: t)).2 = (segment t).2 := by
  -- A blank joins the run behind it, or is a run of its own if no blank follows.
  rw [segment_blank hc]
  cases t with
  | nil => exact ⟨rfl, rfl⟩
  | cons d t =>
    by_cases hd : isBlank d = true
    · have hposition : p.advance (c :: d :: t.takeWhile isBlank) =
          (p.advance [c]).advance (d :: t.takeWhile isBlank) := Position.advance_append p [c] _
      rw [segment_blank hd, List.takeWhile_cons_of_pos hd, List.dropWhile_cons_of_pos hd]
      simp [ofLexemes, kind?, hposition]
    · rw [List.takeWhile_cons_of_neg hd, List.dropWhile_cons_of_neg hd]
      exact ⟨rfl, rfl⟩

/-- The readings of a text are what its lexemes give, so there is one. -/
theorem reads_iff {p : Position} {leading t trailing stuck : Text} {ts : List Token} :
    Reads p leading t ts trailing stuck ↔
      ofLexemes p leading (segment t).1 = (ts, trailing) ∧ (segment t).2 = stuck := by
  constructor
  · intro h
    induction h with
    | nil => rw [segment_nil]; exact ⟨rfl, rfl⟩
    | stuck never =>
      rw [segment_of_none (read?_cons_eq_none.mpr ⟨rfl, never⟩)]
      exact ⟨rfl, rfl⟩
    | blank separates _ ih =>
      obtain ⟨htokens, hstuck⟩ := ofLexemes_blank separates _ _ _
      rw [htokens, hstuck]
      exact ih
    | comment line ends _ ih =>
      rw [segment_of_some (read?_comment line ends) rfl]
      exact ih
    | token first shown _ ih =>
      obtain ⟨htokens, hstuck⟩ := ih
      rw [segment_of_some first rfl]
      simp only [ofLexemes, shown, htokens]
      exact ⟨trivial, hstuck⟩
  · rintro ⟨htokens, hstuck⟩
    have h := reads_of_segments (segments_segment t) p leading
    rw [htokens, hstuck] at h
    exact h

end Token

/-- The tokens of a text are those of its reading to the end. -/
theorem tokenize_eq_ok_iff_reads {t : Text} {file : Option FilePath} {ts : List Token} {trailing : Text} :
    tokenize t file = .ok (ts, trailing) ↔ Token.Reads {} [] t ts trailing [] := by
  rw [tokenize_eq_ok_iff, Token.reads_iff]
  constructor
  · rintro ⟨ls, hseg, hls⟩
    rw [hseg.segment_eq]
    exact ⟨hls, rfl⟩
  · rintro ⟨htokens, hstuck⟩
    exact ⟨_, hstuck ▸ Lexeme.segments_segment t, htokens⟩

/-- A text whose reading ends at an unclosed quote is refused there. -/
theorem tokenize_of_stuck {before rest trailing : Text} {ts : List Token} (file : Option FilePath)
    (h : Token.Reads {} [] (before ++ '"' :: rest) ts trailing ('"' :: rest)) :
    tokenize (before ++ '"' :: rest) file = .error (.openQuote (before ++ '"' :: rest) before file) := by
  obtain ⟨-, hstuck⟩ := Token.reads_iff.mp h
  rcases tokenize_cases (before ++ '"' :: rest) file with ⟨ls, hseg, -⟩ | ⟨ls, rest', hseg, -, herror⟩
  · rw [hseg.segment_eq] at hstuck
    cases hstuck
  · have hrest : '"' :: rest' = '"' :: rest := by
      rw [hseg.segment_eq] at hstuck
      exact hstuck
    have htext := hseg.flatMap_text
    rw [hrest] at htext
    rw [herror, List.append_cancel_right htext]

/-- A text without tokens is read up to an open quote, which is reported. -/
theorem exists_stuck {t : Text} {file : Option FilePath} {d : Diagnostic}
    (h : tokenize t file = .error d) : ∃ before rest ts trailing, t = before ++ '"' :: rest ∧
      Token.Reads {} [] t ts trailing ('"' :: rest) ∧ d = .openQuote t before file := by
  obtain ⟨ls, rest, hseg, -, rfl⟩ := exists_openQuote h
  exact ⟨_, rest, _, _, hseg.flatMap_text.symm, Token.reads_of_segments hseg {} [], rfl⟩

end Shorthand
