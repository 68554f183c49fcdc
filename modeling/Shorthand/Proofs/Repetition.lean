import Shorthand.Proofs.Bookkeeping
import Shorthand.Proofs.LongestMatch
import Shorthand.Proofs.Reconstruction

/-! Reading again. A scan that has stopped at an open quote has found what is in front of it, and it stops
there again however often it is asked. A scan that has come to the end stays there and keeps its tokens, but
the blanks behind the last of them are known after the first reading only. Main statements:
`tokenize_interrupted` and `tokenize_repeated`. -/
namespace Shorthand

namespace Lexeme

/-- A lexeme is read again if the text is cut off somewhere behind it. -/
theorem read?_of_append {l : Lexeme} {kept rest : Text} (h : read? (l.text ++ (kept ++ rest)) = some l) :
    read? (l.text ++ kept) = some l := by
  apply read?_of_agree h (List.prefix_append _ _)
  intro rule _ w _ hw
  rw [← List.append_assoc]
  exact hw.trans (List.prefix_append _ _)

/-- What is read in front of an unclosed quote is a text of its own, with the same lexemes. -/
theorem Segments.of_stuck {t stuck : Text} {ls : List Lexeme} (h : Segments t ls stuck) :
    Segments (ls.flatMap text) ls [] := by
  induction h with
  | nil => exact .nil
  | stuck => exact .nil
  | @cons l rest ls stuck first behind ih =>
    rw [← behind.flatMap_text] at first
    rw [List.flatMap_cons]
    exact .cons (read?_of_append first) ih

end Lexeme

namespace Scan

variable {s : Scan} {d : Diagnostic} {tokens : List Token}

/-- A reading ends behind the text, or in front of an unclosed quote. -/
theorem tokenize_ends (s : Scan) :
    (s.tokenize.2 = .ok s.tokenize.1.tokens ∧ s.tokenize.1.text.length ≤ s.tokenize.1.offset) ∨
      ∃ rest, s.tokenize.2 = .error s.tokenize.1.openString ∧ s.tokenize.1.trailing = s.trailing ∧
        s.tokenize.1.text.drop s.tokenize.1.offset = '"' :: rest ∧ Rule.closing? rest = none := by
  rw [text_tokenize, drop_offset_tokenize, ← List.drop_eq_nil_iff, drop_offset_tokenize]
  by_cases hs : (Lexeme.segment (s.text.drop s.offset)).2 = []
  · left
    simp [tokenize, hs]
  · right
    obtain ⟨rest, hrest, never⟩ := (Lexeme.segments_segment (s.text.drop s.offset)).stuck_eq hs
    refine ⟨rest, ?_, ?_, hrest, never⟩
    · simp [tokenize, hs]
    · simp [tokenize, hs, advance]

/-- A reading that succeeds has come to the end. -/
theorem ends_of_tokenize_ok (h : s.tokenize.2 = .ok tokens) :
    s.tokenize.1.tokens = tokens ∧ s.tokenize.1.text.length ≤ s.tokenize.1.offset := by
  rcases tokenize_ends s with ⟨hok, hend⟩ | ⟨-, herror, -⟩
  · exact ⟨Except.ok.inj (hok.symm.trans h), hend⟩
  · rw [herror] at h
    cases h

/-- A reading that fails stands in front of an unclosed quote, and has not come to know of any blanks. -/
theorem stuck_of_tokenize_error (h : s.tokenize.2 = .error d) :
    d = s.tokenize.1.openString ∧ s.tokenize.1.trailing = s.trailing ∧
      ∃ rest, s.tokenize.1.text.drop s.tokenize.1.offset = '"' :: rest ∧ Rule.closing? rest = none := by
  rcases tokenize_ends s with ⟨hok, -⟩ | ⟨rest, herror, htrailing, hrest, never⟩
  · rw [hok] at h
    cases h
  · exact ⟨Except.error.inj (h.symm.trans herror), htrailing, rest, hrest, never⟩

/-- A scan in front of an unclosed quote passes nothing, and it fails. -/
theorem tokenize_of_stuck {rest : Text} (hrest : s.text.drop s.offset = '"' :: rest)
    (never : Rule.closing? rest = none) : s.tokenize = (s, .error s.openString) := by
  have hread : Lexeme.read? ('"' :: rest) = none := Lexeme.read?_cons_eq_none.mpr ⟨rfl, never⟩
  simp only [tokenize, hrest, Lexeme.segment_of_none hread, Token.ofLexemes, List.flatMap_nil,
    List.append_nil, advance, List.length_nil, Nat.add_zero, Position.advance_nil]
  rfl

/-- A scan at the end of its text passes nothing, and it knows of no blanks then. -/
theorem tokenize_of_end (h : s.text.length ≤ s.offset) :
    s.tokenize = ({ s with trailing := [] }, .ok s.tokens) := by
  simp only [tokenize, List.drop_eq_nil_of_le h, Lexeme.segment_nil, Token.ofLexemes, List.flatMap_nil,
    List.append_nil, advance, List.length_nil, Nat.add_zero, Position.advance_nil, if_true]

/-- A scan in front of an unclosed quote stays as it is, and fails each time in the same way. -/
theorem tokenize_afterAll_of_stuck {rest : Text} (hrest : s.text.drop s.offset = '"' :: rest)
    (never : Rule.closing? rest = none) (n : Nat) :
    (s.afterAll (List.replicate n .tokenize)).tokenize = (s, .error s.openString) := by
  have hagain := tokenize_of_stuck hrest never
  induction n with
  | zero => exact hagain
  | succ n ih =>
    have hfixed : s.after .tokenize = s := congrArg Prod.fst hagain
    rw [List.replicate_succ, afterAll_cons, hfixed]
    exact ih

/-- A scan at the end of its text stays as it is, but for the blanks. -/
theorem tokenize_afterAll_of_end (h : s.text.length ≤ s.offset) (n : Nat) :
    (s.afterAll (List.replicate n .tokenize)).tokenize = ({ s with trailing := [] }, .ok s.tokens) := by
  induction n generalizing s with
  | zero => exact tokenize_of_end h
  | succ n ih =>
    have hnext : s.after .tokenize = { s with trailing := [] } := congrArg Prod.fst (tokenize_of_end h)
    rw [List.replicate_succ, afterAll_cons, hnext]
    exact ih h

theorem tokenize_of_error {t : Text} {file : Option FilePath}
    (h : (Scan.tokenize { text := t, file }).2 = .error d) : Shorthand.tokenize t file = .error d := by
  rw [Shorthand.tokenize]
  rcases hrun : Scan.tokenize { text := t, file } with ⟨s, d' | tokens⟩
  · rw [hrun] at h
    exact congrArg Except.error (Except.error.inj h)
  · rw [hrun] at h
    cases h

end Scan

open Scan

/-- A reading that fails stops in front of the quote that opens the literal in which the text ends, and the
diagnostic points there. The tokens found are all that the text has up to the quote, and no blanks are known
behind them. Whoever asks again gets the same diagnostic, and the scan stays as it is. -/
theorem tokenize_interrupted (t : Text) (file : Option FilePath) (d : Diagnostic)
    (h : (Scan.tokenize { text := t, file }).2 = .error d) :
    let s := (Scan.tokenize { text := t, file }).1
    (∃ before inside, t = before ++ '"' :: inside ∧ s.offset = before.length ∧
      Zone.code.behind before = .code ∧
      ∀ p, p <+: inside → Zone.string.behind p = .string ∨ Zone.string.behind p = .escape) ∧
    (d.fault = .openString ∧ d.site.line = s.position.line ∧ d.site.column = s.position.column) ∧
    (∃ trailing, tokenize (t.take s.offset) file = .ok (s.tokens, trailing)) ∧
    s.trailing = [] ∧
    ∀ n, (s.afterAll (List.replicate n .tokenize)).tokenize = (s, .error d) := by
  intro s
  obtain ⟨ls, inside, hseg, never, hd⟩ := exists_openQuote (tokenize_of_error h)
  have hpassed : Scan.passed { text := t, file } = ls := congrArg Prod.fst hseg.segment_eq
  have hoffset : s.offset = (ls.flatMap Lexeme.text).length := by
    rw [offset_tokenize, hpassed]
    exact Nat.zero_add _
  have hposition : s.position = Position.advance {} (ls.flatMap Lexeme.text) := by
    rw [position_tokenize, hpassed]
  have htokens : s.tokens = (Token.ofLexemes {} [] ls).1 := by
    rw [tokens_tokenize, hpassed]
    rfl
  have hbefore : t.take s.offset = ls.flatMap Lexeme.text := by
    rw [hoffset, ← hseg.flatMap_text]
    exact List.take_left
  obtain ⟨hopen, htrailing, rest, hrest, hclosing⟩ := stuck_of_tokenize_error h
  refine ⟨⟨_, inside, hseg.flatMap_text.symm, hoffset, hseg.behind_stuck,
    fun p hp => Zone.behind_never never hp⟩, ?site, ?tokens, ?trailing, fun n => ?again⟩
  case site =>
    rw [hd, hposition]
    exact ⟨rfl, rfl, rfl⟩
  case tokens =>
    refine ⟨(Token.ofLexemes {} [] ls).2, ?_⟩
    rw [hbefore, htokens]
    exact tokenize_eq_ok_iff.mpr ⟨ls, hseg.of_stuck, rfl⟩
  case trailing => exact htrailing
  case again =>
    rw [hopen]
    exact tokenize_afterAll_of_stuck hrest hclosing n

/-- The text ends in a literal with an escaped quote; in front of it there are a quote in a comment and a
literal that is closed. -/
theorem tokenize_interrupted_escape :
    let start : Scan := { text := "a #\"\n\"b\" \"c\\\"".toList }
    let d : Diagnostic := ⟨.openString, ⟨none, 2, 5, some "a #\"\n\"b\" \"c\\\"".toList⟩⟩
    let tokens : List Token := [⟨.atom, ['a'], 1, 1, []⟩, ⟨.string, "\"b\"".toList, 2, 1, " \n".toList⟩]
    start.tokenize.2 = .error d ∧ start.tokenize.1.offset = 9 ∧ start.tokenize.1.tokens = tokens ∧
    tokenize "a #\"\n\"b\" ".toList none = .ok (tokens, [' ']) ∧
    (start.tokenize.1.afterAll [.tokenize, .tokenize]).tokenize = (start.tokenize.1, .error d) := by
  intro start d tokens
  have herror : start.tokenize.2 = .error d := by decide +kernel
  have hoffset : start.tokenize.1.offset = 9 := by decide +kernel
  have hread : tokenize "a #\"\n\"b\" ".toList none = .ok (tokens, [' ']) := by decide +kernel
  obtain ⟨-, -, ⟨trailing, htokens⟩, -, hagain⟩ := tokenize_interrupted _ none d herror
  have hsame : tokenize "a #\"\n\"b\" ".toList none = .ok (start.tokenize.1.tokens, trailing) := by
    rw [hoffset] at htokens
    exact htokens
  have hfound : start.tokenize.1.tokens = tokens :=
    (Prod.mk.inj (Except.ok.inj (hsame.symm.trans hread))).1
  exact ⟨herror, hoffset, hfound, hread, hagain 2⟩

/-- A reading that succeeds may be repeated: each time the tokens are the same, and the scan is at the same
place. But the blanks behind the last token are known after the first reading only; from the second on there
are none. -/
theorem tokenize_repeated (t : Text) (file : Option FilePath) (tokens : List Token)
    (h : (Scan.tokenize { text := t, file }).2 = .ok tokens) (n : Nat) :
    let start : Scan := { text := t, file }
    let first := start.tokenize.1
    let call := (start.afterAll (List.replicate n .tokenize)).tokenize
    call.2 = .ok tokens ∧ call.1.tokens = tokens ∧ call.1.offset = first.offset ∧
    call.1.position = first.position ∧ call.1.trailing = (if n = 0 then first.trailing else []) ∧
    (call.1.trailing = first.trailing ↔ n = 0 ∨ first.trailing = []) := by
  intro start first call
  have ⟨htokens, hend⟩ : first.tokens = tokens ∧ first.text.length ≤ first.offset := ends_of_tokenize_ok h
  -- From the second reading on the scan is at the end before it reads.
  cases n with
  | zero => exact ⟨h, htokens, rfl, rfl, rfl, fun _ => .inl rfl, fun _ => rfl⟩
  | succ n =>
    have hcall : call = ({ first with trailing := [] }, .ok tokens) := by
      rw [← htokens]
      exact tokenize_afterAll_of_end hend n
    rw [hcall, if_neg (Nat.succ_ne_zero n)]
    exact ⟨rfl, htokens, rfl, rfl, rfl, fun he => .inr he.symm,
      fun hor => (hor.resolve_left (Nat.succ_ne_zero n)).symm⟩

/-- One token with blanks on two lines behind it. -/
theorem tokenize_repeated_blank :
    let start : Scan := { text := "a \n ".toList }
    let again := (start.afterAll [.tokenize, .tokenize]).tokenize
    start.tokenize.2 = .ok [⟨.atom, ['a'], 1, 1, []⟩] ∧ start.tokenize.1.trailing = " \n ".toList ∧
    again.2 = .ok [⟨.atom, ['a'], 1, 1, []⟩] ∧ again.1.position = start.tokenize.1.position ∧
    again.1.trailing = [] := by
  intro start again
  have hok : start.tokenize.2 = .ok [⟨.atom, ['a'], 1, 1, []⟩] := by decide +kernel
  have htrailing : start.tokenize.1.trailing = " \n ".toList := by decide +kernel
  obtain ⟨hagain, -, -, hposition, hnone, -⟩ := tokenize_repeated _ none _ hok 2
  exact ⟨hok, htrailing, hagain, hposition, hnone⟩

/-- One blank behind the last token is enough for a second reading to lose it. -/
theorem not_trailing_kept_of_blank : ¬ ∀ (t : Text) (file : Option FilePath) (tokens : List Token),
    (Scan.tokenize { text := t, file }).2 = .ok tokens → ∀ n,
      let start : Scan := { text := t, file }
      let call := (start.afterAll (List.replicate n .tokenize)).tokenize
      call.2 = .ok tokens ∧ call.1 = start.tokenize.1 := by
  intro hall
  have hok : (Scan.tokenize { text := "a ".toList }).2 = .ok [⟨.atom, ['a'], 1, 1, []⟩] := by
    decide +kernel
  obtain ⟨-, hsame⟩ := hall "a ".toList none _ hok 1
  have htrailing := congrArg Scan.trailing hsame
  exact absurd htrailing (by decide +kernel)

end Shorthand
