import Shorthand.Proofs.Following
import Shorthand.Proofs.Joining

/-! Texts put together line by line. What is written from a new line on expands as it does alone, below what
stands above, and what it is refused for is refused as many lines further down. Main statement:
`expand_lines`. -/
namespace Shorthand

def Position.lower (k : Nat) (p : Position) : Position := { p with line := p.line + k }

/-- Reading from a lower line ends lower by as much. -/
theorem Position.advance_lower (k : Nat) (p : Position) (chunk : Text) :
    (p.lower k).advance chunk = (p.advance chunk).lower k := by
  by_cases h : '\n' ∈ chunk
  · simp only [advance, lower, h, if_true, mk.injEq, and_true]
    exact Nat.add_right_comm ..
  · simp only [advance, lower, h, if_false]

theorem Position.advance_line (t : Text) :
    Position.advance {} (t ++ ['\n']) = Position.lower (t.count '\n' + 1) {} := by
  have hlast : Text.lastLine (t ++ ['\n']) = [] :=
    Text.lastLine_append_of_mem t (List.mem_singleton.mpr rfl)
  rw [advance_start, hlast, List.count_append]
  simp only [lower, List.count_singleton_self, List.length_nil]

namespace Token

def lower (k : Nat) (t : Token) : Token := { t with line := t.line + k }

theorem relocates_lower (k : Nat) : Relocates (lower k) := fun _ => ⟨rfl, rfl, rfl⟩

/-- Tokens and the blanks behind them, with further blanks in front. -/
def pad (gap : Text) : List Token × Text → List Token × Text
  | ([], trailing) => ([], gap ++ trailing)
  | (t :: ts, trailing) => (t.behind gap :: ts, trailing)

/-- Lexemes give the same tokens on lower lines, each lower by as much. -/
theorem ofLexemes_lower (k : Nat) (p : Position) (leading : Text) (ls : List Lexeme) :
    ofLexemes (p.lower k) leading ls =
      ((ofLexemes p leading ls).1.map (lower k), (ofLexemes p leading ls).2) := by
  induction ls generalizing p leading with
  | nil => rfl
  | cons l ls ih =>
    cases hk : l.kind? with
    | none =>
      simp only [ofLexemes, hk, Position.advance_lower]
      exact ih _ _
    | some kind =>
      simp only [ofLexemes, hk, Position.advance_lower, ih, List.map_cons]
      simp [lower, Position.lower]

/-- Blanks in front of a text become those of its first token, or stay behind it if there is none. -/
theorem ofLexemes_pad (gap : Text) (p : Position) (leading : Text) (ls : List Lexeme) :
    ofLexemes p (gap ++ leading) ls = pad gap (ofLexemes p leading ls) := by
  induction ls generalizing p leading with
  | nil => rfl
  | cons l ls ih =>
    cases hk : l.kind? with
    | none =>
      simp only [ofLexemes, hk]
      rw [← ih]
      split
      · rw [List.append_assoc]
      · rfl
    | some kind =>
      simp only [ofLexemes, hk]
      rfl

namespace Reads

variable {p : Position} {leading t trailing stuck : Text} {ts : List Token}

/-- A text is read further down in the same way. -/
theorem lowered (h : Reads {} [] t ts trailing stuck) (k : Nat) (gap : Text) :
    Reads (Position.lower k {}) gap t (pad gap (ts.map (lower k), trailing)).1
      (pad gap (ts.map (lower k), trailing)).2 stuck := by
  obtain ⟨htokens, hstuck⟩ := reads_iff.mp h
  refine reads_iff.mpr ⟨?_, hstuck⟩
  have hlower := ofLexemes_lower k {} [] (Lexeme.segment t).1
  rw [htokens] at hlower
  rw [← hlower, ← ofLexemes_pad, List.append_nil]

/-- A line that is read to its end, and the lines behind it. -/
theorem append_line {a : Text} {us : List Token} {behind : Text} (h : Reads p leading a ts trailing [])
    (hb : Reads (p.advance (a ++ ['\n'])) (trailing ++ ['\n']) t us behind stuck) :
    Reads p leading (a ++ '\n' :: t) (ts ++ us) behind stuck := by
  rw [Position.advance_append] at hb
  have hline : Reads (p.advance a) trailing ('\n' :: t) us behind stuck := .blank rfl hb
  -- A line feed cuts a token off, and it ends a comment on the last line of the upper text.
  apply h.append hline
  · intro c hc
    obtain rfl : '\n' = c := Option.some.inj hc
    exact .inl rfl
  · exact fun _ c hc => (Option.some.inj hc).symm

end Reads

end Token

namespace Expansion

open Token

/-- An expansion goes on behind a line that is done. -/
theorem run_pad {cap : Option Int} {ts : List Token} {fs : List Fragment} (h : (run cap {} ts).1 = .ok fs)
    (k : Nat) (gap trailing : Text) (us : List Token) :
    (∀ gs, (run cap {} us).1 = .ok gs → (∀ u ∈ us.head?, ∀ suffix, u.kind ≠ .suffix suffix) →
      ∃ gs', (run cap {} (ts ++ (pad gap (us.map (lower k), trailing)).1)).1 = .ok gs' ∧
        Fragment.concat gs' ++ (pad gap (us.map (lower k), trailing)).2 =
          Fragment.concat fs ++ gap ++ (Fragment.concat gs ++ trailing)) ∧
    ∀ v, (run cap {} us).1 = .error v →
      ∃ v', (run cap {} (ts ++ (pad gap (us.map (lower k), trailing)).1)).1 = .error v' ∧
        v'.fault = v.fault ∧ v'.token.line = v.token.line + k ∧ v'.token.column = v.token.column := by
  cases us with
  | nil =>
    refine ⟨?_, nofun⟩
    intro gs hgs _
    obtain rfl : [] = gs := Except.ok.inj hgs
    refine ⟨fs, ?_, (List.append_assoc ..).symm⟩
    rw [List.map_nil, pad, List.append_nil]
    exact h
  | cons u us =>
    have hlower : (run cap {} (lower k u :: us.map (lower k))).1 =
        (run cap {} (u :: us)).1.mapError fun v => ⟨v.fault, lower k v.token⟩ :=
      run_relocate (relocates_lower k) cap {} (u :: us)
    have hbehind := run_behind h gap (lower k u) (us.map (lower k))
    rw [hlower] at hbehind
    constructor
    · intro gs hgs hu
      rw [hgs] at hbehind
      generalize hr : (run cap {} (ts ++ (lower k u).behind gap :: us.map (lower k))).1 = r at hbehind
      cases hbehind with
      | @ok _ gs' related =>
        refine ⟨gs', hr, ?_⟩
        rw [related (hu u rfl)]
        exact List.append_assoc ..
    · intro v hv
      rw [hv] at hbehind
      generalize hr : (run cap {} (ts ++ (lower k u).behind gap :: us.map (lower k))).1 = r at hbehind
      cases hbehind with
      | @error _ v' alike => exact ⟨v', hr, alike.fault, alike.line, alike.column⟩

end Expansion

/-- Two texts on lines of their own have the tokens of the first and those of the second, further down. -/
theorem tokenize_lines {a b gap gap' : Text} {file : Option FilePath} {ts us : List Token}
    (ha : tokenize a file = .ok (ts, gap)) (hb : tokenize b file = .ok (us, gap')) :
    tokenize (a ++ '\n' :: b) file =
      .ok (ts ++ (Token.pad (gap ++ ['\n']) (us.map (Token.lower (a.count '\n' + 1)), gap')).1,
        (Token.pad (gap ++ ['\n']) (us.map (Token.lower (a.count '\n' + 1)), gap')).2) := by
  have hlowered := (tokenize_eq_ok_iff_reads.mp hb).lowered (a.count '\n' + 1) (gap ++ ['\n'])
  rw [← Position.advance_line] at hlowered
  exact tokenize_eq_ok_iff_reads.mpr ((tokenize_eq_ok_iff_reads.mp ha).append_line hlowered)

/-- A text that is not read is refused for the same reason behind another, further down. -/
theorem tokenize_lines_of_stuck {a b gap : Text} {file : Option FilePath} {ts : List Token} {d : Diagnostic}
    (ha : tokenize a file = .ok (ts, gap)) (hb : tokenize b file = .error d) :
    ∃ d', tokenize (a ++ '\n' :: b) file = .error d' ∧ d'.fault = d.fault ∧
      d'.site.line = d.site.line + 1 + a.count '\n' ∧ d'.site.column = d.site.column := by
  obtain ⟨before, rest, us, gap', rfl, hreads, rfl⟩ := exists_stuck hb
  have hlowered := hreads.lowered (a.count '\n' + 1) (gap ++ ['\n'])
  rw [← Position.advance_line] at hlowered
  have hall := (tokenize_eq_ok_iff_reads.mp ha).append_line hlowered
  have htext : a ++ '\n' :: (before ++ '"' :: rest) = a ++ '\n' :: before ++ '"' :: rest := by simp
  rw [htext] at hall
  -- The quote is reported where the text in front of it ends, which is as many lines further down.
  have hplace : Position.advance {} (a ++ '\n' :: before) =
      (Position.advance {} before).lower (a.count '\n' + 1) := by
    rw [← List.singleton_append, ← List.append_assoc, Position.advance_append, Position.advance_line,
      Position.advance_lower]
  rw [htext]
  refine ⟨_, tokenize_of_stuck file hall, rfl, ?_, ?_⟩
  · simp only [Diagnostic.openQuote, hplace, Position.lower]
    omega
  · simp only [Diagnostic.openQuote, hplace, Position.lower]

/-- Below a text that expands, a text expands as it does alone, unless it starts with a suffix. If it is
refused, then for the same reason at the same column, as many lines further down as stand above. -/
theorem expand_lines (a b above : Text) (file : Option FilePath) (cap : Option Int)
    (ha : expand a file cap = .ok above) :
    (∀ below, expand b file cap = .ok below →
      (∀ tokens trailing, tokenize b file = .ok (tokens, trailing) →
        ∀ u ∈ tokens.head?, ∀ suffix, u.kind ≠ .suffix suffix) →
      expand (a ++ '\n' :: b) file cap = .ok (above ++ '\n' :: below)) ∧
    ∀ d, expand b file cap = .error d →
      ∃ d', expand (a ++ '\n' :: b) file cap = .error d' ∧ d'.fault = d.fault ∧
        d'.fault.message = d.fault.message ∧ d'.site.line = d.site.line + 1 + a.count '\n' ∧
        d'.site.column = d.site.column := by
  obtain ⟨ts, gap, inner, htokens, hinner, rfl⟩ := expand_eq_ok_iff.mp ha
  obtain ⟨fs, hrun, rfl⟩ := expandTokens_eq_ok_iff.mp hinner
  constructor
  · intro below hb hplain
    obtain ⟨us, gap', inner', htokens', hinner', rfl⟩ := expand_eq_ok_iff.mp hb
    obtain ⟨gs, hgs, rfl⟩ := expandTokens_eq_ok_iff.mp hinner'
    obtain ⟨hok, -⟩ := Expansion.run_pad hrun (a.count '\n' + 1) (gap ++ ['\n']) gap' us
    obtain ⟨gs', hgs', hshown⟩ := hok gs hgs (hplain us gap' htokens')
    refine expand_eq_ok_iff.mpr
      ⟨_, _, _, tokenize_lines htokens htokens', expandTokens_eq_ok_iff.mpr ⟨gs', hgs', rfl⟩, ?_⟩
    rw [hshown]
    simp
  · intro d hb
    -- The lower text is refused either by the reading of it, at a quote, or by its expansion, at a token.
    cases htokens' : tokenize b file with
    | error lexical =>
      simp only [expand, htokens'] at hb
      obtain rfl : lexical = d := Except.error.inj hb
      obtain ⟨d', hd', hfault, hline, hcolumn⟩ := tokenize_lines_of_stuck htokens htokens'
      refine ⟨d', ?_, hfault, congrArg Fault.message hfault, hline, hcolumn⟩
      simp only [expand, hd']
    | ok r =>
      obtain ⟨us, gap'⟩ := r
      have herror : expandTokens us ⟨file, some b⟩ cap = .error d := by
        simp only [expand, htokens'] at hb
        cases hx : expandTokens us ⟨file, some b⟩ cap with
        | ok inner =>
          rw [hx] at hb
          cases hb
        | error d' =>
          rw [hx] at hb
          rw [Except.error.inj hb]
      obtain ⟨v, hv, rfl⟩ := expandTokens_eq_error_iff.mp herror
      obtain ⟨-, hfails⟩ := Expansion.run_pad hrun (a.count '\n' + 1) (gap ++ ['\n']) gap' us
      obtain ⟨v', hv', hfault, hline, hcolumn⟩ := hfails v hv
      refine ⟨v'.diagnose ⟨file, some (a ++ '\n' :: b)⟩, ?_, hfault, congrArg Fault.message hfault, ?_,
        hcolumn⟩
      · simp only [expand, tokenize_lines htokens htokens', expandTokens_eq_error_iff.mpr ⟨v', hv', rfl⟩]
        rfl
      · simp only [Violation.diagnose, hline]
        omega

/-- The upper line ends inside a comment; of two lower lines, one expands and the other closes what is not
open. -/
theorem expand_lines_comment :
    expand "(&:a) # (\n [x]".toList none none = .ok "\x7b|it|it.a\x7d \n [x]".toList ∧
    ∃ d', expand "(&:a) # (\n x)".toList none none = .error d' ∧
      d'.fault.message = "Unexpected ')'".toList ∧ d'.site.line = 2 ∧ d'.site.column = 3 := by
  have habove : expand "(&:a) # (".toList none none = .ok "\x7b|it|it.a\x7d ".toList := by decide +kernel
  have hbelow : expand " [x]".toList none none = .ok " [x]".toList := by decide +kernel
  have htokens : tokenize " [x]".toList none = .ok ([⟨.opener .index, ['['], 1, 2, [' ']⟩,
      ⟨.atom, ['x'], 1, 3, []⟩, ⟨.closer .bracket, [']'], 1, 4, []⟩], []) := by decide +kernel
  have hplain : ∀ tokens trailing, tokenize " [x]".toList none = .ok (tokens, trailing) →
      ∀ u ∈ tokens.head?, ∀ suffix, u.kind ≠ .suffix suffix := by
    intro tokens trailing h u hu suffix
    obtain ⟨rfl, rfl⟩ := Prod.mk.inj (Except.ok.inj (htokens.symm.trans h))
    obtain rfl := Option.some.inj hu
    exact nofun
  have hcloser : expand " x)".toList none none =
      .error ⟨.unexpectedCloser [')'], ⟨none, 1, 3, some " x)".toList⟩⟩ := by decide +kernel
  obtain ⟨hlines, -⟩ := expand_lines _ " [x]".toList _ none none habove
  obtain ⟨-, hrefused⟩ := expand_lines _ " x)".toList _ none none habove
  obtain ⟨d', hd', -, hmessage, hline, hcolumn⟩ := hrefused _ hcloser
  exact ⟨hlines _ hbelow hplain, d', hd', hmessage, hline, hcolumn⟩

end Shorthand
