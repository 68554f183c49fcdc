import Shorthand.Proofs.Joining
import Shorthand.Proofs.Margin

/-! Delimiters at the ends of a text. What a text expands to by itself is what stands on the level inside a
group around it; so the group is rewritten as its own rule says, and where that keeps or trims the level,
wrapping a text and expanding it come to the same in either order. One delimiter alone is too many: the text
closes every group that it opens and no other, so an opener in front of it is never closed, and a closer
behind it finds no group to close. Main statements: `expand_wrapped` and `expand_unbalanced`. -/
namespace Shorthand

theorem Text.trimEnd_append {w : Text} (hw : ∀ c ∈ w, isBlank c = true) (t : Text) :
    trimEnd (t ++ w) = trimEnd t := by
  have hreverse : ∀ c ∈ w.reverse, isBlank c = true := fun c hc => hw c (List.mem_reverse.mp hc)
  rw [trimEnd, trimEnd, List.reverse_append, List.dropWhile_append_of_pos hreverse]

/-- Blanks behind a text do not change what it is trimmed to. -/
theorem Text.trim_append_blank {w : Text} (hw : ∀ c ∈ w, isBlank c = true) (t : Text) :
    trim (t ++ w) = trim t := by
  rw [trim, trim, trimStart, List.dropWhile_append, ← trimStart]
  split
  · rename_i hempty
    have hnone : trimStart t = [] := List.isEmpty_iff.mp hempty
    have hblank : w.dropWhile isBlank = [] := List.dropWhile_eq_nil_iff.mpr hw
    rw [hnone, hblank]
  · exact trimEnd_append hw _

/-- Tokens read in other places are a forest with the same fragments. -/
theorem Forest.exists_moved {f : Forest} (hf : ∀ t ∈ f.tokens, t.Spelled) {ts : List Token}
    (h : List.Forall₂ Token.Moved f.tokens ts) :
    ∃ f' : Forest, f'.tokens = ts ∧ f'.fragments = f.fragments := by
  rw [← f.map_fst_margins {}] at h hf
  have hmoved := List.forall₂_map_left_iff.mp h
  have hspelled : ∀ p ∈ f.margins {}, p.1.Spelled := fun p hp => hf p.1 (List.mem_map_of_mem hp)
  -- A token in another place has kept all its blanks, those that show among them.
  have hrespaced : List.Forall₂ (fun p t => p.1.Respaced p.2 t) (f.margins {}) ts := by
    apply ((List.forall₂_and_left _ _).mpr ⟨hspelled, hmoved⟩).imp
    rintro p t ⟨hp, hmoved⟩
    refine ⟨hmoved.kind, hmoved.value, ?_, fun _ => hmoved.leading⟩
    rw [hmoved.leading]
    exact hp.blank
  rw [f.map_fst_margins {}] at hf
  obtain ⟨f', htokens, hlevel, -⟩ := exists_respaced hf hrespaced
  exact ⟨f', htokens, hlevel.fragments_eq⟩

/-- A text between the delimiters of a group expands to what the group is rewritten to, with the text as the
level inside it. -/
theorem expand_group {u trailing : Text} {file : Option FilePath} {f : Forest}
    (h : tokenize u file = .ok (f.tokens, trailing)) (hu : Zone.code.behind u ≠ .comment) (g : Group) :
    expand (g.opening ++ (u ++ [g.closer.char])) file = .ok (g.desugar f.fragments trailing) := by
  obtain ⟨ts, hts, hmoved⟩ := (tokenize_eq_ok_iff_reads.mp h).moved (Position.advance {} g.opening)
  obtain ⟨f', rfl, hlevel⟩ := Forest.exists_moved (spelled_of_tokenize h) hmoved
  let last : Token := ⟨.closer g.closer, [g.closer.char],
    ((Position.advance {} g.opening).advance u).line, ((Position.advance {} g.opening).advance u).column,
    trailing⟩
  let group : Forest := .group g ⟨.opener g, g.opening, 1, 1, []⟩ rfl f' last rfl .nil
  have htokens : tokenize (g.opening ++ (u ++ [g.closer.char])) file = .ok (group.tokens, []) :=
    tokenize_eq_ok_iff_reads.mpr (hts.closed hu g.closer).opened
  have htext : group.text = g.desugar f.fragments trailing := by
    rw [← hlevel]
    exact List.append_nil _
  refine expand_eq_ok_iff.mpr ⟨group.tokens, [], group.text, htokens, group.expandTokens_tokens _, ?_⟩
  rw [List.append_nil, htext]

/-- Brackets around a text that expands stand around what it expands to. So do parentheses, unless its items
make them a block; and braces around more than one atom, with no arrow among its items, make a block with
what it expands to, trimmed, as the body. -/
theorem expand_wrapped (u out : Text) (file : Option FilePath) (h : expand u file = .ok out)
    (hu : Zone.code.behind u ≠ .comment) :
    ∃ (f : Forest) (trailing : Text), tokenize u file = .ok (f.tokens, trailing) ∧
      expand ('[' :: (u ++ [']'])) file = .ok ('[' :: (out ++ [']'])) ∧
      (¬ f.StartsChain → (∀ name, ¬ f.RefersTo name) → ¬ f.HasArrow →
        expand ('(' :: (u ++ [')'])) file = .ok ('(' :: (out ++ [')']))) ∧
      ((∀ t, ¬ f.IsAtom t) → ¬ f.HasArrow →
        expand ('\x7b' :: (u ++ ['\x7d'])) file = .ok ("\x7b|it|".toList ++ out.trim ++ ['\x7d'])) := by
  obtain ⟨f, trailing, htokens, rfl⟩ := exists_forest_of_expand h
  have hf : ∀ t ∈ f.tokens, t.Spelled := spelled_of_tokenize htokens
  have hblank : ∀ c ∈ trailing, isBlank c = true := (blanks_of_tokenize htokens).2
  have hwrap (g : Group) : expand (g.opening ++ (u ++ [g.closer.char])) file =
      .ok ((g.rewrite f.fragments).text g f.fragments trailing) := by
    rw [← Group.desugar_eq_text]
    exact expand_group htokens hu g
  have hplain (g : Group) : Rewrite.plain.text g f.fragments trailing =
      g.opening ++ (f.text ++ trailing ++ [g.closer.char]) := by
    rw [Rewrite.text, Forest.text]
    simp only [List.append_assoc]
  refine ⟨f, trailing, htokens, ?_, ?_, ?_⟩
  · exact (hwrap .index).trans (congrArg Except.ok (hplain .index))
  · intro hchain hreference harrow
    have hparen := hwrap .paren
    rw [(Forest.rewrite_paren_eq_plain hf).mpr ⟨hchain, hreference, harrow⟩, hplain] at hparen
    exact hparen
  · intro hatom harrow
    have hblock := hwrap .block
    rw [(Forest.rewrite_block_eq_whole hf).mpr ⟨hatom, harrow⟩] at hblock
    have htrim : Text.trim (f.text ++ trailing) = Fragment.trimmed f.fragments :=
      Text.trim_append_blank hblank f.text
    rw [htrim]
    exact hblock

/-- Three items with a blank behind them, wrapped in each way; the arrow in the group among them is no item
of theirs. -/
theorem expand_wrapped_items :
    ∃ out, expand "f (a->b) \"c\" ".toList none = .ok out ∧
      expand "[f (a->b) \"c\" ]".toList none = .ok ('[' :: (out ++ [']'])) ∧
      expand "(f (a->b) \"c\" )".toList none = .ok ('(' :: (out ++ [')'])) ∧
      expand "\x7bf (a->b) \"c\" \x7d".toList none = .ok ("\x7b|it|".toList ++ out.trim ++ ['\x7d']) := by
  have h : expand "f (a->b) \"c\" ".toList none = .ok "f \x7b|a|b\x7d \"c\" ".toList := by decide +kernel
  obtain ⟨f, trailing, htokens, hindex, hparen, hblock⟩ := expand_wrapped _ _ none h (by decide)
  let written : Forest := .leaf ⟨.atom, ['f'], 1, 1, []⟩ rfl <|
    .group .paren ⟨.opener .paren, ['('], 1, 3, [' ']⟩ rfl
      (.leaf ⟨.atom, ['a'], 1, 4, []⟩ rfl <| .leaf ⟨.arrow, "->".toList, 1, 5, []⟩ rfl <|
        .leaf ⟨.atom, ['b'], 1, 7, []⟩ rfl .nil)
      ⟨.closer .paren, [')'], 1, 8, []⟩ rfl <|
    .leaf ⟨.string, "\"c\"".toList, 1, 10, [' ']⟩ rfl .nil
  have hwritten : tokenize "f (a->b) \"c\" ".toList none = .ok (written.tokens, [' ']) := by decide +kernel
  obtain ⟨hsame, -⟩ := Prod.mk.inj (Except.ok.inj (htokens.symm.trans hwritten))
  obtain rfl : f = written := Forest.tokens_injective hsame
  have hchain : ¬ written.StartsChain := by
    rw [← Forest.isChain_iff]
    decide
  have hreference : ∀ name, ¬ written.RefersTo name := Forest.not_refersTo_iff.mpr rfl
  have harrow : ¬ written.HasArrow := Forest.not_hasArrow_iff.mpr rfl
  have hatom : ∀ t, ¬ written.IsAtom t := by
    rintro t ⟨hitems, -⟩
    cases hitems
  exact ⟨_, h, hindex, hparen hchain hreference harrow, hblock hatom harrow⟩

theorem message_unexpectedCloser (closer : Closer) : (Fault.unexpectedCloser [closer.char]).message =
    "Unexpected '".toList ++ closer.char :: "'".toList := by
  cases closer <;> decide

/-- A text whose tokens have a violation is refused for it. -/
theorem expand_of_endsAt {t trailing : Text} {file : Option FilePath} {ts : List Token} {v : Violation}
    (h : tokenize t file = .ok (ts, trailing)) (hv : EndsAt none [] ts v) :
    expand t file = .error (v.diagnose ⟨file, some t⟩) := by
  have hrun : (Expansion.run none {} ts).1 = .error v := (Expansion.run_error_iff none ts v).mpr hv
  have herror : expandTokens ts ⟨file, some t⟩ none = .error (v.diagnose ⟨file, some t⟩) :=
    expandTokens_eq_error_iff.mpr ⟨v, hrun, rfl⟩
  simp only [expand, h, herror]
  rfl

namespace Forest

/-- Behind an opener, a whole level leaves the group open. -/
theorem endsAt_opened (f : Forest) {g : Group} {opener : Token} (opens : opener.kind = .opener g) :
    EndsAt none [] (opener :: f.tokens) ⟨.unclosed g, opener⟩ := by
  obtain ⟨hadmissible, hstack⟩ := f.nested_tokens [opener]
  rw [← nest_of_opener opens []] at hadmissible
  have hall : Admissible none [] (opener :: f.tokens) :=
    admissible_cons.mpr ⟨fits_of_opener opens [], hadmissible⟩
  have hstays : openers [] (opener :: f.tokens) = [opener] := by
    rw [openers_cons, nest_of_opener opens, hstack]
  exact .unclosed hall hstays opens

/-- Behind a whole level, a closer has no opener. -/
theorem endsAt_closed (f : Forest) {closer : Closer} {t : Token} (closes : t.kind = .closer closer) :
    EndsAt none [] (f.tokens ++ [t]) ⟨.unexpectedCloser t.value, t⟩ := by
  obtain ⟨hadmissible, hstack⟩ := f.nested_tokens []
  refine .misfit rfl hadmissible (.unexpectedCloser closes ?_)
  simp [hstack]

end Forest

/-- A text that expands is refused with one opener in front of it, at that opener and by the name of what
would close it; and, unless it ends in a comment, with one closer behind it, at the end of the text. -/
theorem expand_unbalanced (t out : Text) (file : Option FilePath) (h : expand t file = .ok out) :
    (∀ g : Group, ∃ d, expand (g.opening ++ t) file = .error d ∧ d.fault = .unclosed g ∧
      d.fault.message = "Expected '".toList ++ g.closer.char :: "', got EOF".toList ∧
      d.site.line = 1 ∧ d.site.column = 1) ∧
    (Zone.code.behind t ≠ .comment → ∀ closer : Closer, ∃ d, expand (t ++ [closer.char]) file = .error d ∧
      d.fault = .unexpectedCloser [closer.char] ∧
      d.fault.message = "Unexpected '".toList ++ closer.char :: "'".toList ∧
      d.site.line = 1 + t.count '\n' ∧ d.site.column = 1 + (Text.lastLine t).length) := by
  obtain ⟨f, trailing, htokens, rfl⟩ := exists_forest_of_expand h
  have hreads := tokenize_eq_ok_iff_reads.mp htokens
  constructor
  · intro g
    obtain ⟨ts, hts, hmoved⟩ := hreads.moved (Position.advance {} g.opening)
    obtain ⟨f', rfl, -⟩ := Forest.exists_moved (spelled_of_tokenize htokens) hmoved
    have hopened : tokenize (g.opening ++ t) file =
        .ok (⟨.opener g, g.opening, 1, 1, []⟩ :: f'.tokens, trailing) :=
      tokenize_eq_ok_iff_reads.mpr hts.opened
    exact ⟨_, expand_of_endsAt hopened (f'.endsAt_opened rfl), rfl, message_unclosed g, rfl, rfl⟩
  · intro hcomment closer
    have hclosed : tokenize (t ++ [closer.char]) file = .ok (_, []) :=
      tokenize_eq_ok_iff_reads.mpr (hreads.closed hcomment closer)
    have hplace := Position.advance_start t
    refine ⟨_, expand_of_endsAt hclosed (f.endsAt_closed rfl), rfl, message_unexpectedCloser closer, ?_, ?_⟩
    · simp only [Violation.diagnose, hplace]
      omega
    · simp only [Violation.diagnose, hplace]
      omega

/-- In front of the text and behind it, at the end of its second line. -/
theorem expand_unbalanced_lines :
    expand "a # (\n \\a[b]".toList none = .ok "a \n [b]".toList ∧
    (∃ d, expand "\\h\x7ba # (\n \\a[b]".toList none = .error d ∧
      d.fault.message = "Expected '\x7d', got EOF".toList ∧ d.site.line = 1 ∧ d.site.column = 1) ∧
    ∃ d, expand "a # (\n \\a[b])".toList none = .error d ∧ d.fault.message = "Unexpected ')'".toList ∧
      d.site.line = 2 ∧ d.site.column = 7 := by
  have h : expand "a # (\n \\a[b]".toList none = .ok "a \n [b]".toList := by decide +kernel
  obtain ⟨hopened, hclosed⟩ := expand_unbalanced _ _ none h
  obtain ⟨d, hd, -, hmessage, hline, hcolumn⟩ := hopened .map
  obtain ⟨d', hd', -, hmessage', hline', hcolumn'⟩ := hclosed (by decide) .paren
  exact ⟨h, ⟨d, hd, hmessage, hline, hcolumn⟩, d', hd', hmessage', hline', hcolumn'⟩

end Shorthand
