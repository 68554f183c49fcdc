import Shorthand.Proofs.Grammar
import Shorthand.Proofs.Nesting
import Shorthand.Proofs.Placement
import Shorthand.Proofs.SourceLines

/-! What diagnostics point at. Wherever a text is refused, the diagnostic names the line and the column of
the character at fault, shows that line below at most two others, each behind its own number, and sets its
carets below that very character. Main statement: `expand_pointsAt`. -/
namespace Shorthand

/-- A diagnostic points at the character `c` in column `column` of line `line` of a text: it shows the lines
of the window with their numbers, and directly below the last of them, which is the line itself, one row
whose first caret stands under `c`. -/
structure Diagnostic.PointsAt (d : Diagnostic) (t : Text) (line column : Nat) (c : Char) : Prop where
  place : d.site.line = line ∧ d.site.column = column ∧ 1 ≤ line ∧ 1 ≤ column
  excerpt : d.site.excerpt = some (Text.join ['\n'] ((t.window line).map Prod.fst))
  message : ∃ above number source, t.lines[line - 1]? = some source ∧ source[column - 1]? = some c ∧
    t.window line = above ++ [(source, line)] ∧ Site.numbered (source, line) = number ++ source ∧
    (number ++ source)[number.length + (column - 1)]? = some c ∧
    d.message = Text.join ['\n'] (d.site.label :: ((t.window line).map Site.numbered ++
      [List.replicate (number.length + (column - 1)) ' ' ++ "^^^".toList] ++ [d.fault.message]))

/-- The lines of a window are read off their join. -/
theorem Text.lines_join_window {t : Text} {k : Nat} (h : t.window k ≠ []) :
    lines (join ['\n'] ((t.window k).map Prod.fst)) = (t.window k).map Prod.fst := by
  refine cut_join (mt List.map_eq_nil_iff.mp h) fun piece hp => ?_
  rw [window_eq, List.zipIdx_map_fst] at hp
  exact notMem_of_mem_cut (List.mem_of_mem_take (List.mem_of_mem_drop hp))

/-- A site shows the window of its line, if a character stands on that line. -/
theorem Site.render_of_window (s : Site) {t line : Text} {k : Nat} {c : Char} (hs : s.line = (k : Int) + 1)
    (he : s.excerpt = some (Shorthand.excerpt t s.line)) (hline : t.lines[k]? = some line)
    (hc : c ∈ line) : s.render = Text.join ['\n'] (s.label ::
      ((t.window (k + 1)).map numbered ++ [s.marker (k + 1)])) := by
  obtain ⟨above, hwindow, hnumber⟩ := Text.exists_window hline
  have hpieces : (t.window (k + 1)).map Prod.fst = above ++ [line] := by
    rw [hwindow, List.zipIdx_map_fst]
  have hshown : Text.lines (Text.join ['\n'] (above ++ [line])) = above ++ [line] := by
    rw [← hpieces]
    refine Text.lines_join_window fun hnil => List.concat_ne_nil line above ?_
    rw [← hpieces, hnil, List.map_nil]
  rw [hs, excerpt_eq, hpieces] at he
  have hfirst : s.firstLine = max 1 (k - 1) := by
    rw [firstLine, hs]
    omega
  have hlast : ((max 1 (k - 1) + above.length : Nat) : Int) = s.line := by
    rw [hs]
    omega
  have hrows := s.rows_concat above line (max 1 (k - 1)) hlast
  rw [hnumber, ← hwindow] at hrows
  cases hjoin : Text.join ['\n'] (above ++ [line]) with
  | nil =>
    -- Then all lines shown would be one empty line, but the last of them holds a character.
    rw [hjoin] at hshown
    have hmem : line ∈ Text.lines [] := hshown ▸ List.mem_append_right above (List.mem_singleton.mpr rfl)
    obtain rfl : line = [] := List.mem_singleton.mp hmem
    exact absurd hc List.not_mem_nil
  | cons d more =>
    rw [hjoin] at he hshown
    simp only [render, shown, he, hshown, hfirst, hrows]

/-- A diagnostic with the line and column of a character points at it. -/
theorem Diagnostic.pointsAt_of_split {d : Diagnostic} {t before after : Text} {c : Char}
    (ht : t = before ++ c :: after) (hc : c ≠ '\n') (hline : d.site.line = 1 + before.count '\n')
    (hcolumn : d.site.column = 1 + (Text.lastLine before).length)
    (he : d.site.excerpt = some (Shorthand.excerpt t d.site.line)) :
    d.PointsAt t (before.count '\n' + 1) ((Text.lastLine before).length + 1) c := by
  obtain ⟨line, hfound, hchar⟩ := Text.exists_line before after hc
  rw [← ht] at hfound
  obtain ⟨above, hwindow, hnumber⟩ := Text.exists_window hfound
  have hs : d.site.line = (before.count '\n' : Int) + 1 := by
    rw [hline]
    omega
  have hends : t.window (before.count '\n' + 1) =
      above.zipIdx (max 1 (before.count '\n' - 1)) ++ [(line, before.count '\n' + 1)] := by
    rw [hwindow, List.zipIdx_append, hnumber]
    rfl
  have hmarker : d.site.marker (before.count '\n' + 1) = List.replicate
      ((Site.gutter (before.count '\n' + 1)).length + (Text.lastLine before).length) ' ' ++
        "^^^".toList := by
    rw [Site.marker, Site.indent, hcolumn]
    congr 2
    omega
  have hrender := d.site.render_of_window hs he hfound (List.mem_of_getElem? hchar)
  refine ⟨⟨by omega, by omega, by omega, by omega⟩, ?_, _, Site.gutter (before.count '\n' + 1), line, hfound,
    hchar, hends, rfl, ?_, ?_⟩
  · rw [he, hs, excerpt_eq]
  · rw [Nat.add_sub_cancel, List.getElem?_append_right (Nat.le_add_right _ _), Nat.add_sub_cancel_left]
    exact hchar
  · rw [Nat.add_sub_cancel, ← hmarker]
    calc d.message = d.site.render ++ ['\n'] ++ d.fault.message := by
          rw [List.append_assoc]
          rfl
      _ = Text.join ['\n'] (d.site.label :: ((t.window (before.count '\n' + 1)).map Site.numbered ++
            [d.site.marker (before.count '\n' + 1)])) ++ ['\n'] ++ d.fault.message := by rw [hrender]
      _ = _ := (Text.join_concat _ _ (List.cons_ne_nil _ _)).symm

/-- An opener that is left was on the stack or is one of the tokens. -/
theorem mem_openers {stack ts : List Token} {u : Token} (h : u ∈ openers stack ts) :
    u ∈ stack ∨ u ∈ ts := by
  induction ts generalizing stack with
  | nil => exact .inl h
  | cons t ts ih =>
    rcases ih h with hstack | hts
    · have hnest : u = t ∨ u ∈ stack := by
        cases hk : t.kind with
        | opener g =>
          rw [nest_of_opener hk] at hstack
          exact List.mem_cons.mp hstack
        | closer closer =>
          rw [nest_of_closer hk] at hstack
          exact .inr (List.mem_of_mem_tail hstack)
        | arrow | suffix | string | operator | atom =>
          rw [nest_of_plain (by rw [hk]; rfl)] at hstack
          exact .inr hstack
      rcases hnest with rfl | hstack
      · exact .inr List.mem_cons_self
      · exact .inl hstack
    · exact .inr (List.mem_cons_of_mem t hts)

/-- The violation is at one of the tokens. -/
theorem EndsAt.mem {cap : Option Int} {ts : List Token} {v : Violation} (h : EndsAt cap [] ts v) :
    v.token ∈ ts := by
  cases h with
  | misfit split => rw [split]; exact List.mem_append_right _ List.mem_cons_self
  | unclosed _ stays =>
    have hmem := mem_openers (stays ▸ List.mem_cons_self)
    exact hmem.resolve_left List.not_mem_nil

/-- What a fault is about stands behind `before` and starts with the character `c`: the quote of a literal
that is never closed, the first closer that does not fit, or the opener of a group that is too deep or left
open. -/
inductive Culprit (t : Text) (file : Option FilePath) (cap : Option Int) (before : Text) :
    Char → Fault → Prop where
  | quote {inside : Text} (split : t = before ++ '"' :: inside) (code : Zone.code.behind before = .code)
      (unclosed : inside.AllEscaped) : Culprit t file cap before '"' .openString
  | closer {tokens : List Token} {trailing : Text} {v : Violation} {closer : Closer}
      (reads : tokenize t file = .ok (tokens, trailing)) (ends : EndsAt cap [] tokens v)
      (stands : v.token.StandsAt t before.length) (spelled : v.token.value = [closer.char])
      (fault : v.fault = .unexpectedCloser [closer.char]) : Culprit t file cap before closer.char v.fault
  | opener {tokens : List Token} {trailing more : Text} {v : Violation} {group : Group} {c : Char}
      (reads : tokenize t file = .ok (tokens, trailing)) (ends : EndsAt cap [] tokens v)
      (stands : v.token.StandsAt t before.length) (spelled : v.token.value = group.opening)
      (head : group.opening = c :: more)
      (fault : v.fault = .unclosed group ∨ ∃ limit, cap = some limit ∧ v.fault = .tooDeep limit) :
      Culprit t file cap before c v.fault

theorem EndsAt.culprit {t trailing before : Text} {file : Option FilePath} {cap : Option Int}
    {tokens : List Token} {v : Violation} (reads : tokenize t file = .ok (tokens, trailing))
    (ends : EndsAt cap [] tokens v) (stands : v.token.StandsAt t before.length) :
    ∃ c more, v.token.value = c :: more ∧ Culprit t file cap before c v.fault := by
  have hspells := (spelled_of_tokenize reads v.token ends.mem).spells
  have hopener {group : Group} (hk : v.token.kind = .opener group)
      (hf : v.fault = .unclosed group ∨ ∃ limit, cap = some limit ∧ v.fault = .tooDeep limit) :
      ∃ c more, v.token.value = c :: more ∧ Culprit t file cap before c v.fault := by
    rw [hk] at hspells
    obtain ⟨c, more, hvalue, -⟩ := hspells.exists_head
    have hopening := hspells.eq_opening
    exact ⟨c, more, hvalue, .opener reads ends stands hopening (hopening ▸ hvalue) hf⟩
  cases hends : ends with
  | misfit _ _ misfit =>
    cases misfit with
    | tooDeep opens capped _ => exact hopener opens (.inr ⟨_, capped, rfl⟩)
    | unexpectedCloser closes _ =>
      rw [closes] at hspells
      have hvalue := hspells.eq_closer
      exact ⟨_, [], hvalue, .closer reads ends stands hvalue (congrArg _ hvalue)⟩
  | unclosed _ _ opens => exact hopener opens (.inl rfl)

/-- The text in front of a token, its first character and what follows. -/
theorem Token.StandsAt.exists_split {t more : Text} {u : Token} {o : Nat} {c : Char}
    (h : u.StandsAt t o) (hc : u.value = c :: more) :
    ∃ after, t = t.take o ++ c :: after ∧ (t.take o).length = o := by
  have hvalue := h.value
  rw [hc] at hvalue
  cases hdrop : t.drop o with
  | nil =>
    rw [hdrop, List.take_nil] at hvalue
    cases hvalue
  | cons d after =>
    rw [hdrop, List.length_cons, List.take_succ_cons] at hvalue
    have hlen : o < t.length := by
      have hpos := congrArg List.length hdrop
      rw [List.length_drop, List.length_cons] at hpos
      omega
    refine ⟨after, ?_, List.length_take_of_le (Nat.le_of_lt hlen)⟩
    rw [← (List.cons.inj hvalue).1, ← hdrop, List.take_append_drop]

/-- Every token of a text stands somewhere in it. -/
theorem exists_stands {t : Text} {file : Option FilePath} {tokens : List Token} {trailing : Text}
    (h : tokenize t file = .ok (tokens, trailing)) {u : Token} (hu : u ∈ tokens) :
    ∃ o, u.StandsAt t o := by
  obtain ⟨offset, -, hstands, -⟩ := (placed_of_tokenize h).exists_offset
  obtain ⟨i, hi, rfl⟩ := List.getElem_of_mem hu
  exact ⟨_, (hstands ⟨i, hi⟩).1⟩

theorem Violation.excerpt_diagnose (v : Violation) {t : Text} (ht : t ≠ []) (file : Option FilePath) :
    (v.diagnose ⟨file, some t⟩).site.excerpt = some (excerpt t v.token.line) := by
  cases t with
  | nil => exact absurd rfl ht
  | cons => rfl

/-- Wherever a text is refused, it holds the character that the fault is about, and the diagnostic names the
place of that character. -/
theorem exists_culprit_of_expand {t : Text} {file : Option FilePath} {cap : Option Int} {d : Diagnostic}
    (h : expand t file cap = .error d) :
    ∃ before c after, t = before ++ c :: after ∧ c ≠ '\n' ∧ Culprit t file cap before c d.fault ∧
      d.site.line = 1 + before.count '\n' ∧ d.site.column = 1 + (Text.lastLine before).length ∧
      d.site.excerpt = some (excerpt t d.site.line) := by
  cases ht : tokenize t file with
  | error d' =>
    obtain rfl : d' = d := by
      rw [expand, ht] at h
      exact Except.error.inj h
    obtain ⟨ls, rest, hseg, hnever, rfl⟩ := exists_openQuote ht
    have hsplit := hseg.flatMap_text.symm
    refine ⟨_, '"', rest, hsplit, by decide, ?_, ?_, ?_, rfl⟩
    · exact .quote hsplit hseg.behind_stuck (Rule.closing?_eq_none_iff.mp hnever)
    · rw [Diagnostic.openQuote, Position.advance_start]
      push_cast
      rfl
    · rw [Diagnostic.openQuote, Position.advance_start]
      push_cast
      rfl
  | ok r =>
    obtain ⟨tokens, trailing⟩ := r
    have hx : expandTokens tokens ⟨file, some t⟩ cap = .error d := by
      simp only [expand, ht] at h
      cases hx : expandTokens tokens ⟨file, some t⟩ cap with
      | ok inner =>
        rw [hx] at h
        cases h
      | error d' =>
        rw [hx] at h
        rw [Except.error.inj h]
    obtain ⟨v, hv, rfl⟩ := expandTokens_eq_error_iff.mp hx
    have hends := (Expansion.run_error_iff cap tokens v).mp hv
    obtain ⟨o, hstands⟩ := exists_stands ht hends.mem
    obtain ⟨c, more, hvalue, hsolid⟩ := (spelled_of_tokenize ht v.token hends.mem).spells.exists_head
    obtain ⟨after, hsplit, hlen⟩ := hstands.exists_split hvalue
    obtain ⟨c', more', hvalue', hculprit⟩ := EndsAt.culprit ht hends (hlen.symm ▸ hstands)
    obtain ⟨rfl, -⟩ := List.cons.inj (hvalue'.symm.trans hvalue)
    have hc : c' ≠ '\n' := by
      rintro rfl
      exact absurd hsolid (by decide)
    have hne : t ≠ [] := by
      rw [hsplit]
      simp
    exact ⟨_, c', after, hsplit, hc, hculprit, hstands.line, hstands.column, v.excerpt_diagnose hne file⟩

/-- Wherever a text is refused, the diagnostic points at the character that the fault is about: the quote of
the open literal, the closer that does not fit, or the first character of the opener. -/
theorem expand_pointsAt (t : Text) (file : Option FilePath) (cap : Option Int) (d : Diagnostic)
    (h : expand t file cap = .error d) :
    ∃ before c after, t = before ++ c :: after ∧ Culprit t file cap before c d.fault ∧
      d.PointsAt t (before.count '\n' + 1) ((Text.lastLine before).length + 1) c := by
  obtain ⟨before, c, after, hsplit, hc, hculprit, hline, hcolumn, hexcerpt⟩ := exists_culprit_of_expand h
  exact ⟨before, c, after, hsplit, hculprit, Diagnostic.pointsAt_of_split hsplit hc hline hcolumn hexcerpt⟩

/-- The opener behind the arrow is one group too deep. -/
theorem expand_pointsAt_deep :
    expand "a\n(b\n ->\n  [c])".toList none (some 1) = .error ⟨.tooDeep 1, ⟨none, 4, 3, some
      "(b\n ->\n  [c])".toList⟩⟩ ∧
    ∃ before c after, "a\n(b\n ->\n  [c])".toList = before ++ c :: after ∧
      (⟨.tooDeep 1, ⟨none, 4, 3, some "(b\n ->\n  [c])".toList⟩⟩ : Diagnostic).PointsAt
        "a\n(b\n ->\n  [c])".toList (before.count '\n' + 1) ((Text.lastLine before).length + 1) c := by
  have h : expand "a\n(b\n ->\n  [c])".toList none (some 1) = .error ⟨.tooDeep 1, ⟨none, 4, 3, some
      "(b\n ->\n  [c])".toList⟩⟩ := by decide +kernel
  obtain ⟨before, c, after, hsplit, -, hpoints⟩ := expand_pointsAt _ none (some 1) _ h
  exact ⟨h, before, c, after, hsplit, hpoints⟩

end Shorthand
