import Mathlib.Data.List.Forall2
import Shorthand.Proofs.Reading
import Shorthand.Proofs.Reconstruction

/-! Tokens written with other blanks in front of them. As long as no gap between two tokens is closed, they
are read again as the same tokens; and a text without its comments has the tokens of the text, each in its
place. Main statement: `tokenize_spaced`. -/
namespace Shorthand

namespace Token

open Zone

/-- What may stand in front of a token instead of its own blanks: other blanks, and some if it had some. -/
def Gap (t : Token) (gap : Text) : Prop :=
  (∀ c ∈ gap, isBlank c = true) ∧ (t.leading ≠ [] → gap ≠ [])

def spaced (ts : List Token) (gaps : List Text) : Text :=
  (List.zipWith (fun t gap => gap ++ t.value) ts gaps).flatten

theorem spaced_cons (t : Token) (ts : List Token) (gap : Text) (gaps : List Text) :
    spaced (t :: ts) (gap :: gaps) = gap ++ t.value ++ spaced ts gaps := rfl

/-- Tokens with their own gaps are their layout. -/
theorem spaced_leading (ts : List Token) : spaced ts (ts.map leading) = ts.flatMap layout := by
  induction ts with
  | nil => rfl
  | cons t ts ih => rw [List.map_cons, spaced_cons, ih, List.flatMap_cons, layout]

theorem uncommented_blank {c : Char} (hc : isBlank c = true) (t : Text) :
    code.uncommented (c :: t) = c :: code.uncommented t := by
  have hplain : Plain c := plain_of_not_mark (Rule.not_mark_of_isBlank hc)
  have hone : code.uncommented [c] = [c] := uncommented_plain (by simpa using hplain)
  have hbehind : code.behind [c] = code := behind_plain (by simpa using hplain)
  have happend := uncommented_append code [c] t
  rw [hone, hbehind] at happend
  exact happend

/-- A comment leaves nothing but the end of its line. -/
theorem uncommented_sign {body t : Text} (line : '\n' ∉ body) (ends : ∀ c ∈ t.head?, c = '\n') :
    code.uncommented ('#' :: (body ++ t)) = code.uncommented t := by
  have hopen : code.next '#' = comment := rfl
  rw [Zone.uncommented, hopen, if_pos rfl, uncommented_append, uncommented_comment line,
    behind_comment line, uncommented_line ends, List.nil_append]

/-- A token is kept. -/
theorem uncommented_token {l : Lexeme} {kind : TokenKind} {t : Text}
    (first : Lexeme.read? (l.text ++ t) = some l) (shown : l.kind? = some kind) :
    code.uncommented (l.text ++ t) = l.text ++ code.uncommented t := by
  obtain ⟨-, hc⟩ := Lexeme.solid_of_kind? shown
  obtain ⟨hbehind, hkept⟩ := Lexeme.zone_of_read? first hc
  rw [uncommented_append, hbehind, hkept]

namespace Reads

variable {p : Position} {leading t trailing stuck : Text} {ts : List Token}

theorem of_blank {c : Char} (hc : isBlank c = true) (h : Reads p leading (c :: t) ts trailing stuck) :
    Reads (p.advance [c]) (leading ++ [c]) t ts trailing stuck := by
  obtain ⟨htokens, hstuck⟩ := ofLexemes_blank hc p leading t
  rw [reads_iff, htokens, hstuck] at h
  exact reads_iff.mpr h

/-- Of nothing, nothing is read. -/
theorem of_nil (h : Reads p leading [] ts trailing stuck) : ts = [] ∧ trailing = leading ∧ stuck = [] := by
  obtain ⟨htokens, hstuck⟩ := reads_iff.mp h
  rw [Lexeme.segment_nil] at htokens hstuck
  obtain ⟨rfl, rfl⟩ := Prod.mk.inj htokens
  exact ⟨rfl, rfl, hstuck.symm⟩

/-- The first token keeps the blanks read before it. -/
theorem leading_starts (h : Reads p leading t ts trailing stuck) :
    ∀ u ∈ ts.head?, leading <+: u.leading := by
  induction h with
  | nil | stuck => exact nofun
  | blank _ _ ih => exact fun u hu => (List.prefix_append _ _).trans (ih u hu)
  | comment _ _ _ ih => exact ih
  | token =>
    intro u hu
    obtain rfl := Option.some.inj hu
    exact List.prefix_rfl

theorem leading_ne_nil (h : Reads p leading t ts trailing stuck)
    (ht : ∀ c ∈ t.head?, isBlank c = true) : ∀ u ∈ ts.head?, u.leading ≠ [] := by
  cases t with
  | nil =>
    obtain ⟨rfl, -⟩ := h.of_nil
    exact nofun
  | cons c t =>
    intro u hu hnil
    have hstarts := (h.of_blank (ht c rfl)).leading_starts u hu
    rw [hnil] at hstarts
    simp at hstarts

/-- Behind a token, the respaced text starts with a blank if the text does. -/
theorem head?_spaced {gaps : List Text} {behind : Text} (h : Reads p leading t ts trailing stuck)
    (ht : ∀ c ∈ t.head?, isBlank c = true) (hg : List.Forall₂ Gap ts gaps)
    (hb : ∀ c ∈ behind, isBlank c = true) : ∀ c ∈ (spaced ts gaps ++ behind).head?, isBlank c = true := by
  cases hg with
  | nil => exact fun c hc => hb c (List.mem_of_mem_head? hc)
  | @cons u gap us gaps hgap _ =>
    obtain ⟨d, gap', rfl⟩ := List.exists_cons_of_ne_nil (hgap.2 (h.leading_ne_nil ht u rfl))
    intro c hc
    obtain rfl : d = c := Option.some.inj hc
    exact hgap.1 d List.mem_cons_self

/-- Up to the first blank, the text and its respaced form agree. -/
theorem exists_cut {gaps : List Text} {behind : Text} (h : Reads p [] t ts trailing stuck)
    (hg : List.Forall₂ Gap ts gaps) (hb : ∀ c ∈ behind, isBlank c = true) :
    ∃ shared rest rest', t = shared ++ rest ∧ spaced ts gaps ++ behind = shared ++ rest' ∧
      ∀ c ∈ rest'.head?, isBlank c = true := by
  generalize hl : ([] : Text) = leading at h
  -- Tokens that touch are shared one by one; the first gap, old or new, is where the texts part.
  induction h generalizing gaps with
  | nil | stuck =>
    cases hg
    exact ⟨[], _, behind, rfl, rfl, fun c hc => hb c (List.mem_of_mem_head? hc)⟩
  | @blank p leading t trailing stuck ts c separates rest _ =>
    have hhead : ∀ d ∈ (c :: t).head?, isBlank d = true := by simpa using separates
    exact ⟨[], c :: t, _, rfl, rfl, (Reads.blank separates rest).head?_spaced hhead hg hb⟩
  | @comment p leading t trailing stuck body ts line ends rest _ =>
    have hhead : ∀ d ∈ t.head?, isBlank d = true := by
      intro d hd
      rw [ends d hd]
      rfl
    exact ⟨[], _, _, rfl, rfl, rest.head?_spaced hhead hg hb⟩
  | @token p leading t trailing stuck ts l kind first shown rest ih =>
    cases hg with
    | @cons _ gap _ gaps hgap hg =>
      cases gap with
      | nil =>
        obtain ⟨shared, old, new, rfl, hnew, hcut⟩ := ih hg rfl
        refine ⟨l.text ++ shared, old, new, (List.append_assoc ..).symm, ?_, hcut⟩
        rw [spaced_cons, List.nil_append, List.append_assoc, hnew, List.append_assoc]
      | cons c gap =>
        refine ⟨[], _, _, rfl, rfl, ?_⟩
        intro d hd
        obtain rfl : c = d := Option.some.inj hd
        exact hgap.1 c List.mem_cons_self

/-- Tokens with other gaps in front of them are read again, behind those gaps. -/
theorem respaced {gaps : List Text} {behind : Text} (h : Reads p leading t ts trailing stuck)
    (hg : List.Forall₂ Gap ts gaps) (hb : ∀ c ∈ behind, isBlank c = true) (p' : Position) :
    ∃ ts', Reads p' [] (spaced ts gaps ++ behind) ts' behind [] ∧
      ts'.map (fun u => (u.kind, u.value, u.leading)) =
        List.zipWith (fun u gap => (u.kind, u.value, gap)) ts gaps := by
  -- Each token is read again because the new text agrees with the old one behind it up to a cut.
  induction h generalizing gaps p' with
  | nil | stuck =>
    cases hg
    have hend : Reads p' [] (behind ++ []) [] behind [] := .blanks hb (.nil _ _)
    rw [List.append_nil] at hend
    exact ⟨[], hend, rfl⟩
  | blank _ _ ih => exact ih hg p'
  | comment _ _ _ ih => exact ih hg p'
  | @token p leading t trailing stuck ts l kind first shown rest ih =>
    cases hg with
    | @cons _ gap _ gaps hgap hg =>
      obtain ⟨ts', hts', hmap⟩ := ih hg ((p'.advance gap).advance l.text)
      obtain ⟨shared, old, new, rfl, hnew, hcut⟩ := rest.exists_cut hg hb
      have hfirst : Lexeme.read? (l.text ++ (spaced ts gaps ++ behind)) = some l := by
        rw [hnew]
        exact Lexeme.read?_cut first shown hcut
      refine ⟨⟨kind, l.text, (p'.advance gap).line, (p'.advance gap).column, gap⟩ :: ts', ?_, ?_⟩
      · rw [spaced_cons, List.append_assoc, List.append_assoc]
        exact .blanks hgap.1 (.token hfirst shown hts')
      · rw [List.map_cons, hmap]
        rfl

/-- Up to the first blank or comment, the text and its form without comments agree. -/
theorem exists_cut_uncommented (h : Reads p leading t ts trailing []) :
    ∃ shared rest rest', t = shared ++ rest ∧ code.uncommented t = shared ++ rest' ∧
      ∀ c ∈ rest'.head?, isBlank c = true := by
  generalize hs : ([] : Text) = stuck at h
  induction h with
  | nil => exact ⟨[], [], [], rfl, rfl, nofun⟩
  | stuck => cases hs
  | @blank p leading t trailing stuck ts c separates _ ih =>
    obtain ⟨shared, rest, rest', rfl, huncommented, hcut⟩ := ih hs
    refine ⟨c :: shared, rest, rest', rfl, ?_, hcut⟩
    rw [uncommented_blank separates, huncommented, List.cons_append]
  | @comment p leading t trailing stuck body ts line ends _ _ =>
    -- Up to its first comment a text is as it is without comments; behind that comes a line feed or the
    -- end.
    refine ⟨[], _, _, rfl, uncommented_sign line ends, ?_⟩
    cases t with
    | nil => exact nofun
    | cons c t =>
      obtain rfl : c = '\n' := ends c rfl
      rw [uncommented_blank rfl]
      intro d hd
      obtain rfl := Option.some.inj hd
      rfl
  | @token p leading t trailing stuck ts l kind first shown _ ih =>
    obtain ⟨shared, rest, rest', rfl, huncommented, hcut⟩ := ih hs
    refine ⟨l.text ++ shared, rest, rest', (List.append_assoc ..).symm, ?_, hcut⟩
    rw [uncommented_token first shown, huncommented, List.append_assoc]

/-- A text without its comments has the tokens of the text, each in its place. -/
theorem uncommented (h : Reads p leading t ts trailing []) :
    Reads p leading (code.uncommented t) ts trailing [] := by
  generalize hs : ([] : Text) = stuck at h
  induction h with
  | nil => exact .nil _ _
  | stuck => cases hs
  | blank separates _ ih =>
    rw [uncommented_blank separates]
    exact .blank separates (ih hs)
  | @comment p leading t trailing stuck body ts line ends rest ih =>
    rw [uncommented_sign line ends]
    cases t with
    | nil =>
      obtain ⟨rfl, rfl, rfl⟩ := rest.of_nil
      exact .nil _ _
    | cons c t =>
      obtain rfl : c = '\n' := ends c rfl
      have hsign : '\n' ∉ '#' :: body := List.not_mem_cons_of_ne_of_not_mem (by decide) line
      have hline : (p.advance ('#' :: body)).advance ['\n'] = p.advance ['\n'] := by
        simp [Position.advance, hsign]
      have hbehind := ih hs
      rw [uncommented_blank rfl] at hbehind ⊢
      have hrest := hbehind.of_blank rfl
      rw [hline] at hrest
      exact .blank rfl hrest
  | token first shown rest ih =>
    rw [uncommented_token first shown]
    subst hs
    obtain ⟨shared, old, new, rfl, hnew, hcut⟩ := rest.exists_cut_uncommented
    have hbehind := ih rfl
    rw [hnew] at hbehind ⊢
    exact .token (Lexeme.read?_cut first shown hcut) shown hbehind

end Reads

end Token

/-- Tokens of a text, written with any gaps that are open where theirs were, are read again: the same kinds
and values, behind those gaps. With their own blanks they are the text without its comments, and each is
read again at its own place. -/
theorem tokenize_spaced (t : Text) (file file' : Option FilePath) (tokens : List Token) (trailing : Text)
    (h : tokenize t file = .ok (tokens, trailing)) :
    (∀ gaps behind, List.Forall₂ Token.Gap tokens gaps → (∀ c ∈ behind, isBlank c = true) →
      ∃ tokens', tokenize (Token.spaced tokens gaps ++ behind) file' = .ok (tokens', behind) ∧
        tokens'.length = tokens.length ∧
        tokens'.map (fun u => (u.kind, u.value, u.leading)) =
          List.zipWith (fun u gap => (u.kind, u.value, gap)) tokens gaps) ∧
    Token.spaced tokens (tokens.map Token.leading) ++ trailing = Zone.code.uncommented t ∧
    tokenize (Zone.code.uncommented t) file' = .ok (tokens, trailing) := by
  have hreads := tokenize_eq_ok_iff_reads.mp h
  refine ⟨?_, ?_, tokenize_eq_ok_iff_reads.mpr hreads.uncommented⟩
  · intro gaps behind hg hb
    obtain ⟨tokens', hread, hmap⟩ := hreads.respaced hg hb {}
    refine ⟨tokens', tokenize_eq_ok_iff_reads.mpr hread, ?_, hmap⟩
    have hlen := congrArg List.length hmap
    rw [List.length_map, List.length_zipWith, ← hg.length_eq, Nat.min_self] at hlen
    exact hlen
  · rw [Token.spaced_leading]
    exact layout_of_tokenize h

/-- A blank may come between the angle and its neighbours, but the comment leaves a gap behind it. -/
theorem tokenize_spaced_angle :
    tokenize "a<b#c\n=1".toList none = .ok ([⟨.atom, ['a'], 1, 1, []⟩, ⟨.operator, ['<'], 1, 2, []⟩,
      ⟨.atom, ['b'], 1, 3, []⟩, ⟨.operator, ['='], 2, 1, ['\n']⟩, ⟨.atom, ['1'], 2, 2, []⟩], []) ∧
    (∃ tokens', tokenize "a <b = 1\t".toList none = .ok (tokens', ['\t']) ∧
      tokens'.map (fun u => (u.kind, u.value, u.leading)) = [(.atom, ['a'], []), (.operator, ['<'], [' ']),
        (.atom, ['b'], []), (.operator, ['='], [' ']), (.atom, ['1'], [' '])]) ∧
    tokenize "a<b\n=1".toList none = .ok ([⟨.atom, ['a'], 1, 1, []⟩, ⟨.operator, ['<'], 1, 2, []⟩,
      ⟨.atom, ['b'], 1, 3, []⟩, ⟨.operator, ['='], 2, 1, ['\n']⟩, ⟨.atom, ['1'], 2, 2, []⟩], []) := by
  have h : tokenize "a<b#c\n=1".toList none = .ok ([⟨.atom, ['a'], 1, 1, []⟩,
      ⟨.operator, ['<'], 1, 2, []⟩, ⟨.atom, ['b'], 1, 3, []⟩, ⟨.operator, ['='], 2, 1, ['\n']⟩,
      ⟨.atom, ['1'], 2, 2, []⟩], []) := by decide +kernel
  obtain ⟨hspaced, -, hplain⟩ := tokenize_spaced _ none none _ _ h
  have hgaps : List.Forall₂ Token.Gap [⟨.atom, ['a'], 1, 1, []⟩, ⟨.operator, ['<'], 1, 2, []⟩,
      ⟨.atom, ['b'], 1, 3, []⟩, ⟨.operator, ['='], 2, 1, ['\n']⟩, ⟨.atom, ['1'], 2, 2, []⟩]
      [[], [' '], [], [' '], [' ']] := by
    simp [Token.Gap, isBlank]
  obtain ⟨tokens', hread, -, hmap⟩ := hspaced _ ['\t'] hgaps (by simp [isBlank])
  exact ⟨h, ⟨tokens', hread, hmap⟩, hplain⟩

end Shorthand
