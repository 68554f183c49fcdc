import Shorthand.Proofs.RuleLanguage
import Shorthand.Scan

/-! Segmentation of a text into lexemes. Each lexeme is what the first rule with a match takes, and the
rest that no rule matches is empty or starts with a quote that is never closed. -/
namespace Shorthand

namespace Lexeme

/-- The lexeme that is read is of the first rule that takes anything. -/
theorem read?_eq_some {t : Text} {l : Lexeme} (h : read? t = some l) :
    0 < l.rule.length t ∧ l.text = t.take (l.rule.length t) ∧
      ∀ r ∈ Rule.ordered.takeWhile (· ≠ l.rule), r.length t = 0 := by
  obtain ⟨earlier, rule, later, hord, hl, hearlier⟩ := List.findSome?_eq_some_iff.mp h
  split at hl
  · rename_i hpos
    obtain rfl := Option.some.inj hl
    refine ⟨hpos, rfl, ?_⟩
    have hnodup : Rule.ordered.Nodup := by decide
    have hnot : rule ∉ earlier := by
      rw [hord] at hnodup
      intro hmem
      exact (List.nodup_append.mp hnodup).2.2 rule hmem rule List.mem_cons_self rfl
    have htake : Rule.ordered.takeWhile (· ≠ rule) = earlier := by
      rw [hord, List.takeWhile_append_of_pos]
      · simp
      · intro r hr
        simpa using fun he : r = rule => hnot (he ▸ hr)
    intro r hr
    rw [htake] at hr
    have hnone := hearlier r hr
    split at hnone
    · cases hnone
    · omega
  · cases hl

/-- No lexeme is read exactly if no rule takes anything. -/
theorem read?_eq_none {t : Text} : read? t = none ↔ ∀ rule : Rule, rule.length t = 0 := by
  have hall : ∀ rule, rule ∈ Rule.ordered := by
    intro rule
    cases rule <;> decide
  simp only [read?, List.findSome?_eq_none_iff]
  constructor
  · intro h rule
    have hrule := h rule (hall rule)
    split at hrule
    · cases hrule
    · omega
  · intro h rule _
    rw [h rule]
    rfl

theorem exists_rest {t : Text} {l : Lexeme} (h : read? t = some l) :
    ∃ rest, t = l.text ++ rest ∧ l.text.length = l.rule.length t ∧ l.rule.Matches l.text := by
  obtain ⟨hpos, htext, -⟩ := read?_eq_some h
  rcases Rule.takes_length l.rule t with hzero | ⟨w, rest, ht, hlen, hw⟩
  · omega
  · have hwt : l.text = w := by
      rw [htext, ← hlen, ht, List.take_left]
    exact ⟨rest, by rw [hwt, ht], by rw [hwt, hlen], by rw [hwt]; exact hw⟩

/-- A lexeme of an ordinary rule holds no mark. -/
theorem not_mark_of_read? {t : Text} {l : Lexeme} (h : read? t = some l)
    (ho : l.rule.isOrdinary = true) : ∀ c ∈ l.text, Rule.isMark c = false := by
  obtain ⟨rest, ht, -, hm⟩ := exists_rest h
  by_cases hlast : l.rule = .other
  · obtain ⟨-, -, hearlier⟩ := read?_eq_some h
    rw [hlast] at hm hearlier
    obtain ⟨c, hc, -, hquote⟩ := hm
    have hcomment := hearlier .comment (by decide)
    have hdelimiter := hearlier .delimiter (by decide)
    rw [hc, List.singleton_append] at ht
    subst ht
    intro d hd
    rw [hc, List.mem_singleton] at hd
    subst hd
    have hsign : d ≠ '#' := by
      intro hd
      subst hd
      simp [Rule.length] at hcomment
    have hbracket : d ∉ "()[]\x7b\x7d".toList := by
      intro hmem
      rw [Rule.length, Rule.oneLength, decide_eq_true hmem] at hdelimiter
      cases hdelimiter
    simp only [Rule.isMark, decide_eq_false_iff_not]
    intro hmem
    rcases List.mem_cons.mp hmem with rfl | hmem
    · exact hquote rfl
    · rcases List.mem_cons.mp hmem with rfl | hmem
      · exact hsign rfl
      · exact hbracket hmem
  · exact hm.not_mark ho hlast

/-- Only a quote that is never closed starts no lexeme. -/
theorem read?_cons_eq_none {c : Char} {rest : Text} :
    read? (c :: rest) = none ↔ c = '"' ∧ Rule.closing? rest = none := by
  rw [read?_eq_none]
  constructor
  · intro h
    have hspace := h .space
    have hother := h .other
    have hstring := h .string
    have hblank : isBlank c = false := by
      cases hb : isBlank c with
      | false => rfl
      | true => simp [Rule.length, hb] at hspace
    have hquote : c = '"' := by simpa [Rule.length, Rule.oneLength, hblank] using hother
    subst hquote
    refine ⟨rfl, ?_⟩
    cases hc : Rule.closing? rest with
    | none => rfl
    | some n => simp [Rule.length, hc] at hstring
  · intro h rule
    obtain ⟨rfl, hc⟩ := h
    cases rule with
    | string => simp only [Rule.length, hc]
    | _ => rfl

/-- A comment goes on to the end of its line. -/
theorem head?_of_comment {l : Lexeme} {rest : Text} (h : read? (l.text ++ rest) = some l)
    (hc : l.rule = .comment) : ∀ c ∈ rest.head?, c = '\n' := by
  obtain ⟨-, -, hlen, hm⟩ := exists_rest h
  rw [hc] at hlen hm
  obtain ⟨body, hbody, -⟩ := hm
  rw [hbody] at hlen
  have hrule : Rule.comment.length ('#' :: body ++ rest) =
      1 + ((body ++ rest).takeWhile (· ≠ '\n')).length := rfl
  have htake : (body ++ rest).takeWhile (· ≠ '\n') = body := by
    have hle : ((body ++ rest).takeWhile (· ≠ '\n')).length = body.length := by
      rw [hrule, List.length_cons] at hlen
      omega
    have hpre := List.prefix_of_prefix_length_le (List.takeWhile_prefix (· ≠ '\n'))
      (List.prefix_append body rest) (Nat.le_of_eq hle)
    exact hpre.eq_of_length hle
  intro c hc
  cases rest with
  | nil => cases hc
  | cons d rest =>
    obtain rfl : d = c := Option.some.inj hc
    have hdrop := List.takeWhile_append_dropWhile (p := (· ≠ '\n')) (l := body ++ d :: rest)
    rw [htake] at hdrop
    have hhead := List.head?_dropWhile_not (· ≠ '\n') (body ++ d :: rest)
    rw [List.append_cancel_left hdrop] at hhead
    simpa using hhead

theorem segment_nil : segment [] = ([], []) := by
  rw [segment.eq_def]

theorem segment_of_none {c : Char} {rest : Text} (h : read? (c :: rest) = none) :
    segment (c :: rest) = ([], c :: rest) := by
  rw [segment.eq_def]
  simp only
  split
  · rfl
  · rename_i hs
    rw [h] at hs
    cases hs

/-- Behind its first lexeme, a text is cut as it is by itself. -/
theorem segment_of_some {t rest : Text} {l : Lexeme} (h : read? t = some l) (ht : t = l.text ++ rest) :
    segment t = (l :: (segment rest).1, (segment rest).2) := by
  cases t with
  | nil => cases h
  | cons c tail =>
    have hdrop : (c :: tail).drop l.text.length = rest := by rw [ht, List.drop_left]
    rw [segment.eq_def]
    simp only
    split
    · rename_i hs
      rw [h] at hs
      cases hs
    · rename_i l' hs
      obtain rfl : l = l' := Option.some.inj (h.symm.trans hs)
      rw [hdrop]

/-- `ls` are the lexemes of a text in order, and `stuck` is the rest behind them. -/
inductive Segments : Text → List Lexeme → Text → Prop where
  | nil : Segments [] [] []
  | stuck {rest : Text} (never : Rule.closing? rest = none) : Segments ('"' :: rest) [] ('"' :: rest)
  | cons {l : Lexeme} {rest : Text} {ls : List Lexeme} {stuck : Text}
      (first : read? (l.text ++ rest) = some l) (behind : Segments rest ls stuck) :
      Segments (l.text ++ rest) (l :: ls) stuck

/-- The lexemes of a text cut it, by induction over its length. -/
theorem segments_segment (t : Text) : Segments t (segment t).1 (segment t).2 := by
  induction t using segment.induct with
  | case1 =>
    rw [segment_nil]
    exact .nil
  | case2 c rest h =>
    obtain ⟨rfl, hc⟩ := read?_cons_eq_none.mp h
    rw [segment_of_none h]
    exact .stuck hc
  | case3 c rest l h ls stuck hseg ih =>
    obtain ⟨rest', ht, -⟩ := exists_rest h
    rw [ht, List.drop_left] at ih
    rw [segment_of_some h ht]
    rw [ht] at h ⊢
    exact .cons h ih

/-- A text is cut in one way only. -/
theorem Segments.segment_eq {t stuck : Text} {ls : List Lexeme} (h : Segments t ls stuck) :
    segment t = (ls, stuck) := by
  induction h with
  | nil => exact segment_nil
  | stuck never => exact segment_of_none (read?_cons_eq_none.mpr ⟨rfl, never⟩)
  | cons first _ ih => rw [segment_of_some first rfl, ih]

/-- The lexemes and what is left are the text. -/
theorem Segments.flatMap_text {t stuck : Text} {ls : List Lexeme} (h : Segments t ls stuck) :
    ls.flatMap text ++ stuck = t := by
  induction h with
  | nil | stuck => rfl
  | cons _ _ ih => rw [List.flatMap_cons, List.append_assoc, ih]

/-- What is left begins with a quote that is not closed. -/
theorem Segments.stuck_eq {t stuck : Text} {ls : List Lexeme} (h : Segments t ls stuck)
    (hs : stuck ≠ []) : ∃ rest, stuck = '"' :: rest ∧ Rule.closing? rest = none := by
  induction h with
  | nil => exact absurd rfl hs
  | stuck never => exact ⟨_, rfl, never⟩
  | cons _ _ ih => exact ih hs

theorem Segments.mem {t stuck : Text} {ls : List Lexeme} (h : Segments t ls stuck) {l : Lexeme}
    (hl : l ∈ ls) : ∃ rest, read? (l.text ++ rest) = some l := by
  induction h with
  | nil | stuck => cases hl
  | @cons l' rest _ _ first _ ih =>
    rcases List.mem_cons.mp hl with rfl | hl
    · exact ⟨rest, first⟩
    · exact ih hl

/-- A lexeme is no token exactly if it is blank or a comment. -/
theorem kind?_eq_none {t : Text} {l : Lexeme} (h : read? t = some l) :
    l.kind? = none ↔ l.rule = .space ∨ l.rule = .comment := by
  obtain ⟨-, -, -, hm⟩ := exists_rest h
  obtain ⟨rule, text⟩ := l
  cases rule with
  | delimiter =>
    have hkinds : "()[]\x7b\x7d".toList.all (fun c => (delimiterKind? [c]).isSome) = true := by decide
    obtain ⟨c, hc, htext⟩ := hm
    simp only at htext
    subst htext
    simpa [kind?, Option.isSome_iff_ne_none] using List.all_eq_true.mp hkinds c hc
  | _ => simp [kind?]

theorem solid_of_kind? {l : Lexeme} {kind : TokenKind} (shown : l.kind? = some kind) :
    l.rule ≠ .space ∧ l.rule ≠ .comment := by
  constructor <;>
  · intro h
    simp [kind?, h] at shown

end Lexeme

/-- The refusal of a text whose quote behind `before` is never closed. -/
def Diagnostic.openQuote (t before : Text) (file : Option FilePath) : Diagnostic where
  fault := .openString
  site :=
    { file := file
      line := (Position.advance {} before).line
      column := (Position.advance {} before).column
      excerpt := some (excerpt t (Position.advance {} before).line) }

/-- A text that falls into lexemes has their tokens; any other is refused at the quote behind them. -/
theorem tokenize_cases (t : Text) (file : Option FilePath) :
    (∃ ls, Lexeme.Segments t ls [] ∧ tokenize t file = .ok (Token.ofLexemes {} [] ls)) ∨
      ∃ ls rest, Lexeme.Segments t ls ('"' :: rest) ∧ Rule.closing? rest = none ∧
        tokenize t file = .error (.openQuote t (ls.flatMap Lexeme.text) file) := by
  have hseg := Lexeme.segments_segment t
  by_cases hs : (Lexeme.segment t).2 = []
  · refine .inl ⟨_, hs ▸ hseg, ?_⟩
    simp [tokenize, Scan.tokenize, hs]
  · obtain ⟨rest, hstuck, hnever⟩ := hseg.stuck_eq hs
    refine .inr ⟨_, rest, hstuck ▸ hseg, hnever, ?_⟩
    simp [tokenize, Scan.tokenize, hs, Scan.openString, Scan.advance, Diagnostic.openQuote]

/-- A text has tokens exactly if its lexemes cut it to the end. -/
theorem tokenize_eq_ok_iff {t : Text} {file : Option FilePath} {tokens : List Token} {trailing : Text} :
    tokenize t file = .ok (tokens, trailing) ↔
      ∃ ls, Lexeme.Segments t ls [] ∧ Token.ofLexemes {} [] ls = (tokens, trailing) := by
  constructor
  · intro h
    rcases tokenize_cases t file with ⟨ls, hseg, hok⟩ | ⟨ls, rest, -, -, herror⟩
    · exact ⟨ls, hseg, Except.ok.inj (hok.symm.trans h)⟩
    · rw [herror] at h
      cases h
  · intro h
    obtain ⟨ls, hseg, hls⟩ := h
    simp [tokenize, Scan.tokenize, hseg.segment_eq, hls]

instance decidableEqOutcome {α : Type} [DecidableEq α] : DecidableEq (Except Diagnostic α)
  | .ok a, .ok b => decidable_of_iff (a = b) ⟨congrArg _, Except.ok.inj⟩
  | .error d, .error d' => decidable_of_iff (d = d') ⟨congrArg _, Except.error.inj⟩
  | .ok _, .error _ | .error _, .ok _ => .isFalse nofun

/-- A text without tokens is cut up to an open quote. -/
theorem exists_openQuote {t : Text} {file : Option FilePath} {d : Diagnostic}
    (h : tokenize t file = .error d) : ∃ ls rest, Lexeme.Segments t ls ('"' :: rest) ∧
      Rule.closing? rest = none ∧ d = .openQuote t (ls.flatMap Lexeme.text) file := by
  rcases tokenize_cases t file with ⟨ls, -, hok⟩ | ⟨ls, rest, hseg, hnever, herror⟩
  · rw [hok] at h
    cases h
  · exact ⟨ls, rest, hseg, hnever, Except.error.inj (h.symm.trans herror)⟩

/-- The only fault of a scan is an open string. -/
theorem fault_of_tokenize_error {t : Text} {file : Option FilePath} {d : Diagnostic}
    (h : tokenize t file = .error d) : d.fault = .openString := by
  obtain ⟨ls, rest, -, -, rfl⟩ := exists_openQuote h
  rfl

/-- Counted from the start of a text, the line is one more than the line feeds and the column one more
than the characters behind the last of them. -/
theorem Position.advance_start (t : Text) :
    Position.advance {} t = ⟨1 + t.count '\n', 1 + (Text.lastLine t).length⟩ := by
  by_cases h : '\n' ∈ t
  · simp only [advance, h, if_true, Position.mk.injEq, true_and]
    exact Nat.add_comm ..
  · have hlast := Text.lastLine_append_of_notMem [] h
    rw [List.nil_append] at hlast
    simp only [advance, h, if_false, hlast, List.count_eq_zero_of_not_mem h]
    rfl

end Shorthand
