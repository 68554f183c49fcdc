import Shorthand.Diagnostic
import Shorthand.Scan

/-! The lines that a diagnostic shows. A text is cut into lines and joined again without loss either way; a
place in a text is a character of one of its lines; and the rows of a site number the lines shown as
the text does, with one row of carets below the last of them. -/
namespace Shorthand

namespace Text

theorem notMem_of_mem_cut {sep : Char} {t piece : Text} (h : piece ∈ cut sep t) : sep ∉ piece := by
  induction t generalizing piece with
  | nil =>
    rw [cut_nil, List.mem_singleton] at h
    rw [h]
    exact List.not_mem_nil
  | cons c t ih =>
    by_cases hc : c = sep
    · subst hc
      rw [cut_cons_self] at h
      rcases List.mem_cons.mp h with rfl | h
      · exact List.not_mem_nil
      · exact ih h
    · obtain ⟨first, rest, hcut⟩ := List.exists_cons_of_ne_nil (cut_ne_nil sep t)
      rw [cut_cons_of_ne hc, hcut] at h
      rw [hcut] at ih
      rcases List.mem_cons.mp h with rfl | h
      · exact List.not_mem_cons_of_ne_of_not_mem (Ne.symm hc) (ih List.mem_cons_self)
      · exact ih (List.mem_cons_of_mem first h)

/-- A piece without separators is the first one of what it begins. -/
theorem cut_append_sep {sep : Char} {piece : Text} (h : sep ∉ piece) (t : Text) :
    cut sep (piece ++ sep :: t) = piece :: cut sep t := by
  induction piece with
  | nil => exact cut_cons_self sep t
  | cons c piece ih =>
    obtain ⟨hc, hpiece⟩ := not_or.mp (mt List.mem_cons.mpr h)
    rw [List.cons_append, cut_cons_of_ne (Ne.symm hc), ih hpiece]
    rfl

/-- Pieces without the separator are found again between the separators that join them. -/
theorem cut_join {sep : Char} {pieces : List Text} (hne : pieces ≠ [])
    (h : ∀ piece ∈ pieces, sep ∉ piece) : cut sep (join [sep] pieces) = pieces := by
  induction pieces with
  | nil => exact absurd rfl hne
  | cons piece pieces ih =>
    obtain ⟨hpiece, hrest⟩ := List.forall_mem_cons.mp h
    cases pieces with
    | nil =>
      have hjoin : join [sep] [piece] = piece := by simp [join]
      rw [hjoin, cut_of_notMem hpiece]
    | cons next more =>
      have hjoin : join [sep] (piece :: next :: more) = piece ++ sep :: join [sep] (next :: more) := by
        simp [join]
      rw [hjoin, cut_append_sep hpiece, ih (List.cons_ne_nil next more) hrest]

theorem join_concat (sep last : Text) {pieces : List Text} (hne : pieces ≠ []) :
    join sep (pieces ++ [last]) = join sep pieces ++ sep ++ last := by
  induction pieces with
  | nil => exact absurd rfl hne
  | cons piece pieces ih =>
    cases pieces with
    | nil => simp [join]
    | cons next more =>
      have hrest := ih (List.cons_ne_nil next more)
      simp only [join, List.cons_append, List.intercalate_cons_cons] at hrest ⊢
      rw [hrest]
      simp only [List.append_assoc]

theorem head?_lines (t : Text) : (lines t)[0]? = some (t.takeWhile (· ≠ '\n')) := by
  induction t with
  | nil => rfl
  | cons c t ih =>
    by_cases hc : c = '\n'
    · subst hc
      rw [lines, cut_cons_self]
      rfl
    · obtain ⟨first, rest, hcut⟩ := List.exists_cons_of_ne_nil (cut_ne_nil '\n' t)
      rw [lines, hcut] at ih
      rw [lines, cut_cons_of_ne hc, hcut, List.takeWhile_cons_of_pos (by simpa using hc)]
      exact congrArg (fun line => some (c :: line)) (Option.some.inj ih)

theorem lastLine_of_notMem {t : Text} (h : '\n' ∉ t) : lastLine t = t := by
  have hlast := lastLine_append_of_notMem [] h
  rw [List.nil_append] at hlast
  exact hlast

theorem lastLine_line (t : Text) : lastLine ('\n' :: t) = lastLine t := by
  by_cases h : '\n' ∈ t
  · exact lastLine_append_of_mem ['\n'] h
  · have hlast := lastLine_append_of_notMem ['\n'] h
    rw [lastLine_of_notMem h]
    exact hlast

/-- The line on which a prefix of a text ends is what the prefix has of it and what follows up to the next
line feed. -/
theorem getElem?_lines (a b : Text) :
    (lines (a ++ b))[a.count '\n']? = some (lastLine a ++ b.takeWhile (· ≠ '\n')) := by
  induction a with
  | nil => exact head?_lines b
  | cons c a ih =>
    by_cases hc : c = '\n'
    · subst hc
      rw [lastLine_line, List.count_cons_self, List.cons_append, lines, cut_cons_self,
        List.getElem?_cons_succ]
      exact ih
    · by_cases ha : '\n' ∈ a
      · -- A character in front of the first line moves no other line.
        obtain ⟨first, rest, hcut⟩ := List.exists_cons_of_ne_nil (cut_ne_nil '\n' (a ++ b))
        obtain ⟨k, hk⟩ := Nat.exists_eq_succ_of_ne_zero (Nat.ne_of_gt (List.count_pos_iff.mpr ha))
        rw [lines, hcut, hk, List.getElem?_cons_succ] at ih
        rw [List.count_cons_of_ne hc, hk, List.cons_append, lines, cut_cons_of_ne hc, hcut,
          show c :: a = [c] ++ a from rfl, lastLine_append_of_mem _ ha]
        exact ih
      · have hnone : '\n' ∉ c :: a := List.not_mem_cons_of_ne_of_not_mem (Ne.symm hc) ha
        have hall : ∀ d ∈ c :: a, decide (d ≠ '\n') = true :=
          fun d hd => decide_eq_true fun he => hnone (he ▸ hd)
        rw [List.count_eq_zero_of_not_mem hnone, lastLine_of_notMem hnone, head?_lines,
          List.takeWhile_append_of_pos hall]

/-- A character of a text stands on the line, and in the column, that the characters in front of it
count. -/
theorem exists_line (before after : Text) {c : Char} (hc : c ≠ '\n') :
    ∃ row, (lines (before ++ c :: after))[before.count '\n']? = some row ∧
      row[(lastLine before).length]? = some c := by
  refine ⟨_, getElem?_lines before (c :: after), ?_⟩
  rw [List.getElem?_append_right (Nat.le_refl _), Nat.sub_self,
    List.takeWhile_cons_of_pos (by simpa using hc)]
  rfl

/-- The lines of a text up to line `k`, from two lines above it on, each with its number. -/
def window (t : Text) (k : Nat) : List (Text × Nat) :=
  ((t.lines.zipIdx 1).take k).drop (max 1 (k - 2) - 1)

/-- A window is a slice of the numbered lines. -/
theorem window_eq (t : Text) (k : Nat) :
    t.window k = ((t.lines.take k).drop (max 1 (k - 2) - 1)).zipIdx (max 1 (k - 2)) := by
  apply List.ext_getElem?
  intro i
  rw [window, List.getElem?_drop, List.getElem?_take, List.getElem?_zipIdx, List.getElem?_zipIdx,
    List.getElem?_drop, List.getElem?_take]
  split
  · congr 1
    funext line
    rw [Prod.mk.injEq]
    exact ⟨rfl, by omega⟩
  · rfl

/-- A window ends with the line that it is for. -/
theorem exists_window {t line : Text} {k : Nat} (h : t.lines[k]? = some line) :
    ∃ above, t.window (k + 1) = (above ++ [line]).zipIdx (max 1 (k - 1)) ∧
      max 1 (k - 1) + above.length = k + 1 := by
  have htake : t.lines.take (k + 1) = t.lines.take k ++ [line] := by
    rw [List.take_add_one, h]
    rfl
  have hk : k < t.lines.length := (List.getElem?_eq_some_iff.mp h).1
  have hlen : (t.lines.take k).length = k := List.length_take_of_le (Nat.le_of_lt hk)
  have hfirst : max 1 (k - 1) - 1 ≤ (t.lines.take k).length := by omega
  refine ⟨(t.lines.take k).drop (max 1 (k - 1) - 1), ?_, ?_⟩
  · rw [window_eq, htake, Nat.add_sub_add_right k 1 1, List.drop_append_of_le_length hfirst]
  · rw [List.length_drop, hlen]
    omega

end Text

/-- An excerpt is the text of a window. -/
theorem excerpt_eq (t : Text) (k : Nat) :
    excerpt t ((k : Int) + 1) = Text.join ['\n'] ((t.window (k + 1)).map Prod.fst) := by
  have hstart : (max 1 ((k : Int) + 1 - 2) - 1).toNat = max 1 (k + 1 - 2) - 1 := by omega
  have hstop : ((k : Int) + 1).toNat = k + 1 := by omega
  rw [Text.window_eq, List.zipIdx_map_fst, excerpt]
  simp only [hstart, hstop]
  rw [if_neg (by omega)]

namespace Site

/-- A source line behind its number, which is at least four characters wide, and a bar. -/
def numbered (a : Text × Nat) : Text :=
  List.replicate (4 - (Nat.toDigits 10 a.2).length) ' ' ++ Nat.toDigits 10 a.2 ++ " | ".toList ++ a.1

theorem gutter_append (line : Text) (number : Nat) : gutter number ++ line = numbered (line, number) := rfl

/-- The rows of lines that end with the site's line: the lines with their numbers, then the carets. -/
theorem rows_concat (s : Site) (above : List Text) (last : Text) (n : Nat)
    (h : ((n + above.length : Nat) : Int) = s.line) :
    s.rows n (above ++ [last]) =
      ((above ++ [last]).zipIdx n).map numbered ++ [s.marker (n + above.length)] := by
  induction above generalizing n with
  | nil =>
    have hn : (n : Int) = s.line := h
    simp [rows, hn, gutter_append]
  | cons line above ih =>
    have hne : (n : Int) ≠ s.line := by
      rw [List.length_cons] at h
      omega
    have hnext : ((n + 1 + above.length : Nat) : Int) = s.line := by
      rw [← h, List.length_cons]
      omega
    have hrest := ih (n + 1) hnext
    rw [List.cons_append, rows, if_neg hne, List.nil_append, hrest, List.zipIdx_cons, List.map_cons,
      gutter_append, List.length_cons, List.cons_append, Nat.add_right_comm]
    rfl

end Site

end Shorthand
