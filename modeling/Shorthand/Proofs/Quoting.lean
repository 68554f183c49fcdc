import Shorthand.Command

/-! Quoting of shell words. A quoted word reads as itself, whatever comes before and behind it, so words that
are quoted and joined split into themselves again. Main statement: `split_join`. -/
namespace Shorthand.ShellWords

variable {c : Char} {word : Text} {words : List Text}

/-- Characters that are read before other words become part of the first one. -/
theorem foldr_extend_ok (t first : Text) (words : List Text) :
    t.foldr extend (.ok (first :: words)) = .ok ((t ++ first) :: words) := by
  induction t with
  | nil => rfl
  | cons c t ih =>
    rw [List.foldr_cons, ih]
    rfl

/-- A separator ends the word in front. -/
theorem splitFrom_separator (h : isSeparator c = true) (inWord : Bool) (rest : Text) :
    splitFrom .none inWord (c :: rest) = (splitFrom .none false rest).map (finish inWord) := by
  rw [splitFrom.eq_def]
  exact if_pos h

theorem splitFrom_openSingle (inWord : Bool) (rest : Text) :
    splitFrom .none inWord ('\'' :: rest) = splitFrom .single true rest := by
  rw [splitFrom.eq_def]
  dsimp only
  rw [if_neg (by decide), if_pos rfl]

theorem splitFrom_openDouble (inWord : Bool) (rest : Text) :
    splitFrom .none inWord ('"' :: rest) = splitFrom .double true rest := by
  rw [splitFrom.eq_def]
  dsimp only
  rw [if_neg (by decide), if_neg (by decide), if_pos rfl]

theorem splitFrom_closeSingle (inWord : Bool) (rest : Text) :
    splitFrom .single inWord ('\'' :: rest) = splitFrom .none true rest := by
  rw [splitFrom.eq_def]
  exact if_pos rfl

theorem splitFrom_closeDouble (inWord : Bool) (rest : Text) :
    splitFrom .double inWord ('"' :: rest) = splitFrom .none true rest := by
  rw [splitFrom.eq_def]
  exact if_pos rfl

/-- A character without a meaning of its own goes into the word. -/
theorem splitFrom_plain (h : isPlain c = true) (inWord : Bool) (rest : Text) :
    splitFrom .none inWord (c :: rest) = extend c (splitFrom .none true rest) := by
  have hne : ∀ d, isPlain d = false → c ≠ d := by
    rintro d hd rfl
    cases h.symm.trans hd
  have hseparator : ¬ isSeparator c = true := by
    simp only [isSeparator, Bool.or_eq_true, beq_iff_eq, not_or]
    exact ⟨⟨⟨hne ' ' (by decide), hne '\t' (by decide)⟩, hne '\r' (by decide)⟩, hne '\n' (by decide)⟩
  rw [splitFrom.eq_def]
  dsimp only
  rw [if_neg hseparator, if_neg (hne '\'' (by decide)), if_neg (hne '"' (by decide)),
    if_neg (hne '\\' (by decide))]

/-- Plain characters go into the word one after the other. -/
theorem splitFrom_allPlain (h : word.all isPlain = true) (rest : Text) :
    splitFrom .none true (word ++ rest) = word.foldr extend (splitFrom .none true rest) := by
  induction word with
  | nil => rfl
  | cons c word ih =>
    rw [List.all_cons, Bool.and_eq_true] at h
    rw [List.cons_append, splitFrom_plain h.1, ih h.2]
    rfl

/-- Between single quotes every character goes into the word. A single quote itself is written by leaving
them for a moment. -/
theorem splitFrom_singleQuoted (word rest : Text) :
    splitFrom .single true
        (word.flatMap (fun c => if c = '\'' then "'\"'\"'".toList else [c]) ++ '\'' :: rest) =
      word.foldr extend (splitFrom .none true rest) := by
  induction word with
  | nil => exact splitFrom_closeSingle true rest
  | cons c word ih =>
    rw [List.flatMap_cons, List.append_assoc, List.foldr_cons, ← ih]
    by_cases hc : c = '\''
    · subst hc
      rw [if_pos rfl]
      -- Out of the single quotes, into double ones, the quote itself, and all the way back.
      change splitFrom .single true ('\'' :: '"' :: '\'' :: '"' :: '\'' :: _) = _
      rw [splitFrom_closeSingle, splitFrom_openDouble]
      change extend '\'' (splitFrom .double true ('"' :: '\'' :: _)) = _
      rw [splitFrom_closeDouble, splitFrom_openSingle]
      rfl
    · rw [if_neg hc, List.singleton_append, splitFrom, if_neg hc]

/-- A quoted word reads as that word, whatever is behind it. -/
theorem splitFrom_quote (word rest : Text) (inWord : Bool) :
    splitFrom .none inWord (quote word ++ rest) = word.foldr extend (splitFrom .none true rest) := by
  rw [quote]
  split
  next h =>
    obtain ⟨hne, hall⟩ := h
    obtain ⟨c, t, rfl⟩ := List.exists_cons_of_ne_nil hne
    rw [List.all_cons, Bool.and_eq_true] at hall
    rw [List.cons_append, splitFrom_plain hall.1, splitFrom_allPlain hall.2]
    rfl
  next =>
    rw [List.cons_append, List.cons_append, List.append_assoc, splitFrom_openSingle]
    exact splitFrom_singleQuoted word rest

/-- A quoted word is split into that word alone. -/
theorem split_quote (word : Text) : split (quote word) = .ok [word] := by
  have hread := splitFrom_quote word [] false
  rw [List.append_nil] at hread
  rw [split, hread]
  have hend : splitFrom .none true [] = .ok [[]] := rfl
  rw [hend, foldr_extend_ok, List.append_nil]

/-- Words are joined with one blank between them. -/
theorem join_cons_cons (word next : Text) (words : List Text) :
    join (word :: next :: words) = quote word ++ ' ' :: join (next :: words) := by
  simp [join, Text.join, List.intercalate_cons_cons]

/-- Words that are quoted and joined are split into themselves. -/
theorem split_join (words : List Text) : split (join words) = .ok words := by
  induction words with
  | nil => rfl
  | cons word rest ih =>
    cases rest with
    | nil =>
      have hjoin : join [word] = quote word := by simp [join, Text.join]
      rw [hjoin, split_quote]
    | cons next rest =>
      have hspace : isSeparator ' ' = true := rfl
      calc split (join (word :: next :: rest))
          = word.foldr extend (splitFrom .none true (' ' :: join (next :: rest))) := by
            rw [join_cons_cons, split, splitFrom_quote]
        _ = word.foldr extend ((split (join (next :: rest))).map (finish true)) := by
            rw [splitFrom_separator hspace, split]
        _ = word.foldr extend (.ok ([] :: next :: rest)) := by
            rw [ih]
            rfl
        _ = .ok (word :: next :: rest) := by
            rw [foldr_extend_ok, List.append_nil]

end Shorthand.ShellWords
