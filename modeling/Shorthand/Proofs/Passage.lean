import Shorthand.Proofs.RuleLanguage

/-! Passages: text without comments, whose quotes close and whose brackets match those that are open.
Passages can be joined, put between brackets and trimmed, and their string literals stay as they are. -/
namespace Shorthand

def Closer.opening : Closer → Char
  | .paren => '('
  | .brace => '\x7b'
  | .bracket => '['

/-- The string literal with the given text between its quotes. -/
def Text.literal (body : Text) : Text := '"' :: (body ++ ['"'])

/-- What holds of a text holds of the trimmed text if it survives the loss of a blank at either end. -/
theorem Text.trim_closed {Q : Text → Prop} (first : ∀ c t, isBlank c = true → Q (c :: t) → Q t)
    (last : ∀ c t, isBlank c = true → Q (t ++ [c]) → Q t) {t : Text} (h : Q t) : Q t.trim := by
  have hstart : Q t.trimStart := by
    rw [trimStart]
    induction t with
    | nil => exact h
    | cons c t ih =>
      rw [List.dropWhile_cons]
      split
      · rename_i hc
        exact ih (first c t hc h)
      · exact h
  rw [trim, trimEnd]
  rw [← List.reverse_reverse t.trimStart] at hstart
  generalize t.trimStart.reverse = u at hstart ⊢
  induction u with
  | nil => exact hstart
  | cons c u ih =>
    rw [List.dropWhile_cons]
    split
    · rename_i hc
      rw [List.reverse_cons] at hstart
      exact ih (last c u.reverse hc hstart)
    · exact hstart

/-- Read where brackets wait for the closers `s`, innermost first, the text leaves brackets that wait for
`s'`. It holds the string literals `lits` and no comment. -/
inductive Passage : List Closer → Text → List Text → List Closer → Prop where
  | nil (s : List Closer) : Passage s [] [] s
  | plain {s s' : List Closer} {c : Char} {t : Text} {lits : List Text}
      (unmarked : Rule.isMark c = false) (rest : Passage s t lits s') : Passage s (c :: t) lits s'
  | literal {s s' : List Closer} {body t : Text} {lits : List Text} (whole : Rule.LiteralBody body)
      (rest : Passage s t lits s') : Passage s ('"' :: (body ++ '"' :: t)) (Text.literal body :: lits) s'
  | opens {s s' : List Closer} {closer : Closer} {t : Text} {lits : List Text}
      (rest : Passage (closer :: s) t lits s') : Passage s (closer.opening :: t) lits s'
  | closes {s s' : List Closer} {closer : Closer} {t : Text} {lits : List Text}
      (rest : Passage s t lits s') : Passage (closer :: s) (closer.char :: t) lits s'

/-- A passage that closes the brackets it opens, and no others. -/
def Whole (t : Text) (lits : List Text) : Prop := ∀ s, Passage s t lits s

theorem Closer.isMark_opening (closer : Closer) : Rule.isMark closer.opening = true := by
  cases closer <;> decide

theorem Closer.isMark_char (closer : Closer) : Rule.isMark closer.char = true := by
  cases closer <;> decide

namespace Passage

variable {s s' : List Closer} {t : Text} {lits : List Text}

/-- A passage goes on with the brackets that another one leaves. -/
theorem append {s'' : List Closer} {u : Text} {lits' : List Text} (h : Passage s t lits s')
    (h' : Passage s' u lits' s'') : Passage s (t ++ u) (lits ++ lits') s'' := by
  induction h with
  | nil => exact h'
  | plain unmarked _ ih => exact .plain unmarked (ih h')
  | literal whole _ ih =>
    rw [List.cons_append, List.append_assoc, List.cons_append]
    exact .literal whole (ih h')
  | opens _ ih => exact .opens (ih h')
  | closes _ ih => exact .closes (ih h')

theorem literals_nil (h : Passage s [] lits s') : lits = [] := by
  cases h
  rfl

/-- A passage starts with a plain character, a literal, an opening bracket, or the closer that is waited
for. -/
theorem cons_cases {c : Char} (h : Passage s (c :: t) lits s') :
    (Rule.isMark c = false ∧ Passage s t lits s') ∨
    (∃ body u lits', c = '"' ∧ t = body ++ '"' :: u ∧ Rule.LiteralBody body ∧
      lits = Text.literal body :: lits' ∧ Passage s u lits' s') ∨
    (∃ closer : Closer, c = closer.opening ∧ Passage (closer :: s) t lits s') ∨
    ∃ (closer : Closer) (outer : List Closer), c = closer.char ∧ s = closer :: outer ∧
      Passage outer t lits s' := by
  cases h with
  | plain unmarked rest => exact .inl ⟨unmarked, rest⟩
  | literal whole rest => exact .inr (.inl ⟨_, _, _, rfl, rfl, whole, rfl, rest⟩)
  | opens rest => exact .inr (.inr (.inl ⟨_, rfl, rest⟩))
  | closes rest => exact .inr (.inr (.inr ⟨_, _, rfl, rfl, rest⟩))

theorem of_cons_plain {c : Char} (hc : Rule.isMark c = false) (h : Passage s (c :: t) lits s') :
    Passage s t lits s' := by
  rcases h.cons_cases with ⟨-, rest⟩ | ⟨_, _, _, rfl, -⟩ | ⟨closer, rfl, -⟩ | ⟨closer, _, rfl, -⟩
  · exact rest
  · cases hc
  · rw [closer.isMark_opening] at hc
    cases hc
  · rw [closer.isMark_char] at hc
    cases hc

theorem of_append_plain {w : Text} (hw : ∀ c ∈ w, Rule.isMark c = false)
    (h : Passage s (w ++ t) lits s') : Passage s t lits s' := by
  induction w with
  | nil => exact h
  | cons c w ih =>
    apply ih
    · exact fun d hd => hw d (List.mem_cons_of_mem c hd)
    · exact of_cons_plain (hw c List.mem_cons_self) h

/-- Behind an opening bracket one more closer is waited for. -/
theorem of_opening (closer : Closer) (h : Passage s (closer.opening :: t) lits s') :
    Passage (closer :: s) t lits s' := by
  rcases h.cons_cases with ⟨hmark, -⟩ | ⟨_, _, _, hq, -⟩ | ⟨closer', hc, rest⟩ | ⟨closer', _, hc, -⟩
  · rw [closer.isMark_opening] at hmark
    cases hmark
  · cases closer <;> cases hq
  · cases closer <;> cases closer' <;> first | exact rest | cases hc
  · cases closer <;> cases closer' <;> cases hc

/-- A closing bracket is the one that is waited for. -/
theorem of_closing (closer : Closer) (h : Passage s (closer.char :: t) lits s') :
    ∃ outer, s = closer :: outer ∧ Passage outer t lits s' := by
  rcases h.cons_cases with ⟨hmark, -⟩ | ⟨_, _, _, hq, -⟩ | ⟨closer', hc, -⟩ | ⟨closer', outer, hc, hs, rest⟩
  · rw [closer.isMark_char] at hmark
    cases hmark
  · cases closer <;> cases hq
  · cases closer <;> cases closer' <;> cases hc
  · cases closer <;> cases closer' <;> first | exact ⟨outer, hs, rest⟩ | cases hc

/-- A literal at the start is the first of the literals. -/
theorem of_literal {body : Text} (hb : Rule.LiteralBody body)
    (h : Passage s (Text.literal body ++ t) lits s') :
    ∃ lits', lits = Text.literal body :: lits' ∧ Passage s t lits' s' := by
  have htext : Text.literal body ++ t = '"' :: (body ++ '"' :: t) := by simp [Text.literal]
  rw [htext] at h
  rcases h.cons_cases with ⟨hmark, -⟩ | ⟨body', u, lits', -, hu, hb', rfl, rest⟩ | ⟨closer, hc, -⟩ |
    ⟨closer, _, hc, -⟩
  · cases hmark
  · obtain ⟨rfl, rfl⟩ := Rule.literalBody_append_inj hb hb' hu
    exact ⟨lits', rfl, rest⟩
  · cases closer <;> cases hc
  · cases closer <;> cases hc

/-- A quote in a passage begins a literal that is closed. -/
theorem closing?_ne_none (h : Passage s ('"' :: t) lits s') : Rule.closing? t ≠ none := by
  rcases h.cons_cases with ⟨hmark, -⟩ | ⟨body, u, -, -, rfl, hb, -⟩ | ⟨closer, hc, -⟩ |
    ⟨closer, _, hc, -⟩
  · cases hmark
  · rw [Rule.closing?_of_literalBody hb]
    exact nofun
  · cases closer <;> cases hc
  · cases closer <;> cases hc

/-- No comment begins in a passage. -/
theorem head_ne_sign (h : Passage s ('#' :: t) lits s') : False := by
  rcases h.cons_cases with ⟨hmark, -⟩ | ⟨_, _, _, hc, -⟩ | ⟨closer, hc, -⟩ | ⟨closer, _, hc, -⟩
  · cases hmark
  · cases hc
  · cases closer <;> cases hc
  · cases closer <;> cases hc

theorem of_append_blank {c : Char} (hc : isBlank c = true) (h : Passage s (t ++ [c]) lits s') :
    Passage s t lits s' := by
  have hmark := Rule.not_mark_of_isBlank hc
  generalize hu : t ++ [c] = u at h
  induction h generalizing t with
  | nil => simp at hu
  | plain unmarked rest ih =>
    rcases List.append_eq_cons_iff.mp hu with ⟨rfl, hlast⟩ | ⟨t', rfl, ht'⟩
    · obtain ⟨-, rfl⟩ := List.cons.inj hlast
      exact rest
    · exact .plain unmarked (ih ht'.symm)
  | @literal _ _ body v lits whole rest ih =>
    rcases List.eq_nil_or_concat v with rfl | ⟨v', d, rfl⟩
    · have heq : t ++ [c] = ('"' :: body) ++ ['"'] := hu
      obtain ⟨-, hlast⟩ := List.append_inj' heq rfl
      obtain rfl : c = '"' := (List.cons.inj hlast).1
      cases hmark
    · have heq : t ++ [c] = ('"' :: (body ++ '"' :: v')) ++ [d] := by
        rw [hu]
        simp
      obtain ⟨rfl, hlast⟩ := List.append_inj' heq rfl
      obtain rfl : c = d := (List.cons.inj hlast).1
      exact .literal whole (ih (List.concat_eq_append).symm)
  | @opens _ _ closer _ _ rest ih =>
    rcases List.append_eq_cons_iff.mp hu with ⟨rfl, hlast⟩ | ⟨t', rfl, ht'⟩
    · obtain ⟨rfl, -⟩ := List.cons.inj hlast
      rw [closer.isMark_opening] at hmark
      cases hmark
    · exact .opens (ih ht'.symm)
  | @closes _ _ closer _ _ rest ih =>
    rcases List.append_eq_cons_iff.mp hu with ⟨rfl, hlast⟩ | ⟨t', rfl, ht'⟩
    · obtain ⟨rfl, -⟩ := List.cons.inj hlast
      rw [closer.isMark_char] at hmark
      cases hmark
    · exact .closes (ih ht'.symm)

/-- Blanks at either end may go. -/
theorem trim (h : Passage s t lits s') : Passage s t.trim lits s' := by
  apply Text.trim_closed (Q := fun t => Passage s t lits s') _ _ h
  · intro c t hc
    exact of_cons_plain (Rule.not_mark_of_isBlank hc)
  · intro c t hc
    exact of_append_blank hc

end Passage

namespace Whole

variable {t u : Text} {lits lits' : List Text}

theorem nil : Whole [] [] := Passage.nil

theorem append (h : Whole t lits) (h' : Whole u lits') : Whole (t ++ u) (lits ++ lits') :=
  fun s => (h s).append (h' s)

theorem plain (h : ∀ c ∈ t, Rule.isMark c = false) : Whole t [] := by
  intro s
  induction t with
  | nil => exact .nil s
  | cons c t ih =>
    apply Passage.plain (h c List.mem_cons_self)
    exact ih fun d hd => h d (List.mem_cons_of_mem c hd)

theorem unmarked (h : t.all (!Rule.isMark ·) = true) : Whole t [] := plain (Rule.not_mark_of_all h)

theorem blank (h : ∀ c ∈ t, isBlank c = true) : Whole t [] :=
  plain fun c hc => Rule.not_mark_of_isBlank (h c hc)

theorem literal {body : Text} (h : Rule.LiteralBody body) :
    Whole (Text.literal body) [Text.literal body] := fun s => .literal h (.nil s)

/-- What closes all it opens may stand between brackets. -/
theorem between (closer : Closer) (h : Whole t lits) :
    Whole (closer.opening :: (t ++ [closer.char])) lits := by
  intro s
  have hclose : Passage (closer :: s) [closer.char] [] s := .closes (.nil s)
  have happend := (h (closer :: s)).append hclose
  rw [List.append_nil] at happend
  exact .opens happend

theorem trim (h : Whole t lits) : Whole t.trim lits := fun s => (h s).trim

theorem literals_nil (h : Whole [] lits) : lits = [] := (h []).literals_nil

end Whole

end Shorthand
