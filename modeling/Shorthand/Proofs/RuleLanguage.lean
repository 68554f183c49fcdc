import Shorthand.Lexeme

/-! The languages of the lexical rules. A lexeme that is read belongs to the language of its rule, and
only a quote that is never closed keeps a text from having a first lexeme. What a lexeme may contain
follows from its language, whatever text stands around it. -/
namespace Shorthand

namespace Rule

/-- What may stand between the quotes of a string literal: a backslash takes the next character along,
and no quote stands by itself. -/
inductive LiteralBody : Text → Prop where
  | nil : LiteralBody []
  | escaped (c : Char) {body : Text} (rest : LiteralBody body) : LiteralBody ('\\' :: c :: body)
  | plain {c : Char} {body : Text} (backslash : c ≠ '\\') (quote : c ≠ '"') (rest : LiteralBody body) :
      LiteralBody (c :: body)

def comparisons : List Text :=
  ["**".toList, "<=>".toList, "!~".toList, "=".toList, "==".toList, "=~".toList, "<".toList,
    "<<".toList, "<>".toList, "<=".toList, ">".toList, "><".toList, ">>".toList, ">=".toList]

def Matches : Rule → Text → Prop
  | space, w => w ≠ [] ∧ ∀ c ∈ w, isBlank c = true
  | comment, w => ∃ body, w = '#' :: body ∧ '\n' ∉ body
  | arrow, w => w = "->".toList
  | mapOpen, w => w = "\\h\x7b".toList
  | arrayOpen, w => w = "\\a[".toList
  | delimiter, w => ∃ c ∈ "()[]\x7b\x7d".toList, w = [c]
  | compare, w => w ∈ comparisons
  | increment, w => w = "++".toList
  | decrement, w => w = "--".toList
  | symbolRef, w => ∃ name, name ≠ [] ∧ w = '&' :: ':' :: name ∧ ∀ c ∈ name, isSymbolChar c = true
  | operator, w => ∃ c ∈ "!+-*/^&|".toList, w = [c] ∨ w = [c, '=']
  | string, w => ∃ body, w = '"' :: (body ++ ['"']) ∧ LiteralBody body
  | comma, w => w = [',']
  | atom, w => w ≠ [] ∧ ∀ c ∈ w, isAtomChar c = true
  | other, w => ∃ c, w = [c] ∧ isBlank c = false ∧ c ≠ '"'

/-- The first `n` characters of `t` are in the language `P`, unless `n` is zero. -/
def Takes (n : Nat) (P : Text → Prop) (t : Text) : Prop :=
  n = 0 ∨ ∃ w rest, t = w ++ rest ∧ w.length = n ∧ P w

/-- Taking what one language allows is taking what a wider one allows. -/
theorem Takes.mono {n : Nat} {P Q : Text → Prop} {t : Text} (h : Takes n P t) (hpq : ∀ w, P w → Q w) :
    Takes n Q t := by
  rcases h with h | ⟨w, rest, ht, hlen, hw⟩
  · exact .inl h
  · exact .inr ⟨w, rest, ht, hlen, hpq w hw⟩

/-- A word is taken whole or not at all. -/
theorem takes_wordLength (w t : Text) : Takes (wordLength w t) (· = w) t := by
  unfold wordLength
  split
  · rename_i h
    obtain ⟨rest, rfl⟩ := List.isPrefixOf_iff_prefix.mp h
    exact .inr ⟨w, rest, rfl, rfl, rfl⟩
  · exact .inl rfl

theorem takes_oneLength (p : Char → Bool) (t : Text) :
    Takes (oneLength p t) (fun w => ∃ c, p c = true ∧ w = [c]) t := by
  cases t with
  | nil => exact .inl rfl
  | cons c rest =>
    by_cases hc : p c = true
    · exact .inr ⟨[c], rest, rfl, by simp [oneLength, hc], c, hc, rfl⟩
    · exact .inl (by simp [oneLength, hc])

/-- A run is taken if it is not empty. -/
theorem takes_takeWhile (p : Char → Bool) (t : Text) :
    Takes (t.takeWhile p).length (fun w => w ≠ [] ∧ ∀ c ∈ w, p c = true) t := by
  by_cases h : t.takeWhile p = []
  · exact .inl (by rw [h]; rfl)
  · refine .inr ⟨_, t.dropWhile p, List.takeWhile_append_dropWhile.symm, rfl, h, ?_⟩
    intro c hc
    exact (List.all_takeWhile (p := p) (l := t) |> List.all_eq_true.mp) c hc

/-- What is taken as a comparison is one of the operators. -/
theorem takes_compareLength (t : Text) : Takes (compareLength t) (· ∈ comparisons) t := by
  have hsecond {c : Char} {p : Char → Bool} {rest : Text} (hone : [c] ∈ comparisons)
      (htwo : ∀ d, p d = true → [c, d] ∈ comparisons) :
      Takes (1 + oneLength p rest) (· ∈ comparisons) (c :: rest) := by
    rcases takes_oneLength p rest with h | ⟨w, rest, rfl, hlen, d, hd, rfl⟩
    · exact .inr ⟨[c], rest, rfl, by rw [h]; rfl, hone⟩
    · exact .inr ⟨[c, d], rest, rfl, by rw [← hlen]; rfl, htwo d hd⟩
  unfold compareLength
  split
  · exact .inr ⟨['*', '*'], _, rfl, rfl, by decide⟩
  · exact .inr ⟨['<', '=', '>'], _, rfl, rfl, by decide⟩
  · exact .inr ⟨['!', '~'], _, rfl, rfl, by decide⟩
  · apply hsecond (by decide)
    intro d hd
    simp only [Bool.or_eq_true, beq_iff_eq] at hd
    rcases hd with rfl | rfl <;> decide
  · split
    · rename_i hc
      rcases hc with rfl | rfl <;>
      · apply hsecond (by decide)
        intro d hd
        simp only [Bool.or_eq_true, beq_iff_eq] at hd
        rcases hd with (rfl | rfl) | rfl <;> decide
    · exact .inl rfl
  · exact .inl rfl

/-- An operator is one character, perhaps with an equals sign behind it. -/
theorem takes_operatorLength (t : Text) :
    Takes (operatorLength t) (fun w => ∃ c ∈ "!+-*/^&|".toList, w = [c] ∨ w = [c, '=']) t := by
  unfold operatorLength
  split
  · rename_i c rest
    split
    · rename_i hc
      rcases takes_oneLength (· == '=') rest with h | ⟨w, rest, rfl, hlen, d, hd, rfl⟩
      · exact .inr ⟨[c], rest, rfl, by rw [h]; rfl, c, hc, .inl rfl⟩
      · rw [beq_iff_eq] at hd
        exact .inr ⟨[c, d], rest, rfl, by rw [← hlen]; rfl, c, hc, .inr (by rw [hd])⟩
    · exact .inl rfl
  · exact .inl rfl

theorem closing?_cons {c : Char} (rest : Text) (backslash : c ≠ '\\') (quote : c ≠ '"') :
    closing? (c :: rest) = (closing? rest).map (· + 1) := by
  rw [closing?]
  · exact fun h _ => backslash h
  · exact fun _ _ h _ => backslash h
  · exact quote

/-- Induction along the search for the closing quote. -/
theorem closing?_induction {motive : Text → Prop} (t : Text) (nil : motive []) (last : motive ['\\'])
    (escaped : ∀ c rest, motive rest → motive ('\\' :: c :: rest)) (quote : ∀ rest, motive ('"' :: rest))
    (plain : ∀ c rest, c ≠ '\\' → c ≠ '"' → motive rest → motive (c :: rest)) : motive t := by
  induction t using closing?.induct with
  | case1 => exact nil
  | case2 => exact last
  | case3 c rest ih => exact escaped c rest ih
  | case4 rest => exact quote rest
  | case5 c rest hlast hescaped hquote ih =>
    have hbackslash : c ≠ '\\' := by
      intro hc
      cases rest with
      | nil => exact hlast hc rfl
      | cons d more => exact hescaped d more hc rfl
    exact plain c rest hbackslash hquote ih

/-- The quote that closes a literal stands behind a body without unescaped quotes. -/
theorem closing?_eq_some {t : Text} {n : Nat} (h : closing? t = some n) :
    ∃ body rest, t = body ++ '"' :: rest ∧ n = body.length + 1 ∧ LiteralBody body := by
  induction t using closing?_induction generalizing n with
  | nil | last => simp [closing?] at h
  | escaped c rest ih =>
    simp only [closing?, Option.map_eq_some_iff] at h
    obtain ⟨m, hm, rfl⟩ := h
    obtain ⟨body, rest, rfl, rfl, hb⟩ := ih hm
    exact ⟨'\\' :: c :: body, rest, rfl, by simp only [List.length_cons], .escaped c hb⟩
  | quote rest =>
    simp only [closing?, Option.some.injEq] at h
    exact ⟨[], rest, rfl, h.symm, .nil⟩
  | plain c rest hbackslash hquote ih =>
    rw [closing?_cons rest hbackslash hquote, Option.map_eq_some_iff] at h
    obtain ⟨m, hm, rfl⟩ := h
    obtain ⟨body, rest, rfl, rfl, hb⟩ := ih hm
    exact ⟨c :: body, rest, rfl, by simp only [List.length_cons], .plain hbackslash hquote hb⟩

/-- It is the first such quote. -/
theorem closing?_of_literalBody {body : Text} (h : LiteralBody body) (t : Text) :
    closing? (body ++ '"' :: t) = some (body.length + 1) := by
  induction h with
  | nil => simp [closing?]
  | escaped c _ ih =>
    rw [List.cons_append, List.cons_append, closing?, ih]
    rfl
  | plain backslash quote _ ih =>
    rw [List.cons_append, closing?_cons _ backslash quote, ih]
    rfl

/-- So a literal is cut from what follows it in one way only. -/
theorem literalBody_append_inj {body body' t t' : Text} (hb : LiteralBody body) (hb' : LiteralBody body')
    (h : body ++ '"' :: t = body' ++ '"' :: t') : body = body' ∧ t = t' := by
  have hclosing := closing?_of_literalBody hb t
  rw [h, closing?_of_literalBody hb' t'] at hclosing
  have hlen : body.length = body'.length := by
    have := Option.some.inj hclosing
    omega
  obtain ⟨rfl, htail⟩ := List.append_inj h hlen
  exact ⟨rfl, (List.cons.inj htail).2⟩

theorem takes_comment (t : Text) : Takes (comment.length t) comment.Matches t := by
  cases t with
  | nil => exact .inl rfl
  | cons c rest =>
    by_cases hc : c = '#'
    · subst hc
      have hlen : comment.length ('#' :: rest) = 1 + (rest.takeWhile (· ≠ '\n')).length := rfl
      refine .inr ⟨'#' :: rest.takeWhile (· ≠ '\n'), rest.dropWhile (· ≠ '\n'), ?_, ?_, _, rfl, ?_⟩
      · rw [List.cons_append, List.takeWhile_append_dropWhile]
      · rw [hlen, List.length_cons, Nat.add_comm]
      · intro hmem
        simpa using List.all_eq_true.mp List.all_takeWhile _ hmem
    · exact .inl (by simp [length, hc])

theorem takes_symbolRef (t : Text) : Takes (symbolRef.length t) symbolRef.Matches t := by
  unfold length
  split <;> try contradiction
  · rename_i rest _
    rcases takes_takeWhile isSymbolChar rest with h | ⟨w, rest', rfl, hlen, hne, hw⟩
    · exact .inl (by rw [h])
    · refine .inr ⟨'&' :: ':' :: w, rest', rfl, ?_, w, hne, rfl, hw⟩
      rw [← hlen]
      cases w with
      | nil => exact absurd rfl hne
      | cons d w => rfl
  · exact .inl rfl

theorem takes_string (t : Text) : Takes (string.length t) string.Matches t := by
  unfold length
  split <;> try contradiction
  · rename_i rest _
    cases hc : closing? rest with
    | none => exact .inl rfl
    | some n =>
      obtain ⟨body, rest', rfl, rfl, hb⟩ := closing?_eq_some hc
      refine .inr ⟨'"' :: (body ++ ['"']), rest', by simp, by simp, body, rfl, hb⟩
  · exact .inl rfl

/-- What a rule takes it matches. -/
theorem takes_length (rule : Rule) (t : Text) : Takes (rule.length t) rule.Matches t := by
  cases rule with
  | space => exact takes_takeWhile isBlank t
  | comment => exact takes_comment t
  | arrow | mapOpen | arrayOpen | increment | decrement => exact takes_wordLength _ t
  | compare => exact takes_compareLength t
  | symbolRef => exact takes_symbolRef t
  | operator => exact takes_operatorLength t
  | string => exact takes_string t
  | atom => exact takes_takeWhile isAtomChar t
  | delimiter =>
    apply (takes_oneLength _ t).mono
    intro w hw
    obtain ⟨c, hc, rfl⟩ := hw
    exact ⟨c, of_decide_eq_true hc, rfl⟩
  | comma =>
    apply (takes_oneLength _ t).mono
    intro w hw
    obtain ⟨c, hc, rfl⟩ := hw
    rw [beq_iff_eq.mp hc]
    rfl
  | other =>
    apply (takes_oneLength _ t).mono
    intro w hw
    obtain ⟨c, hc, rfl⟩ := hw
    simp only [Bool.and_eq_true, Bool.not_eq_true', bne_iff_ne, ne_eq] at hc
    exact ⟨c, rfl, hc⟩

/-- The rules whose lexemes hold no quote, no number sign and no bracket. -/
def isOrdinary : Rule → Bool
  | comment | string | delimiter | mapOpen | arrayOpen => false
  | _ => true

/-- A character that begins or ends a literal, a comment or a group. -/
def isMark (c : Char) : Bool := c ∈ "\"#()[]\x7b\x7d".toList

theorem not_mark_of_all {w : Text} (h : w.all (!isMark ·) = true) : ∀ c ∈ w, isMark c = false := by
  intro c hc
  simpa using List.all_eq_true.mp h c hc

theorem not_blank_of_all {w : Text} (h : w.all (!isBlank ·) = true) : ∀ c ∈ w, isBlank c = false := by
  intro c hc
  simpa using List.all_eq_true.mp h c hc

/-- A class of characters without the eight marks has no mark. -/
theorem not_mark_of_none {p : Char → Bool} {c : Char} (h : "\"#()[]\x7b\x7d".toList.all (!p ·) = true)
    (hc : p c = true) : isMark c = false := by
  cases hm : isMark c with
  | false => rfl
  | true =>
    have hp := List.all_eq_true.mp h c (of_decide_eq_true hm)
    rw [hc] at hp
    cases hp

theorem not_mark_of_isBlank {c : Char} (h : isBlank c = true) : isMark c = false :=
  not_mark_of_none (by decide) h

theorem not_mark_of_isAtomChar {c : Char} (h : isAtomChar c = true) : isMark c = false :=
  not_mark_of_none (by decide) h

def blankCodes : List Nat :=
  List.range' 0x09 5 ++ List.range' 0x1C 5 ++ [0x85, 0xA0, 0x1680] ++ List.range' 0x2000 11 ++
    [0x2028, 0x2029, 0x202F, 0x205F, 0x3000]

theorem toNat_mem_blankCodes {c : Char} (h : isBlank c = true) : c.toNat ∈ blankCodes := by
  simp only [isBlank, Bool.or_eq_true, Bool.and_eq_true, decide_eq_true_eq, beq_iff_eq] at h
  simp only [blankCodes, List.mem_append, List.mem_range'_1, List.mem_cons, List.not_mem_nil]
  omega

theorem not_blank_of_isAtomChar {c : Char} (h : isAtomChar c = true) : isBlank c = false := by
  have hblanks : ∀ n ∈ blankCodes, isAtomChar (Char.ofNat n) = false := by decide +kernel
  cases hb : isBlank c with
  | false => rfl
  | true =>
    have hatom := hblanks _ (toNat_mem_blankCodes hb)
    rw [Char.ofNat_toNat, h] at hatom
    cases hatom

/-- A text of the characters that atoms and commas are made of. -/
def IsName (w : Text) : Prop := ∀ c ∈ w, isAtomChar c = true ∨ c = ','

theorem IsName.not_blank {w : Text} (h : IsName w) : ∀ c ∈ w, isBlank c = false := by
  intro c hc
  rcases h c hc with hatom | rfl
  · exact not_blank_of_isAtomChar hatom
  · rfl

theorem IsName.not_mark {w : Text} (h : IsName w) : ∀ c ∈ w, isMark c = false := by
  intro c hc
  rcases h c hc with hatom | rfl
  · exact not_mark_of_isAtomChar hatom
  · rfl

/-- A name may stand between quotes as it is. -/
theorem IsName.literalBody {w : Text} (h : IsName w) : LiteralBody w := by
  induction w with
  | nil => exact .nil
  | cons c w ih =>
    have hplain : c ≠ '\\' ∧ c ≠ '"' := by
      rcases h c List.mem_cons_self with hatom | rfl
      · constructor <;>
        · intro hc
          subst hc
          cases hatom
      · decide
    have hrest : LiteralBody w := ih fun d hd => h d (List.mem_cons_of_mem c hd)
    exact .plain hplain.1 hplain.2 hrest

theorem isAtomChar_of_isSymbolChar {c : Char} (h : isSymbolChar c = true) : isAtomChar c = true := by
  simp only [isAtomChar, h, Bool.true_or]

/-- Of the ordinary rules only the last could match a mark, and it is tried behind those that do. -/
theorem Matches.not_mark {rule : Rule} {w : Text} (hm : rule.Matches w) (ho : rule.isOrdinary = true)
    (hlast : rule ≠ other) : ∀ c ∈ w, isMark c = false := by
  cases rule with
  | space => exact fun c hc => not_mark_of_isBlank (hm.2 c hc)
  | atom => exact fun c hc => not_mark_of_isAtomChar (hm.2 c hc)
  | symbolRef =>
    obtain ⟨name, -, rfl, hname⟩ := hm
    intro c hc
    rcases List.mem_cons.mp hc with rfl | hc
    · rfl
    · rcases List.mem_cons.mp hc with rfl | hc
      · rfl
      · exact not_mark_of_isAtomChar (isAtomChar_of_isSymbolChar (hname c hc))
  | operator =>
    have hops : ∀ c ∈ "!+-*/^&|".toList, isMark c = false := not_mark_of_all (by decide)
    obtain ⟨c, hc, rfl | rfl⟩ := hm
    · simpa using hops c hc
    · simpa using ⟨hops c hc, rfl⟩
  | compare =>
    have hwords : comparisons.all (·.all (!isMark ·)) = true := by decide
    exact not_mark_of_all (List.all_eq_true.mp hwords w hm)
  | arrow | increment | decrement | comma =>
    obtain rfl := hm
    exact not_mark_of_all (by decide)
  | other => exact absurd rfl hlast
  | comment | string | delimiter | mapOpen | arrayOpen => cases ho

end Rule

end Shorthand
