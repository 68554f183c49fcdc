import Shorthand.Proofs.Passage
import Shorthand.Proofs.Segmentation

/-! The longest match. What a rule takes of a text is the longest prefix in its language, so the first
lexeme depends on the prefixes of a text and on nothing else (`Lexeme.read?_eq_some_iff`). A token is read
alike whatever follows it, if only a blank, a closer or the end cuts the text off
(`Lexeme.read?_severed`). -/
namespace Shorthand

namespace Rule

theorem length_le_takeWhile {p : Char → Bool} {w t : Text} (hw : ∀ c ∈ w, p c = true) (hp : w <+: t) :
    w.length ≤ (t.takeWhile p).length := by
  obtain ⟨rest, rfl⟩ := hp
  rw [List.takeWhile_append_of_pos hw, List.length_append]
  exact Nat.le_add_right _ _

theorem wordLength_of_starts {w t : Text} (hp : w <+: t) : wordLength w t = w.length :=
  if_pos (List.isPrefixOf_iff_prefix.mpr hp)

theorem one_le_oneLength (p : Char → Bool) {c : Char} (hc : p c = true) (t : Text) :
    1 ≤ oneLength p (c :: t) := Nat.le_of_eq (if_pos hc).symm

theorem le_compareLength_angle {c : Char} (hc : c = '<' ∨ c = '>') (t : Text) :
    1 + oneLength (fun d => d == '<' || d == '>' || d == '=') t ≤ compareLength (c :: t) := by
  rcases hc with rfl | rfl
  · -- Only `<=>` is longer than an angle with one sign behind it.
    by_cases hlong : ['=', '>'] <+: t
    · obtain ⟨rest, rfl⟩ := hlong
      exact Nat.le_succ 2
    · apply Nat.le_of_eq
      rw [compareLength]
      · rfl
      · exact nofun
      · intro rest _ ht
        exact hlong ⟨rest, ht.symm⟩
      · exact nofun
      · exact nofun
  · exact Nat.le_refl _

/-- No comparison operator that a text starts with is longer than the one that is taken. -/
theorem length_le_compareLength {w t : Text} (hm : w ∈ comparisons) (hp : w <+: t) :
    w.length ≤ compareLength t := by
  obtain ⟨rest, rfl⟩ := hp
  have hone {c : Char} (hc : c = '<' ∨ c = '>') : 1 ≤ compareLength (c :: rest) :=
    Nat.le_trans (Nat.le_add_right 1 _) (le_compareLength_angle hc rest)
  have htwo {c d : Char} (hc : c = '<' ∨ c = '>') (hd : (d == '<' || d == '>' || d == '=') = true) :
      2 ≤ compareLength (c :: d :: rest) := by
    have hle := le_compareLength_angle hc (d :: rest)
    have hsecond := one_le_oneLength (fun d => d == '<' || d == '>' || d == '=') hd rest
    omega
  simp only [comparisons, List.mem_cons, List.not_mem_nil, or_false] at hm
  rcases hm with rfl | rfl | rfl | rfl | rfl | rfl | rfl | rfl | rfl | rfl | rfl | rfl | rfl | rfl
  · exact Nat.le_refl 2
  · exact Nat.le_refl 3
  · exact Nat.le_refl 2
  · exact Nat.le_add_right 1 _
  · exact Nat.le_refl 2
  · exact Nat.le_refl 2
  · exact hone (.inl rfl)
  · exact htwo (.inl rfl) rfl
  · exact htwo (.inl rfl) rfl
  · exact htwo (.inl rfl) rfl
  · exact hone (.inr rfl)
  · exact htwo (.inr rfl) rfl
  · exact htwo (.inr rfl) rfl
  · exact htwo (.inr rfl) rfl

/-- No rule matches the empty text. -/
theorem Matches.ne_nil {rule : Rule} {w : Text} (hm : rule.Matches w) : w ≠ [] := by
  rintro rfl
  cases rule with
  | space | atom => exact hm.1 rfl
  | comment | delimiter | symbolRef | string | other => simp [Matches] at hm
  | arrow | mapOpen | arrayOpen | increment | decrement | comma => cases hm
  | compare =>
    have hall : ∀ w ∈ comparisons, w ≠ [] := by decide
    exact hall [] hm rfl
  | operator =>
    obtain ⟨c, -, h | h⟩ := hm <;> cases h

/-- No match of a rule is longer than the one that is taken. -/
theorem Matches.length_le {rule : Rule} {w t : Text} (hm : rule.Matches w) (hp : w <+: t) :
    w.length ≤ rule.length t := by
  cases rule with
  | space | atom => exact length_le_takeWhile hm.2 hp
  | arrow | mapOpen | arrayOpen | increment | decrement =>
    obtain rfl : w = _ := hm
    exact Nat.le_of_eq (wordLength_of_starts hp).symm
  | compare => exact length_le_compareLength hm hp
  | comment =>
    obtain ⟨body, rfl, hline⟩ := hm
    obtain ⟨rest, rfl⟩ := hp
    have hbody : body.length ≤ ((body ++ rest).takeWhile (· ≠ '\n')).length := by
      apply length_le_takeWhile _ (List.prefix_append body rest)
      intro c hc
      exact decide_eq_true fun h => hline (h ▸ hc)
    change body.length + 1 ≤ 1 + ((body ++ rest).takeWhile (· ≠ '\n')).length
    omega
  | delimiter =>
    obtain ⟨c, hc, rfl⟩ := hm
    obtain ⟨rest, rfl⟩ := hp
    simp only [length, List.singleton_append]
    exact one_le_oneLength _ (decide_eq_true hc) rest
  | comma =>
    obtain rfl : w = [','] := hm
    obtain ⟨rest, rfl⟩ := hp
    exact Nat.le_refl 1
  | other =>
    obtain ⟨c, rfl, hblank, hquote⟩ := hm
    obtain ⟨rest, rfl⟩ := hp
    have hc : (!isBlank c && c != '"') = true := by simp [hblank, hquote]
    simp only [length, List.singleton_append]
    exact one_le_oneLength _ hc rest
  | symbolRef =>
    obtain ⟨name, hne, rfl, hname⟩ := hm
    obtain ⟨rest, rfl⟩ := hp
    have hle := length_le_takeWhile hname (List.prefix_append name rest)
    have hpos := List.length_pos_iff.mpr hne
    simp only [List.cons_append, length, List.length_cons]
    split <;> omega
  | operator =>
    obtain ⟨c, hc, hw⟩ := hm
    obtain ⟨rest, rfl⟩ := hp
    rcases hw with rfl | rfl <;>
      simp only [length, operatorLength, List.cons_append, List.nil_append, if_pos hc]
    · exact Nat.le_add_right 1 _
    · exact Nat.le_refl 2
  | string =>
    obtain ⟨body, rfl, hbody⟩ := hm
    obtain ⟨rest, rfl⟩ := hp
    have htext : '"' :: (body ++ ['"']) ++ rest = '"' :: (body ++ '"' :: rest) := by simp
    rw [htext]
    simp only [length, closing?_of_literalBody hbody]
    simp

/-- A rule takes nothing exactly if it matches no prefix. -/
theorem length_eq_zero_iff {rule : Rule} {t : Text} :
    rule.length t = 0 ↔ ∀ w, w <+: t → ¬ rule.Matches w := by
  constructor
  · intro hzero w hp hm
    have hle := hm.length_le hp
    have hpos := List.length_pos_iff.mpr hm.ne_nil
    omega
  · intro h
    rcases takes_length rule t with hzero | ⟨w, rest, rfl, -, hm⟩
    · exact hzero
    · exact absurd hm (h w (List.prefix_append w rest))

/-- A text starts with one string literal at most. -/
theorem eq_of_prefix_string {w w' t : Text} (hm : string.Matches w) (hm' : string.Matches w')
    (hp : w <+: t) (hp' : w' <+: t) : w = w' := by
  obtain ⟨body, rfl, hbody⟩ := hm
  obtain ⟨body', rfl, hbody'⟩ := hm'
  obtain ⟨rest, rfl⟩ := hp
  obtain ⟨rest', hrest⟩ := hp'
  simp only [List.cons_append, List.append_assoc, List.nil_append, List.cons.injEq, true_and] at hrest
  -- A literal ends at its first closing quote, so no literal continues another.
  rw [(literalBody_append_inj hbody' hbody hrest).1]

theorem not_matches_quote {rule : Rule} (h : string ∈ ordered.takeWhile (· ≠ rule)) (w : Text) :
    ¬ rule.Matches ('"' :: w) := by
  intro hm
  have hlater : rule = comma ∨ rule = atom ∨ rule = other := by
    revert h
    cases rule <;> decide
  rcases hlater with rfl | rfl | rfl
  · cases hm
  · have hatom : isAtomChar '"' = true := hm.2 '"' List.mem_cons_self
    exact absurd hatom (by decide)
  · obtain ⟨c, hc, -, hquote⟩ := hm
    exact hquote (List.cons.inj hc).1.symm

/-- Of the rules only three match a text with a blank in it. -/
theorem Matches.not_blank {rule : Rule} {w : Text} (hm : rule.Matches w) (hspace : rule ≠ space)
    (hcomment : rule ≠ comment) (hstring : rule ≠ string) : ∀ c ∈ w, isBlank c = false := by
  cases rule with
  | space => exact absurd rfl hspace
  | comment => exact absurd rfl hcomment
  | string => exact absurd rfl hstring
  | arrow | mapOpen | arrayOpen | increment | decrement | comma =>
    obtain rfl : w = _ := hm
    exact not_blank_of_all (by decide)
  | delimiter =>
    have hall : ∀ c ∈ "()[]\x7b\x7d".toList, isBlank c = false := not_blank_of_all (by decide)
    obtain ⟨c, hc, rfl⟩ := hm
    simpa using hall c hc
  | compare =>
    have hwords : comparisons.all (·.all (!isBlank ·)) = true := by decide
    exact not_blank_of_all (List.all_eq_true.mp hwords w hm)
  | operator =>
    have hall : ∀ c ∈ "!+-*/^&|".toList, isBlank c = false := not_blank_of_all (by decide)
    obtain ⟨c, hc, rfl | rfl⟩ := hm
    · simpa using hall c hc
    · simpa using ⟨hall c hc, rfl⟩
  | atom => exact fun c hc => not_blank_of_isAtomChar (hm.2 c hc)
  | symbolRef =>
    obtain ⟨name, -, rfl, hname⟩ := hm
    simp only [List.forall_mem_cons]
    exact ⟨rfl, rfl, fun c hc => not_blank_of_isAtomChar (isAtomChar_of_isSymbolChar (hname c hc))⟩
  | other =>
    obtain ⟨c, rfl, hblank, -⟩ := hm
    simpa using hblank

end Rule

/-- A character that ends whatever word stands in front of it: a blank, or that of a closer. -/
def Severs (c : Char) : Prop := isBlank c = true ∨ ∃ closer : Closer, c = closer.char

/-- Apart from blanks, comments and literals, only a word of one character holds one that severs. -/
theorem Rule.Matches.single_or_solid {rule : Rule} {w : Text} (hm : rule.Matches w) (hspace : rule ≠ space)
    (hcomment : rule ≠ comment) (hstring : rule ≠ string) : w.length = 1 ∨ ∀ c ∈ w, ¬ Severs c := by
  have hblank := hm.not_blank hspace hcomment hstring
  have hsolid (hcloser : ∀ c ∈ w, ∀ closer : Closer, c ≠ closer.char) : ∀ c ∈ w, ¬ Severs c := by
    rintro c hc (hb | ⟨closer, hclosing⟩)
    · rw [hblank c hc] at hb
      cases hb
    · exact hcloser c hc closer hclosing
  cases rule with
  | delimiter =>
    obtain ⟨c, -, rfl⟩ := hm
    exact .inl rfl
  | other =>
    obtain ⟨c, rfl, -⟩ := hm
    exact .inl rfl
  | mapOpen | arrayOpen =>
    obtain rfl : w = _ := hm
    refine .inr (hsolid ?_)
    rintro c hc closer rfl
    cases closer <;> exact absurd hc (by decide)
  | space => exact absurd rfl hspace
  | comment => exact absurd rfl hcomment
  | string => exact absurd rfl hstring
  | arrow | compare | increment | decrement | symbolRef | operator | comma | atom =>
    refine .inr (hsolid ?_)
    rintro c hc closer rfl
    have hmark := hm.not_mark rfl (by decide) _ hc
    rw [closer.isMark_char] at hmark
    cases hmark

namespace Lexeme

/-- The first lexeme of a text is the longest prefix in the language of its rule, and no rule tried before
matches any prefix. -/
theorem read?_eq_some_iff {t : Text} {l : Lexeme} :
    read? t = some l ↔ l.text <+: t ∧ l.rule.Matches l.text ∧
      (∀ w, w <+: t → l.rule.Matches w → w.length ≤ l.text.length) ∧
      ∀ rule ∈ Rule.ordered.takeWhile (· ≠ l.rule), ∀ w, w <+: t → ¬ rule.Matches w := by
  constructor
  · intro h
    obtain ⟨rest, ht, hlen, hm⟩ := exists_rest h
    obtain ⟨-, -, hearlier⟩ := read?_eq_some h
    refine ⟨⟨rest, ht.symm⟩, hm, ?_, ?_⟩
    · intro w hp hw
      rw [hlen]
      exact hw.length_le hp
    · intro rule hrule
      exact Rule.length_eq_zero_iff.mp (hearlier rule hrule)
  · rintro ⟨hp, hm, hlongest, hearlier⟩
    have hle := hm.length_le hp
    have hlen : l.rule.length t = l.text.length := by
      rcases Rule.takes_length l.rule t with hzero | ⟨w, rest, rfl, hw, hmw⟩
      · have hpos := List.length_pos_iff.mpr hm.ne_nil
        omega
      · have hwle := hlongest w (List.prefix_append w rest) hmw
        omega
    have hord : Rule.ordered = Rule.ordered.takeWhile (· ≠ l.rule) ++
        l.rule :: (Rule.ordered.dropWhile (· ≠ l.rule)).tail := by
      cases l.rule <;> rfl
    refine List.findSome?_eq_some_iff.mpr ⟨_, l.rule, _, hord, ?_, ?_⟩
    · have hpos := List.length_pos_iff.mpr hm.ne_nil
      rw [hlen, if_pos hpos, ← List.prefix_iff_eq_take.mp hp]
    · intro rule hrule
      rw [Rule.length_eq_zero_iff.mpr (hearlier rule hrule)]
      rfl

/-- A lexeme is read from every text that starts with it and on which no earlier rule, nor its own, matches
more. -/
theorem read?_of_agree {t t' : Text} {l : Lexeme} (h : read? t = some l) (hp : l.text <+: t')
    (agree : ∀ rule, rule = l.rule ∨ rule ∈ Rule.ordered.takeWhile (· ≠ l.rule) →
      ∀ w, rule.Matches w → w <+: t' → w <+: t) : read? t' = some l := by
  obtain ⟨-, hm, hlongest, hearlier⟩ := read?_eq_some_iff.mp h
  -- What makes `l` the first lexeme speaks about prefixes only, and about those that a rule up to its own
  -- matches.
  refine read?_eq_some_iff.mpr ⟨hp, hm, ?_, ?_⟩
  · intro w hw hmw
    exact hlongest w (agree l.rule (.inl rfl) w hmw hw) hmw
  · intro rule hrule w hw hmw
    exact hearlier rule hrule w (agree rule (.inr hrule) w hmw hw) hmw

/-- A match does not reach beyond a character that it cannot hold. -/
theorem prefix_of_cut {p : Char → Prop} {w shared rest : Text} (hp : w <+: shared ++ rest)
    (hw : ∀ c ∈ w, ¬ p c) (hcut : ∀ c ∈ rest.head?, p c) : w <+: shared := by
  rcases List.prefix_or_prefix_of_prefix hp (List.prefix_append shared rest) with h | ⟨more, rfl⟩
  · exact h
  · cases more with
    | nil => exact ⟨[], by simp⟩
    | cons c more =>
      obtain ⟨behind, hrest⟩ := (List.prefix_append_right_inj shared).mp hp
      have hc : p c := hcut c (by rw [← hrest]; rfl)
      exact absurd hc (hw c (by simp))

/-- A token is read again from a text that agrees with the first one up to a blank, a closer or the end. -/
theorem read?_severed {l : Lexeme} {kind : TokenKind} {shared rest rest' : Text}
    (h : read? (l.text ++ (shared ++ rest)) = some l) (shown : l.kind? = some kind)
    (hcut : ∀ c ∈ rest'.head?, Severs c) : read? (l.text ++ (shared ++ rest')) = some l := by
  obtain ⟨hs, hc⟩ := solid_of_kind? shown
  obtain ⟨-, hm, -, hearlier⟩ := read?_eq_some_iff.mp h
  obtain ⟨c, tail, htext⟩ := List.exists_cons_of_ne_nil hm.ne_nil
  have hhead : [c] <+: l.text ++ (shared ++ rest) := ⟨tail ++ (shared ++ rest), by rw [htext]; rfl⟩
  apply read?_of_agree h (List.prefix_append _ _)
  intro rule hrule w hmw hw
  -- A word that nothing in it severs ends in front of the cut. The others are known by their first character.
  have hfirst {d : Char} {body : Text} (hd : w = d :: body) : d = c := by
    rw [hd, htext] at hw
    exact (List.cons_prefix_cons.mp hw).1
  by_cases hspace : rule = .space
  · -- Blanks come first, so a text that starts with one has no token there.
    subst hspace
    obtain ⟨d, body, hd⟩ := List.exists_cons_of_ne_nil hmw.ne_nil
    have hblank : isBlank c = true := by
      rw [← hfirst hd]
      exact hmw.2 d (by rw [hd]; exact List.mem_cons_self)
    have hmatch : Rule.space.Matches [c] := ⟨List.cons_ne_nil c [], by simpa using hblank⟩
    exact absurd hmatch (hearlier .space (hrule.resolve_left hs.symm) [c] hhead)
  by_cases hcomment : rule = .comment
  · -- The same holds of a comment, whatever its length.
    subst hcomment
    obtain ⟨body, hd, -⟩ := hmw
    have hmatch : Rule.comment.Matches [c] := ⟨[], by rw [hfirst hd], List.not_mem_nil⟩
    exact absurd hmatch (hearlier .comment (hrule.resolve_left hc.symm) [c] hhead)
  by_cases hstring : rule = .string
  · subst hstring
    rcases hrule with hl | hlater
    · rw [← hl] at hm
      rw [Rule.eq_of_prefix_string hmw hm hw (List.prefix_append _ _)]
      exact List.prefix_append _ _
    · obtain ⟨body, hd, -⟩ := hmw
      rw [htext, ← hfirst hd] at hm
      exact absurd hm (Rule.not_matches_quote hlater _)
  · rcases hmw.single_or_solid hspace hcomment hstring with hsingle | hsolid
    · -- A single character is the first of the token, whatever it is.
      have hlength : w.length ≤ l.text.length := by
        rw [hsingle]
        exact List.length_pos_iff.mpr hm.ne_nil
      have hl : w <+: l.text := List.prefix_of_prefix_length_le hw (List.prefix_append _ _) hlength
      exact hl.trans (List.prefix_append _ _)
    · rw [← List.append_assoc] at hw
      obtain ⟨more, hmore⟩ := prefix_of_cut hw hsolid hcut
      rw [← List.append_assoc, ← hmore, List.append_assoc]
      exact List.prefix_append _ _

/-- A token is read again from a text that agrees with the first one up to a blank or the end. -/
theorem read?_cut {l : Lexeme} {kind : TokenKind} {shared rest rest' : Text}
    (h : read? (l.text ++ (shared ++ rest)) = some l) (shown : l.kind? = some kind)
    (hcut : ∀ c ∈ rest'.head?, isBlank c = true) : read? (l.text ++ (shared ++ rest')) = some l :=
  read?_severed h shown fun c hc => .inl (hcut c hc)

end Lexeme

end Shorthand
