import Mathlib.Computability.Language
import Mathlib.Data.List.Forall2
import Mathlib.Data.List.TakeWhile
import Shorthand.Proofs.LongestMatch
import Shorthand.Proofs.Spelling

/-! The grammar of lexemes. Each rule has a regular language, and the rules are ordered. A scan takes, step
by step, the longest prefix in the language of the first rule that matches one, and it emits the token
of that rule; it stops only at the end of the text or at a quote with no unescaped quote behind it. Main
statement: `Scan.tokenize_grammar`. -/
namespace Shorthand

open scoped Computability

def oneOf (p : Char → Prop) : Language Char := {w | ∃ c, p c ∧ w = [c]}

def exactly (w : Text) : Language Char := {w}

/-- The texts of one or more characters that satisfy `p`. -/
def someOf (p : Char → Prop) : Language Char := oneOf p * (oneOf p)∗

/-- The texts of at most one character, which satisfies `p`. -/
def atMostOne (p : Char → Prop) : Language Char := 1 + oneOf p

/-- What may stand between the quotes of a string literal. -/
def literalBodies : Language Char :=
  (exactly ['\\'] * oneOf (fun _ => True) + oneOf (fun c => c ≠ '\\' ∧ c ≠ '"'))∗

namespace Rule

def language : Rule → Language Char
  | space => someOf (isBlank ·)
  | comment => exactly ['#'] * (oneOf (· ≠ '\n'))∗
  | arrow => exactly "->".toList
  | mapOpen => exactly "\\h\x7b".toList
  | arrayOpen => exactly "\\a[".toList
  | delimiter => oneOf (· ∈ "()[]\x7b\x7d".toList)
  | compare =>
    exactly "**".toList + exactly "<=>".toList +
      oneOf (· ∈ "<>".toList) * atMostOne (· ∈ "<>=".toList) + exactly "!~".toList +
      oneOf (· = '=') * atMostOne (· ∈ "=~".toList)
  | increment => exactly "++".toList
  | decrement => exactly "--".toList
  | symbolRef => exactly "&:".toList * someOf (fun c => isWordChar c ∨ c ∈ ".?!".toList)
  | operator => oneOf (· ∈ "!+-*/^&|".toList) * atMostOne (· = '=')
  | string => exactly ['"'] * literalBodies * exactly ['"']
  | comma => exactly [',']
  | atom => someOf (fun c => isWordChar c ∨ c ∈ ".?!&:@$".toList)
  | other => oneOf (fun c => ¬ isBlank c ∧ c ≠ '"')

theorem mem_oneOf {p : Char → Prop} {w : Text} : w ∈ oneOf p ↔ ∃ c, p c ∧ w = [c] := Iff.rfl

theorem mem_exactly {v w : Text} : w ∈ exactly v ↔ w = v := Iff.rfl

/-- The star of single characters holds the texts of such characters. -/
theorem mem_kstar_oneOf {p : Char → Prop} {w : Text} : w ∈ (oneOf p)∗ ↔ ∀ c ∈ w, p c := by
  rw [Language.mem_kstar]
  constructor
  · rintro ⟨pieces, rfl, hpieces⟩ c hc
    obtain ⟨piece, hmem, hc⟩ := List.mem_flatten.mp hc
    obtain ⟨d, hd, rfl⟩ := hpieces piece hmem
    rw [List.mem_singleton.mp hc]
    exact hd
  · intro h
    refine ⟨w.map ([·]), ?_, ?_⟩
    · induction w with
      | nil => rfl
      | cons c w ih => simpa using ih fun d hd => h d (List.mem_cons_of_mem c hd)
    · intro piece hmem
      obtain ⟨c, hc, rfl⟩ := List.mem_map.mp hmem
      exact ⟨c, h c hc, rfl⟩

theorem mem_someOf {p : Char → Prop} {w : Text} : w ∈ someOf p ↔ w ≠ [] ∧ ∀ c ∈ w, p c := by
  rw [someOf, Language.mem_mul]
  constructor
  · rintro ⟨a, ⟨c, hc, rfl⟩, b, hb, rfl⟩
    refine ⟨List.cons_ne_nil c b, ?_⟩
    exact List.forall_mem_cons.mpr ⟨hc, mem_kstar_oneOf.mp hb⟩
  · rintro ⟨hne, h⟩
    obtain ⟨c, b, rfl⟩ := List.exists_cons_of_ne_nil hne
    obtain ⟨hc, hb⟩ := List.forall_mem_cons.mp h
    exact ⟨[c], ⟨c, hc, rfl⟩, b, mem_kstar_oneOf.mpr hb, rfl⟩

/-- The language of literal bodies is that of the scanner. -/
theorem mem_literalBodies {w : Text} : w ∈ literalBodies ↔ LiteralBody w := by
  rw [literalBodies, Language.mem_kstar]
  constructor
  · rintro ⟨pieces, rfl, hpieces⟩
    induction pieces with
    | nil => exact .nil
    | cons piece pieces ih =>
      obtain ⟨hpiece, hrest⟩ := List.forall_mem_cons.mp hpieces
      rw [List.flatten_cons]
      rcases (Language.mem_add _ _ _).mp hpiece with hescape | ⟨c, ⟨hbackslash, hquote⟩, rfl⟩
      · obtain ⟨a, rfl, b, ⟨c, -, rfl⟩, rfl⟩ := Language.mem_mul.mp hescape
        exact .escaped c (ih hrest)
      · exact .plain hbackslash hquote (ih hrest)
  · intro h
    induction h with
    | nil => exact ⟨[], rfl, nofun⟩
    | @escaped c body _ ih =>
      obtain ⟨pieces, rfl, hpieces⟩ := ih
      refine ⟨['\\', c] :: pieces, rfl, List.forall_mem_cons.mpr ⟨.inl ?_, hpieces⟩⟩
      exact Language.mem_mul.mpr ⟨['\\'], rfl, [c], ⟨c, trivial, rfl⟩, rfl⟩
    | @plain c body backslash quote _ ih =>
      obtain ⟨pieces, rfl, hpieces⟩ := ih
      refine ⟨[c] :: pieces, rfl, List.forall_mem_cons.mpr ⟨.inr ?_, hpieces⟩⟩
      exact ⟨c, ⟨backslash, quote⟩, rfl⟩

theorem isSymbolChar_iff {c : Char} : isSymbolChar c = true ↔ isWordChar c ∨ c ∈ ".?!".toList := by
  simp [isSymbolChar, or_assoc]

theorem isAtomChar_iff {c : Char} : isAtomChar c = true ↔ isWordChar c ∨ c ∈ ".?!&:@$".toList := by
  simp [isAtomChar, isSymbolChar, or_assoc]

theorem mem_one_atMostOne {p q : Char → Prop} {w : Text} :
    w ∈ oneOf p * atMostOne q ↔ ∃ c, p c ∧ (w = [c] ∨ ∃ d, q d ∧ w = [c, d]) := by
  simp only [atMostOne, Language.mem_mul, mem_oneOf, Language.mem_add, Language.mem_one]
  constructor
  · rintro ⟨a, ⟨c, hc, rfl⟩, b, rfl | ⟨d, hd, rfl⟩, rfl⟩
    · exact ⟨c, hc, .inl rfl⟩
    · exact ⟨c, hc, .inr ⟨d, hd, rfl⟩⟩
  · rintro ⟨c, hc, rfl | ⟨d, hd, rfl⟩⟩
    · exact ⟨[c], ⟨c, hc, rfl⟩, [], .inl rfl, rfl⟩
    · exact ⟨[c], ⟨c, hc, rfl⟩, [d], .inr ⟨d, hd, rfl⟩, rfl⟩

/-- The comparison operators as a list and as a language. -/
theorem mem_comparisons_iff {w : Text} : w ∈ compare.language ↔ w ∈ comparisons := by
  simp only [language, Language.mem_add, mem_exactly, mem_one_atMostOne, exists_eq_left, comparisons,
    String.reduceToList, List.mem_cons, List.not_mem_nil, or_false, or_and_right, exists_or]
  simp only [or_assoc, or_comm, or_left_comm]

/-- The language of a rule is what the rule matches. -/
theorem mem_language_iff {rule : Rule} {w : Text} : w ∈ rule.language ↔ rule.Matches w := by
  cases rule with
  | space => exact mem_someOf
  | arrow | mapOpen | arrayOpen | increment | decrement | comma => exact mem_exactly
  | compare => exact mem_comparisons_iff
  | atom => simp only [language, mem_someOf, Matches, isAtomChar_iff]
  | delimiter => exact mem_oneOf
  | operator => simp only [language, mem_one_atMostOne, Matches, exists_eq_left]
  | comment =>
    simp only [language, Language.mem_mul, mem_exactly, exists_eq_left, mem_kstar_oneOf, Matches]
    constructor
    · rintro ⟨body, hbody, rfl⟩
      exact ⟨body, rfl, fun hline => hbody '\n' hline rfl⟩
    · rintro ⟨body, rfl, hline⟩
      exact ⟨body, fun c hc he => hline (he ▸ hc), rfl⟩
  | symbolRef =>
    simp only [language, Language.mem_mul, mem_exactly, exists_eq_left, mem_someOf, Matches,
      isSymbolChar_iff]
    constructor
    · rintro ⟨name, ⟨hne, hname⟩, rfl⟩
      exact ⟨name, hne, rfl, hname⟩
    · rintro ⟨name, hne, rfl, hname⟩
      exact ⟨name, ⟨hne, hname⟩, rfl⟩
  | string =>
    simp only [language, Language.mem_mul, mem_exactly, exists_eq_left, mem_literalBodies, Matches]
    constructor
    · rintro ⟨v, ⟨body, hbody, rfl⟩, rfl⟩
      exact ⟨body, rfl, hbody⟩
    · rintro ⟨body, rfl, hbody⟩
      exact ⟨_, ⟨body, hbody, rfl⟩, rfl⟩
  | other =>
    simp only [language, mem_oneOf, Matches]
    constructor
    · rintro ⟨c, ⟨hblank, hquote⟩, rfl⟩
      exact ⟨c, rfl, eq_false_of_ne_true hblank, hquote⟩
    · rintro ⟨c, rfl, hblank, hquote⟩
      exact ⟨c, ⟨ne_true_of_eq_false hblank, hquote⟩, rfl⟩

/-- The kind of token that a rule makes of a text; blanks and comments become none. -/
inductive Emits : Rule → Text → TokenKind → Prop where
  | arrow (w : Text) : Emits .arrow w .arrow
  | mapOpen (w : Text) : Emits .mapOpen w (.opener .map)
  | arrayOpen (w : Text) : Emits .arrayOpen w (.opener .array)
  | opening (g : Group) : Emits .delimiter g.opening (.opener g)
  | closing (c : Closer) : Emits .delimiter [c.char] (.closer c)
  | compare (w : Text) : Emits .compare w .operator
  | increment (w : Text) : Emits .increment w (.suffix .succ)
  | decrement (w : Text) : Emits .decrement w (.suffix .pred)
  | symbolRef (w : Text) : Emits .symbolRef w .atom
  | operator (w : Text) : Emits .operator w .operator
  | string (w : Text) : Emits .string w .string
  | comma (w : Text) : Emits .comma w .atom
  | atom (w : Text) : Emits .atom w .atom
  | other (w : Text) : Emits .other w .operator

/-- No prefix of a text is in the language of any rule. -/
def NoneMatches (t : Text) : Prop := ∀ (rule : Rule) (w : Text), w <+: t → w ∉ rule.language

end Rule

namespace Text

def backslashes (t : Text) : Nat := (t.reverse.takeWhile (· = '\\')).length

/-- Every quote of a text is escaped: an odd number of backslashes stands directly in front of it. -/
def AllEscaped (t : Text) : Prop :=
  ∀ before after, t = before ++ '"' :: after → before.backslashes % 2 = 1

theorem backslashes_cons_of_ne {c : Char} (h : c ≠ '\\') (t : Text) :
    backslashes (c :: t) = t.backslashes := by
  rw [backslashes, backslashes, List.reverse_cons]
  by_cases hall : ∀ d ∈ t.reverse, decide (d = '\\') = true
  · have hc : ¬ decide (c = '\\') = true := by simpa using h
    have hnone : [c].takeWhile (· = '\\') = [] := List.takeWhile_cons_of_neg hc
    rw [List.takeWhile_append_of_pos hall, hnone, List.append_nil,
      List.takeWhile_eq_self_iff.mpr hall]
  · push Not at hall
    obtain ⟨d, hmem, hd⟩ := hall
    rw [takeWhile_append_of_mem hmem (eq_false_of_ne_true hd)]

/-- A backslash with the character it escapes does not change whether the backslashes are odd. -/
theorem backslashes_pair_mod (c : Char) (t : Text) :
    backslashes ('\\' :: c :: t) % 2 = t.backslashes % 2 := by
  rw [backslashes, backslashes, List.reverse_cons, List.reverse_cons, List.append_assoc]
  by_cases hall : ∀ d ∈ t.reverse, decide (d = '\\') = true
  · -- The run is the whole text, and the pair lengthens it by two or does not reach it.
    rw [List.takeWhile_append_of_pos hall, List.takeWhile_eq_self_iff.mpr hall, List.length_append]
    by_cases hc : c = '\\'
    · have htwo : ([c] ++ ['\\']).takeWhile (· = '\\') = ['\\', '\\'] := by simp [hc]
      rw [htwo]
      exact Nat.add_mod_right _ 2
    · have hnone : ([c] ++ ['\\']).takeWhile (· = '\\') = [] := by simp [hc]
      rw [hnone]
      rfl
  · push Not at hall
    obtain ⟨d, hmem, hd⟩ := hall
    rw [takeWhile_append_of_mem hmem (eq_false_of_ne_true hd)]

theorem allEscaped_cons_iff {c : Char} {t : Text} (backslash : c ≠ '\\') (quote : c ≠ '"') :
    AllEscaped (c :: t) ↔ AllEscaped t := by
  constructor
  · intro h before after ht
    rw [← backslashes_cons_of_ne backslash]
    exact h (c :: before) after (by rw [ht, List.cons_append])
  · intro h before after ht
    rcases List.cons_eq_append_iff.mp ht with ⟨rfl, hq⟩ | ⟨before', rfl, hrest⟩
    · exact absurd (List.cons.inj hq).1.symm quote
    · rw [backslashes_cons_of_ne backslash]
      exact h before' after hrest

theorem allEscaped_pair_iff {c : Char} {t : Text} : AllEscaped ('\\' :: c :: t) ↔ AllEscaped t := by
  constructor
  · intro h before after ht
    rw [← backslashes_pair_mod c]
    exact h ('\\' :: c :: before) after (by rw [ht, List.cons_append, List.cons_append])
  · intro h before after ht
    rcases List.cons_eq_append_iff.mp ht with ⟨rfl, hq⟩ | ⟨before', rfl, hrest⟩
    · cases hq
    · rcases List.cons_eq_append_iff.mp hrest with ⟨rfl, -⟩ | ⟨before'', rfl, hrest'⟩
      · rfl
      · rw [backslashes_pair_mod]
        exact h before'' after hrest'

end Text

namespace Rule

/-- A literal is not closed exactly if every quote behind its first is escaped. -/
theorem closing?_eq_none_iff {t : Text} : closing? t = none ↔ t.AllEscaped := by
  induction t using closing?_induction with
  | nil => exact iff_of_true rfl (by simp [Text.AllEscaped])
  | last =>
    refine iff_of_true rfl ?_
    intro before after ht
    rcases List.cons_eq_append_iff.mp ht with ⟨rfl, hq⟩ | ⟨before', rfl, ht⟩
    · cases hq
    · simp at ht
  | escaped c rest ih => rw [closing?, Option.map_eq_none_iff, Text.allEscaped_pair_iff, ih]
  | quote rest =>
    refine iff_of_false (by simp [closing?]) ?_
    intro h
    cases h [] rest rfl
  | plain c rest hbackslash hquote ih =>
    rw [closing?_cons rest hbackslash hquote, Option.map_eq_none_iff, ih,
      Text.allEscaped_cons_iff hbackslash hquote]

/-- No rule matches exactly if no lexeme is read. -/
theorem noneMatches_iff_read? {t : Text} : NoneMatches t ↔ Lexeme.read? t = none := by
  rw [Lexeme.read?_eq_none]
  constructor
  · intro h rule
    refine length_eq_zero_iff.mpr fun w hw hm => ?_
    exact h rule w hw (mem_language_iff.mpr hm)
  · intro h rule w hw hm
    exact length_eq_zero_iff.mp (h rule) w hw (mem_language_iff.mp hm)

/-- Of a text that is not empty, no rule matches only an open quote. -/
theorem noneMatches_iff {t : Text} (ht : t ≠ []) :
    NoneMatches t ↔ ∃ rest : Text, t = '"' :: rest ∧ rest.AllEscaped := by
  obtain ⟨c, rest, rfl⟩ := List.exists_cons_of_ne_nil ht
  rw [noneMatches_iff_read?, Lexeme.read?_cons_eq_none, closing?_eq_none_iff]
  constructor
  · rintro ⟨rfl, hescaped⟩
    exact ⟨rest, rfl, hescaped⟩
  · rintro ⟨rest', hcons, hescaped⟩
    obtain ⟨rfl, rfl⟩ := List.cons.inj hcons
    exact ⟨rfl, hescaped⟩

end Rule

namespace Lexeme

/-- A lexeme is what the ordered grammar takes of a text: the longest prefix in the language of its rule,
where no rule tried before has any. -/
structure Heads (l : Lexeme) (t : Text) : Prop where
  nonempty : l.text ≠ []
  starts : l.text <+: t
  matched : l.text ∈ l.rule.language
  longest : ∀ w, w <+: t → w ∈ l.rule.language → w.length ≤ l.text.length
  first : ∀ rule ∈ Rule.ordered.takeWhile (· ≠ l.rule), ∀ w, w <+: t → w ∉ rule.language

/-- The lexeme that is read is what the grammar asks for: first rule, longest match. -/
theorem heads_of_read? {t : Text} {l : Lexeme} (h : read? t = some l) : l.Heads t := by
  obtain ⟨hstarts, hm, hlongest, hearlier⟩ := read?_eq_some_iff.mp h
  refine ⟨hm.ne_nil, hstarts, Rule.mem_language_iff.mpr hm, ?_, ?_⟩
  · intro w hw hmw
    exact hlongest w hw (Rule.mem_language_iff.mp hmw)
  · intro rule hrule w hw hmw
    exact hearlier rule hrule w hw (Rule.mem_language_iff.mp hmw)

theorem emits_of_read? {t : Text} {l : Lexeme} {kind : TokenKind} (h : read? t = some l)
    (hk : l.kind? = some kind) : l.rule.Emits l.text kind := by
  obtain ⟨-, -, -, hm⟩ := exists_rest h
  obtain ⟨rule, text⟩ := l
  cases rule with
  | space | comment => cases hk
  | delimiter =>
    obtain ⟨c, hc, rfl⟩ := hm
    rcases delimiterKind?_cases hc with ⟨g, hd, -⟩ | ⟨closer, hd, rfl⟩
    · obtain rfl := Option.some.inj (hd.symm.trans hk)
      rw [eq_opening_of_delimiterKind? hd]
      exact .opening g
    · obtain rfl := Option.some.inj (hd.symm.trans hk)
      exact .closing closer
  | _ =>
    obtain rfl := Option.some.inj hk
    constructor

/-- Whether a lexeme is neither blank nor a comment. -/
def isShown (l : Lexeme) : Bool := l.rule ≠ .space ∧ l.rule ≠ .comment

/-- So is every lexeme of a text, at its own place. -/
theorem Segments.heads {t stuck : Text} {ls before after : List Lexeme} {l : Lexeme}
    (h : Segments t ls stuck) (hs : ls = before ++ l :: after) :
    l.Heads (t.drop (before.flatMap text).length) := by
  induction h generalizing before with
  | nil | stuck => simp at hs
  | @cons first rest ls stuck hfirst behind ih =>
    rcases List.cons_eq_append_iff.mp hs with ⟨rfl, hl⟩ | ⟨before', rfl, hls⟩
    · obtain ⟨rfl, -⟩ := List.cons.inj hl
      exact heads_of_read? hfirst
    · have hdrop : (first.text ++ rest).drop ((first :: before').flatMap text).length =
          rest.drop (before'.flatMap text).length := by
        rw [List.flatMap_cons, List.length_append, ← List.drop_drop, List.drop_left]
      rw [hdrop]
      exact ih hls

end Lexeme

/-- The tokens of lexemes are those of the rules that show, one by one. -/
theorem Token.forall₂_ofLexemes (p : Position) (leading : Text) {ls : List Lexeme}
    (h : ∀ l ∈ ls, ∃ rest, Lexeme.read? (l.text ++ rest) = some l) :
    List.Forall₂ (fun l u => l.rule.Emits l.text u.kind ∧ u.value = l.text)
      (ls.filter Lexeme.isShown) (ofLexemes p leading ls).1 := by
  induction ls generalizing p leading with
  | nil => exact .nil
  | cons l ls ih =>
    obtain ⟨⟨rest, hread⟩, hls⟩ := List.forall_mem_cons.mp h
    cases hk : l.kind? with
    | none =>
      have hhidden : ¬ l.isShown = true := by
        have hrule := (Lexeme.kind?_eq_none hread).mp hk
        simpa [Lexeme.isShown, or_iff_not_imp_left] using hrule
      rw [List.filter_cons_of_neg hhidden]
      simp only [ofLexemes, hk]
      exact ih _ _ hls
    | some kind =>
      have hshown : l.isShown = true := by
        have hrule := mt (Lexeme.kind?_eq_none hread).mpr (by rw [hk]; exact Option.some_ne_none kind)
        simpa [Lexeme.isShown, not_or] using hrule
      rw [List.filter_cons_of_pos hshown]
      simp only [ofLexemes, hk]
      exact .cons ⟨Lexeme.emits_of_read? hread hk, rfl⟩ (ih _ _ hls)

namespace Scan

/-- The lexemes that a scan takes from where it stands, one in each step. -/
def passed (s : Scan) : List Lexeme := (Lexeme.segment (s.text.drop s.offset)).1

theorem offset_tokenize (s : Scan) :
    s.tokenize.1.offset = s.offset + (s.passed.flatMap Lexeme.text).length := by
  simp only [tokenize]
  split <;> rfl

theorem tokens_tokenize (s : Scan) : s.tokenize.1.tokens =
    s.tokens ++ (Token.ofLexemes s.position [] s.passed).1 := by
  simp only [tokenize]
  split <;> rfl

theorem drop_offset_tokenize (s : Scan) :
    s.text.drop s.tokenize.1.offset = (Lexeme.segment (s.text.drop s.offset)).2 := by
  have htext := (Lexeme.segments_segment (s.text.drop s.offset)).flatMap_text
  have hdrop := congrArg (List.drop (s.passed.flatMap Lexeme.text).length) htext
  rw [offset_tokenize, ← List.drop_drop, ← hdrop]
  exact List.drop_left

/-- A scan comes to the end, or stops where no rule matches. -/
theorem tokenize_outcome (s : Scan) :
    (∃ tokens, s.tokenize.2 = .ok tokens ∧ s.text.length ≤ s.tokenize.1.offset) ∨
      ∃ d, s.tokenize.2 = .error d ∧ s.tokenize.1.offset < s.text.length ∧
        Rule.NoneMatches (s.text.drop s.tokenize.1.offset) := by
  have hseg := Lexeme.segments_segment (s.text.drop s.offset)
  rw [← drop_offset_tokenize] at hseg
  by_cases hs : s.text.drop s.tokenize.1.offset = []
  · refine .inl ⟨s.tokenize.1.tokens, ?_, List.drop_eq_nil_iff.mp hs⟩
    rw [drop_offset_tokenize] at hs
    simp [tokenize, hs]
  · obtain ⟨rest, hrest, hnever⟩ := hseg.stuck_eq hs
    have hnone : Lexeme.read? ('"' :: rest) = none :=
      Lexeme.read?_cons_eq_none.mpr ⟨rfl, hnever⟩
    have hlt : s.tokenize.1.offset < s.text.length := by
      rw [List.drop_eq_nil_iff] at hs
      omega
    refine .inr ⟨s.tokenize.1.openString, ?_, hlt, ?_⟩
    · rw [drop_offset_tokenize] at hs
      simp [tokenize, hs]
    · rw [hrest]
      exact Rule.noneMatches_iff_read?.mpr hnone

/-- In each step a scan takes what the ordered grammar takes of the text from there on; it passes the lexemes
taken, and it adds the tokens of those that show, each of the kind that its rule gives. It succeeds at the
end of the text and fails where no rule matches, and that is at a quote with no unescaped quote behind it. -/
theorem tokenize_grammar (s : Scan) :
    (∀ before l after, s.passed = before ++ l :: after →
      l.Heads (s.text.drop (s.offset + (before.flatMap Lexeme.text).length))) ∧
    s.tokenize.1.offset = s.offset + (s.passed.flatMap Lexeme.text).length ∧
    (∃ added, s.tokenize.1.tokens = s.tokens ++ added ∧
      List.Forall₂ (fun l u => l.rule.Emits l.text u.kind ∧ u.value = l.text)
        (s.passed.filter Lexeme.isShown) added) ∧
    ((∃ tokens, s.tokenize.2 = .ok tokens ∧ s.text.length ≤ s.tokenize.1.offset) ∨
      ∃ d, s.tokenize.2 = .error d ∧ s.tokenize.1.offset < s.text.length ∧
        Rule.NoneMatches (s.text.drop s.tokenize.1.offset)) ∧
    ∀ p < s.text.length, Rule.NoneMatches (s.text.drop p) ↔
      s.text[p]? = some '"' ∧ Text.AllEscaped (s.text.drop (p + 1)) := by
  have hseg := Lexeme.segments_segment (s.text.drop s.offset)
  refine ⟨?_, offset_tokenize s, ⟨_, tokens_tokenize s, ?_⟩, tokenize_outcome s, ?_⟩
  · intro before l after hs
    rw [← List.drop_drop]
    exact hseg.heads hs
  · exact Token.forall₂_ofLexemes _ _ fun l hl => hseg.mem hl
  · intro p hp
    have hcons : s.text.drop p = s.text[p] :: s.text.drop (p + 1) := List.drop_eq_getElem_cons hp
    rw [Rule.noneMatches_iff (by rw [hcons]; exact List.cons_ne_nil _ _), hcons,
      List.getElem?_eq_getElem hp]
    constructor
    · rintro ⟨rest, heq, hescaped⟩
      obtain ⟨hquote, rfl⟩ := List.cons.inj heq
      exact ⟨congrArg some hquote, hescaped⟩
    · rintro ⟨hquote, hescaped⟩
      exact ⟨_, congrArg (· :: _) (Option.some.inj hquote), hescaped⟩

/-- The longest comparison goes before its prefixes, a reference to a symbol before the operator it starts
with, and a literal whose only other quote is escaped is no literal. -/
theorem tokenize_grammar_order :
    (Scan.mk "<=>&:x\"\\\"".toList none 0 {} [] []).passed =
      [⟨.compare, "<=>".toList⟩, ⟨.symbolRef, "&:x".toList⟩] ∧
    (⟨.symbolRef, "&:x".toList⟩ : Lexeme).Heads "&:x\"\\\"".toList ∧
    Rule.NoneMatches "\"\\\"".toList := by
  obtain ⟨hheads, -, -, -, hnone⟩ := tokenize_grammar (Scan.mk "<=>&:x\"\\\"".toList none 0 {} [] [])
  have hpassed : (Scan.mk "<=>&:x\"\\\"".toList none 0 {} [] []).passed =
      [⟨.compare, "<=>".toList⟩, ⟨.symbolRef, "&:x".toList⟩] := by decide +kernel
  have hescaped : Text.AllEscaped "\\\"".toList :=
    Rule.closing?_eq_none_iff.mp (by decide)
  exact ⟨hpassed, hheads [_] _ [] hpassed, (hnone 6 (by decide)).mpr ⟨rfl, hescaped⟩⟩

end Scan

end Shorthand
