import Shorthand.Proofs.Zone

/-! Reconstruction of a text from its tokens. The tokens and the blanks around them are the text without
its comments, and a text has no tokens exactly if it ends inside a string literal. Main statement:
`tokenize_reconstructs`. -/
namespace Shorthand

namespace Lexeme

open Zone

/-- What is left of a lexeme when comments are deleted. -/
def kept (l : Lexeme) : Text := if l.rule = .comment then [] else l.text

/-- Of a lexeme, the comments are all or nothing. -/
theorem uncommented_of_read? {t : Text} {l : Lexeme} (h : read? t = some l) :
    code.uncommented l.text = l.kept := by
  by_cases hc : l.rule = .comment
  · rw [kept, if_pos hc, (zone_of_comment h hc).2]
  · rw [kept, if_neg hc, (zone_of_read? h hc).2]

/-- Whatever zone a lexeme ends in, what follows it has the comments that it has by itself. -/
theorem uncommented_behind {l : Lexeme} {t rest : Text} (h : read? (l.text ++ (t ++ rest)) = some l) :
    (code.behind l.text).uncommented t = code.uncommented t := by
  by_cases hc : l.rule = .comment
  · rw [(zone_of_comment h hc).1]
    apply uncommented_line
    intro c hmem
    apply head?_of_comment h hc
    cases t with
    | nil => cases hmem
    | cons => exact hmem
  · rw [(zone_of_read? h hc).1]

namespace Segments

/-- So the comments of a text are its comment lexemes, by induction over the lexemes. -/
theorem uncommented_flatMap {t stuck : Text} {ls : List Lexeme} (h : Segments t ls stuck) :
    code.uncommented (ls.flatMap text) = ls.flatMap kept := by
  induction h with
  | nil | stuck => rfl
  | @cons l rest ls stuck first behind ih =>
    rw [← behind.flatMap_text] at first
    rw [List.flatMap_cons, List.flatMap_cons, uncommented_append, uncommented_of_read? first,
      uncommented_behind first, ih]

/-- In front of an open quote the text is in no literal and no comment. -/
theorem behind_stuck {t rest : Text} {ls : List Lexeme} (h : Segments t ls ('"' :: rest)) :
    code.behind (ls.flatMap text) = code := by
  generalize hs : '"' :: rest = stuck at h
  induction h with
  | nil => cases hs
  | stuck => rfl
  | @cons l tail ls stuck first behind ih =>
    rw [List.flatMap_cons, behind_append]
    by_cases hc : l.rule = .comment
    · -- A line feed follows the comment, not the open string, and it leads back into code.
      have hline := head?_of_comment first hc
      rw [← behind.flatMap_text, ← hs] at hline
      rw [(zone_of_comment first hc).1, ← ih hs]
      cases hx : ls.flatMap text with
      | nil =>
        rw [hx] at hline
        cases hline '"' rfl
      | cons c x =>
        rw [hx] at hline
        exact behind_line (hline c rfl)
    · rw [(zone_of_read? first hc).1, ih hs]

/-- A text that is read to its end stops in no literal. -/
theorem behind_end {t : Text} {ls : List Lexeme} (h : Segments t ls []) :
    code.behind t = code ∨ code.behind t = comment := by
  generalize hs : ([] : Text) = stuck at h
  induction h with
  | nil => exact .inl rfl
  | stuck => cases hs
  | @cons l rest ls stuck first behind ih =>
    rw [behind_append]
    by_cases hc : l.rule = .comment
    · have hline := head?_of_comment first hc
      rw [(zone_of_comment first hc).1]
      cases rest with
      | nil => exact .inr rfl
      | cons c rest =>
        rw [behind_line (hline c rfl)]
        exact ih hs
    · rw [(zone_of_read? first hc).1]
      exact ih hs

end Segments

end Lexeme

namespace Token

def layout (t : Token) : Text := t.leading ++ t.value

/-- The tokens of lexemes and the blanks around them are the lexemes without the comments. -/
theorem flatMap_layout_ofLexemes (p : Position) (leading : Text) {ls : List Lexeme}
    (h : ∀ l ∈ ls, l.kind? = none ↔ l.rule = .space ∨ l.rule = .comment) :
    (ofLexemes p leading ls).1.flatMap layout ++ (ofLexemes p leading ls).2 =
      leading ++ ls.flatMap Lexeme.kept := by
  induction ls generalizing p leading with
  | nil => simp [ofLexemes]
  | cons l ls ih =>
    have hls := fun m hm => h m (List.mem_cons_of_mem l hm)
    cases hk : l.kind? with
    | none =>
      simp only [ofLexemes, hk]
      rw [ih _ _ hls, List.flatMap_cons]
      rcases (h l List.mem_cons_self).mp hk with hs | hc
      · simp [hs, Lexeme.kept]
      · simp [hc, Lexeme.kept]
    | some kind =>
      have hc : l.rule ≠ .comment := by
        intro hc
        rw [(h l List.mem_cons_self).mpr (.inr hc)] at hk
        cases hk
      simp only [ofLexemes, hk, List.flatMap_cons]
      rw [List.append_assoc, ih _ _ hls, layout, Lexeme.kept, if_neg hc, List.nil_append,
        List.append_assoc]

/-- The tokens are the lexemes that are shown, with their kinds. -/
theorem map_ofLexemes (p : Position) (leading : Text) (ls : List Lexeme) :
    (ofLexemes p leading ls).1.map (fun t => (t.kind, t.value)) =
      ls.filterMap fun l => l.kind?.map fun kind => (kind, l.text) := by
  induction ls generalizing p leading with
  | nil => rfl
  | cons l ls ih =>
    rw [List.filterMap_cons]
    cases hk : l.kind? with
    | none =>
      simp only [ofLexemes, hk, Option.map_none]
      exact ih _ _
    | some kind =>
      simp only [ofLexemes, hk, Option.map_some, List.map_cons]
      rw [ih]

theorem exists_lexeme {p : Position} {leading : Text} {ls : List Lexeme} {t : Token}
    (h : t ∈ (ofLexemes p leading ls).1) : ∃ l ∈ ls, l.kind? = some t.kind ∧ l.text = t.value := by
  have hmem := List.mem_map_of_mem (f := fun t : Token => (t.kind, t.value)) h
  rw [map_ofLexemes] at hmem
  obtain ⟨l, hl, hlt⟩ := List.mem_filterMap.mp hmem
  obtain ⟨kind, hk, hkt⟩ := Option.map_eq_some_iff.mp hlt
  obtain ⟨rfl, htext⟩ := Prod.mk.inj hkt
  exact ⟨l, hl, hk, htext⟩

/-- Only blanks stand in front of tokens and behind the last one. -/
theorem isBlank_ofLexemes (p : Position) (leading : Text) {ls : List Lexeme}
    (hb : ∀ c ∈ leading, isBlank c = true)
    (h : ∀ l ∈ ls, l.rule = .space → ∀ c ∈ l.text, isBlank c = true) :
    (∀ t ∈ (ofLexemes p leading ls).1, ∀ c ∈ t.leading, isBlank c = true) ∧
      ∀ c ∈ (ofLexemes p leading ls).2, isBlank c = true := by
  induction ls generalizing p leading with
  | nil => exact ⟨nofun, hb⟩
  | cons l ls ih =>
    have hls := fun m hm => h m (List.mem_cons_of_mem l hm)
    cases hk : l.kind? with
    | none =>
      simp only [ofLexemes, hk]
      apply ih _ _ _ hls
      intro c hc
      split at hc
      · rename_i hs
        rcases List.mem_append.mp hc with hc | hc
        · exact hb c hc
        · exact h l List.mem_cons_self hs c hc
      · exact hb c hc
    | some kind =>
      simp only [ofLexemes, hk]
      obtain ⟨htokens, htrailing⟩ := ih (p.advance l.text) [] nofun hls
      refine ⟨?_, htrailing⟩
      intro t ht
      rcases List.mem_cons.mp ht with rfl | ht
      · exact hb
      · exact htokens t ht

end Token

/-- A text is refused at a quote that stands in code and whose literal the text never leaves. -/
theorem exists_openString {t : Text} {file : Option FilePath} {d : Diagnostic}
    (h : tokenize t file = .error d) :
    ∃ before inside, t = before ++ '"' :: inside ∧ Zone.code.behind before = .code ∧
      (∀ p, p <+: inside → Zone.string.behind p = .string ∨ Zone.string.behind p = .escape) ∧
      d.site.line = 1 + before.count '\n' ∧ d.site.column = 1 + (Text.lastLine before).length := by
  obtain ⟨ls, inside, hseg, hnever, rfl⟩ := exists_openQuote h
  refine ⟨_, inside, hseg.flatMap_text.symm, hseg.behind_stuck,
    fun p hp => Zone.behind_never hnever hp, ?_, ?_⟩
  · simp only [Diagnostic.openQuote, Position.advance_start]
    push_cast
    rfl
  · simp only [Diagnostic.openQuote, Position.advance_start]
    push_cast
    rfl

theorem exists_tokens_iff (t : Text) (file : Option FilePath) :
    (∃ r, tokenize t file = .ok r) ↔
      Zone.code.behind t ≠ .string ∧ Zone.code.behind t ≠ .escape := by
  constructor
  · intro hread
    obtain ⟨⟨tokens, trailing⟩, h⟩ := hread
    obtain ⟨ls, hseg, -⟩ := tokenize_eq_ok_iff.mp h
    rcases hseg.behind_end with hz | hz <;> rw [hz] <;> exact ⟨nofun, nofun⟩
  · intro ⟨hstring, hescape⟩
    cases h : tokenize t file with
    | ok r => exact ⟨r, rfl⟩
    | error d =>
      obtain ⟨before, inside, rfl, hbefore, hinside, -⟩ := exists_openString h
      have hz : Zone.code.behind (before ++ '"' :: inside) = Zone.string.behind inside := by
        rw [Zone.behind_append, hbefore]
        rfl
      rw [hz] at hstring hescape
      rcases hinside inside List.prefix_rfl with hi | hi
      · exact absurd hi hstring
      · exact absurd hi hescape

/-- Tokens with the blanks before them, and the blanks behind the last, are the text without its comments.
-/
theorem layout_of_tokenize {t : Text} {file : Option FilePath} {tokens : List Token} {trailing : Text}
    (h : tokenize t file = .ok (tokens, trailing)) :
    tokens.flatMap Token.layout ++ trailing = Zone.code.uncommented t := by
  obtain ⟨ls, hseg, hls⟩ := tokenize_eq_ok_iff.mp h
  have hlayout := Token.flatMap_layout_ofLexemes {} [] fun l hl =>
    Lexeme.kind?_eq_none (hseg.mem hl).choose_spec
  have htext := hseg.flatMap_text
  rw [List.append_nil] at htext
  rw [hls] at hlayout
  rw [hlayout, List.nil_append, ← hseg.uncommented_flatMap, htext]

/-- Tokens keep nothing but blanks in front of them. -/
theorem blanks_of_tokenize {t : Text} {file : Option FilePath} {tokens : List Token} {trailing : Text}
    (h : tokenize t file = .ok (tokens, trailing)) :
    (∀ token ∈ tokens, ∀ c ∈ token.leading, isBlank c = true) ∧ ∀ c ∈ trailing, isBlank c = true := by
  obtain ⟨ls, hseg, hls⟩ := tokenize_eq_ok_iff.mp h
  have hblanks := Token.isBlank_ofLexemes {} [] nofun fun l hl hs => by
    obtain ⟨rest, hread⟩ := hseg.mem hl
    obtain ⟨-, -, -, hm⟩ := Lexeme.exists_rest hread
    rw [hs] at hm
    exact hm.2
  rw [hls] at hblanks
  exact hblanks

/-- Every token was read as one lexeme. -/
theorem exists_read_of_tokenize {t : Text} {file : Option FilePath} {tokens : List Token}
    {trailing : Text} (h : tokenize t file = .ok (tokens, trailing)) {token : Token}
    (ht : token ∈ tokens) :
    ∃ l rest, Lexeme.read? (l.text ++ rest) = some l ∧ l.kind? = some token.kind ∧
      l.text = token.value := by
  obtain ⟨ls, hseg, hls⟩ := tokenize_eq_ok_iff.mp h
  have hmem : token ∈ (Token.ofLexemes {} [] ls).1 := by rw [hls]; exact ht
  obtain ⟨l, hl, hk, htext⟩ := Token.exists_lexeme hmem
  obtain ⟨rest, hread⟩ := hseg.mem hl
  exact ⟨l, rest, hread, hk, htext⟩

/-- A text has tokens exactly if it does not end inside a string literal. Then the tokens with the blanks
in front of them and behind the last one are the text without its comments. Otherwise the place of the
refusal is that of the quote that opens the literal in which the text ends. -/
theorem tokenize_reconstructs (t : Text) (file : Option FilePath) :
    ((∃ r, tokenize t file = .ok r) ↔
      Zone.code.behind t ≠ .string ∧ Zone.code.behind t ≠ .escape) ∧
    (∀ tokens trailing, tokenize t file = .ok (tokens, trailing) →
      tokens.flatMap Token.layout ++ trailing = Zone.code.uncommented t ∧
      (∀ token ∈ tokens, token.value ≠ [] ∧ ∀ c ∈ token.leading, isBlank c = true) ∧
      ∀ c ∈ trailing, isBlank c = true) ∧
    (∀ d, tokenize t file = .error d →
      d.fault = .openString ∧ d.fault.message = "Unexpected '\"'".toList ∧
      ∃ before inside, t = before ++ '"' :: inside ∧ Zone.code.behind before = .code ∧
        (∀ p, p <+: inside → Zone.string.behind p = .string ∨ Zone.string.behind p = .escape) ∧
        d.site.line = 1 + before.count '\n' ∧
        d.site.column = 1 + (Text.lastLine before).length) := by
  refine ⟨exists_tokens_iff t file, ?_, ?_⟩
  · intro tokens trailing h
    obtain ⟨hleading, htrailing⟩ := blanks_of_tokenize h
    refine ⟨layout_of_tokenize h, ?_, htrailing⟩
    intro token ht
    refine ⟨?_, hleading token ht⟩
    obtain ⟨l, rest, hread, -, htext⟩ := exists_read_of_tokenize h ht
    obtain ⟨hpos, -, -⟩ := Lexeme.read?_eq_some hread
    obtain ⟨-, -, hlen, -⟩ := Lexeme.exists_rest hread
    rw [← htext]
    apply List.ne_nil_of_length_pos
    omega
  · intro d h
    have hfault := fault_of_tokenize_error h
    refine ⟨hfault, ?_, exists_openString h⟩
    rw [hfault]
    rfl

/-- A number sign in a literal starts no comment, and a quote without an end is refused. -/
theorem tokenize_reconstructs_sign :
    (∃ r, tokenize "a \"#\" # b".toList none = .ok r) ∧
    (∀ tokens trailing, tokenize "a \"#\" # b".toList none = .ok (tokens, trailing) →
      tokens.flatMap Token.layout ++ trailing = "a \"#\" ".toList) ∧
    ∃ d, tokenize "a \"# b".toList none = .error d ∧ d.fault = .openString := by
  obtain ⟨hread, hlayout, -⟩ := tokenize_reconstructs "a \"#\" # b".toList none
  obtain ⟨hopen, -, hfault⟩ := tokenize_reconstructs "a \"# b".toList none
  refine ⟨hread.mpr (by decide), fun tokens trailing h => (hlayout tokens trailing h).1, ?_⟩
  cases h : tokenize "a \"# b".toList none with
  | ok r => exact absurd rfl (hopen.mp ⟨r, h⟩).1
  | error d => exact ⟨d, rfl, (hfault d h).1⟩

end Shorthand
