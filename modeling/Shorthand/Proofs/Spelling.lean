import Shorthand.Proofs.Literals
import Shorthand.Proofs.LongestMatch

/-! How tokens are spelled. Whatever text a token was read from, its kind fixes its text or bounds it: only
an atom may start with a dot or refer to a symbol, and no token starts with a blank. -/
namespace Shorthand

def Group.opening : Group → Text
  | .paren => ['(']
  | .block => ['\x7b']
  | .index => ['[']
  | .map => "\\h\x7b".toList
  | .array => "\\a[".toList

def Suffix.sign : Suffix → Text
  | .succ => "++".toList
  | .pred => "--".toList

/-- What the name of a symbol reference stands behind. -/
def referenceMark : Text := "&:".toList

inductive TokenKind.Spells : TokenKind → Text → Prop where
  | opener (g : Group) : Spells (.opener g) g.opening
  | closer (c : Closer) : Spells (.closer c) [c.char]
  | arrow : Spells .arrow "->".toList
  | suffix (s : Suffix) : Spells (.suffix s) s.sign
  | string (body : Text) : Spells .string ('"' :: (body ++ ['"']))
  | operator {v : Text} (nonempty : v ≠ []) (solid : ∀ c ∈ v, isBlank c = false)
      (dot : ¬ ['.'] <+: v) (reference : ¬ referenceMark <+: v) : Spells .operator v
  | atom {v : Text} (nonempty : v ≠ []) (name : Rule.IsName v) : Spells .atom v

namespace TokenKind.Spells

variable {kind : TokenKind} {v : Text}

/-- A token that was read begins with a character that is no blank. -/
theorem exists_head (h : kind.Spells v) : ∃ c rest, v = c :: rest ∧ isBlank c = false := by
  have hfixed {w : Text} (hne : w ≠ []) (hw : ∀ c ∈ w, isBlank c = false) :
      ∃ c rest, w = c :: rest ∧ isBlank c = false := by
    obtain ⟨c, rest, rfl⟩ := List.exists_cons_of_ne_nil hne
    exact ⟨c, rest, rfl, hw c List.mem_cons_self⟩
  cases h with
  | opener g => cases g <;> exact ⟨_, _, rfl, by decide⟩
  | closer c => cases c <;> exact ⟨_, _, rfl, by decide⟩
  | suffix s => cases s <;> exact ⟨_, _, rfl, by decide⟩
  | arrow | string => exact ⟨_, _, rfl, by decide⟩
  | operator nonempty solid _ _ => exact hfixed nonempty solid
  | atom nonempty name => exact hfixed nonempty name.not_blank

theorem eq_opening {g : Group} (h : Spells (.opener g) v) : v = g.opening := by
  cases h
  rfl

theorem eq_closer {closer : Closer} (h : Spells (.closer closer) v) : v = [closer.char] := by
  cases h
  rfl

theorem eq_arrow (h : Spells .arrow v) : v = "->".toList := by
  cases h
  rfl

theorem name (h : Spells .atom v) : Rule.IsName v := by
  cases h with
  | atom _ name => exact name

/-- A token that begins with a dot or an ampersand is an operator or an atom. -/
theorem plain_of_head {c : Char} {rest : Text} (h : kind.Spells (c :: rest)) (hc : c = '.' ∨ c = '&') :
    kind = .operator ∨ kind = .atom := by
  generalize hv : c :: rest = v at h
  cases h with
  | operator => exact .inl rfl
  | atom => exact .inr rfl
  | opener g => rcases hc with rfl | rfl <;> cases g <;> cases hv
  | closer closer => rcases hc with rfl | rfl <;> cases closer <;> cases hv
  | suffix s => rcases hc with rfl | rfl <;> cases s <;> cases hv
  | arrow | string => rcases hc with rfl | rfl <;> cases hv

/-- A token that begins with a dot is an atom. -/
theorem atom_of_dot (h : kind.Spells v) (hv : ['.'] <+: v) : kind = .atom := by
  obtain ⟨rest, rfl⟩ := hv
  rcases h.plain_of_head (.inl rfl) with rfl | hatom
  · cases h with
    | operator _ _ dot _ => exact absurd ⟨rest, rfl⟩ dot
  · exact hatom

/-- A token that begins with the mark of a reference is an atom. -/
theorem atom_of_reference (h : kind.Spells v) (hv : referenceMark <+: v) : kind = .atom := by
  obtain ⟨rest, rfl⟩ := hv
  rcases h.plain_of_head (.inr rfl) with rfl | hatom
  · cases h with
    | operator _ _ _ reference => exact absurd ⟨rest, rfl⟩ reference
  · exact hatom

end TokenKind.Spells

namespace Lexeme

theorem eq_opening_of_delimiterKind? {v : Text} {g : Group} (h : delimiterKind? v = some (.opener g)) :
    v = g.opening := by
  rw [delimiterKind?.eq_def] at h
  split at h <;> cases h <;> rfl

/-- What is read as a token of some kind is spelled as such. -/
theorem spells_of_read? {t : Text} {l : Lexeme} (h : read? t = some l) {kind : TokenKind}
    (hk : l.kind? = some kind) : kind.Spells l.text := by
  obtain ⟨hstart, hm, -, hearlier⟩ := read?_eq_some_iff.mp h
  have hne : l.text ≠ [] := hm.ne_nil
  obtain ⟨rule, text⟩ := l
  cases rule with
  | space | comment => cases hk
  | arrow | mapOpen | arrayOpen | increment | decrement =>
    obtain rfl := Option.some.inj hk
    obtain rfl : text = _ := hm
    constructor
  | delimiter =>
    obtain ⟨c, hc, rfl⟩ := hm
    rcases delimiterKind?_cases hc with ⟨g, hd, -⟩ | ⟨closer, hd, rfl⟩
    · obtain rfl := Option.some.inj (hd.symm.trans hk)
      rw [eq_opening_of_delimiterKind? hd]
      exact .opener g
    · obtain rfl := Option.some.inj (hd.symm.trans hk)
      exact .closer closer
  | compare =>
    have hall : ∀ w ∈ Rule.comparisons, w.all (!isBlank ·) = true ∧ ¬ ['.'] <+: w ∧
        ¬ referenceMark <+: w := by decide
    obtain rfl := Option.some.inj hk
    obtain ⟨hsolid, hdot, hreference⟩ := hall text hm
    exact .operator hne (Rule.not_blank_of_all hsolid) hdot hreference
  | operator =>
    have hall : ∀ w ∈ "!+-*/^&|".toList.flatMap fun c => [[c], [c, '=']], w.all (!isBlank ·) = true ∧
        ¬ ['.'] <+: w ∧ ¬ referenceMark <+: w := by decide
    obtain rfl := Option.some.inj hk
    obtain ⟨c, hc, htext⟩ := hm
    have hmem : text ∈ "!+-*/^&|".toList.flatMap fun c => [[c], [c, '=']] :=
      List.mem_flatMap.mpr ⟨c, hc, by simpa using htext⟩
    obtain ⟨hsolid, hdot, hreference⟩ := hall text hmem
    exact .operator hne (Rule.not_blank_of_all hsolid) hdot hreference
  | other =>
    obtain rfl := Option.some.inj hk
    obtain ⟨c, rfl, hc, -⟩ := hm
    refine .operator hne (by simpa using hc) ?_ ?_
    · -- The rule for atoms comes first, and a dot alone is an atom.
      intro hdot
      have hatom : Rule.Matches .atom [c] := by
        obtain ⟨rfl, -⟩ := List.cons_prefix_cons.mp hdot
        exact ⟨List.cons_ne_nil _ _, by simp [Rule.isAtomChar, Rule.isSymbolChar]⟩
      have hfirst : Rule.atom ∈ Rule.ordered.takeWhile (· ≠ .other) := by decide
      exact hearlier .atom hfirst [c] hstart hatom
    · intro hreference
      exact absurd hreference.length_le (by simp [referenceMark])
  | string =>
    obtain rfl := Option.some.inj hk
    obtain ⟨body, rfl, -⟩ := hm
    exact .string body
  | symbolRef | comma | atom =>
    obtain rfl := Option.some.inj hk
    exact .atom hne (name_of_atom h rfl)

end Lexeme

/-- What reading a text ensures about a token: blanks in front and a text that its kind may have. -/
structure Token.Spelled (t : Token) : Prop where
  blank : ∀ c ∈ t.leading, isBlank c = true
  spells : t.kind.Spells t.value

/-- The tokens of a text are spelled as their kinds ask, with blanks before them. -/
theorem spelled_of_tokenize {t : Text} {file : Option FilePath} {tokens : List Token} {trailing : Text}
    (h : tokenize t file = .ok (tokens, trailing)) : ∀ token ∈ tokens, token.Spelled := by
  intro token ht
  obtain ⟨l, rest, hread, hk, htext⟩ := exists_read_of_tokenize h ht
  refine ⟨(blanks_of_tokenize h).1 token ht, ?_⟩
  rw [← htext]
  exact Lexeme.spells_of_read? hread hk

end Shorthand
