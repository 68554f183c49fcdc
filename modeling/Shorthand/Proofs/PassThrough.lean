import Shorthand.Proofs.Items

/-! Text without sugar. If none of its groups is one that sugar rewrites, a text expands to itself without
its comments, blank for blank. Main statement: `expand_inert`. -/
namespace Shorthand

/-- What parentheses leave as it is: nothing directly on the level is an arrow, no dot starts its first
item, and it is no symbol reference alone. -/
structure Forest.Inert (f : Forest) : Prop where
  arrow : ∀ t, .token t ∈ f.items → t.kind ≠ .arrow
  dot : ∀ t, f.items.head? = some (.token t) → t.kind = .atom → ¬ ['.'] <+: t.value
  reference : ∀ t, f.items = [.token t] → t.kind = .atom → ¬ "&:".toList <+: t.value

/-- A token that neither opens a group of another kind than `( … )` and `[ … ]` nor is a suffix. -/
def TokenKind.IsPlain (kind : TokenKind) : Prop :=
  kind ≠ .opener .block ∧ kind ≠ .opener .map ∧ kind ≠ .opener .array ∧ ∀ s, kind ≠ .suffix s

theorem TokenKind.IsPlain.suffix? {kind : TokenKind} (h : kind.IsPlain) : kind.suffix? = none :=
  TokenKind.suffix?_eq_none.mpr h.2.2.2

namespace Forest

/-- An inert level is no chain. -/
theorem Inert.isChain {f : Forest} (h : f.Inert) (hplain : ∀ t ∈ f.tokens, t.kind.IsPlain) :
    f.isChain = false := by
  cases f with
  | nil | group => rfl
  | leaf t plain rest =>
    have hs : t.kind.suffix? = none := (hplain t List.mem_cons_self).suffix?
    have hdot := h.dot t rfl
    simp only [← List.isPrefixOf_iff_prefix, Bool.not_eq_true] at hdot
    simpa [Forest.isChain, hs] using hdot

/-- Nor is it a reference. -/
theorem Inert.reference? {f : Forest} (h : f.Inert) (hplain : ∀ t ∈ f.tokens, t.kind.IsPlain) :
    f.reference? = none := by
  cases f with
  | nil | group => rfl
  | leaf t plain rest =>
    apply if_neg
    rintro ⟨hatom, hp, hr⟩
    have hrest : rest = nil := by
      cases rest with
      | nil => rfl
      | group => cases hr
      | leaf t' plain' rest' =>
        have hs : t'.kind.suffix? = none := (hplain t' (by simp [tokens])).suffix?
        simp [isSuffixes, hs] at hr
    subst hrest
    exact h.reference t rfl hatom hp

/-- By induction over the forest: without anything to rewrite, its text is that of its tokens. -/
theorem concat_onto (f : Forest) (hf : ∀ t ∈ f.tokens, t.Spelled) (hplain : ∀ t ∈ f.tokens, t.kind.IsPlain)
    (hinert : ∀ inner, (Group.paren, inner) ∈ f.groups → inner.Inert) (level : List Fragment) :
    Fragment.concat (f.onto level) = Fragment.concat level ++ f.tokens.flatMap Token.layout := by
  have happend (fs : List Fragment) (g : Fragment) :
      Fragment.concat (fs ++ [g]) = Fragment.concat fs ++ g.text := by simp [Fragment.concat]
  -- Stated for any level in front, so that the same induction runs inside a group and behind it.
  induction f generalizing level with
  | nil => simp [onto, tokens]
  | leaf t plain rest ih =>
    obtain ⟨-, hrest⟩ := List.forall_mem_cons.mp hf
    obtain ⟨ht, hplains⟩ := List.forall_mem_cons.mp hplain
    rw [onto, Fragment.addLeaf_of_not_suffix ht.suffix?, ih hrest hplains hinert, happend, tokens,
      List.flatMap_cons, List.append_assoc]
    rfl
  | group g opener opens inner closer closes rest ihi ihr =>
    obtain ⟨hopener, hinner, hcloser, hrest⟩ := forall_tokens_group hf
    obtain ⟨hkind, hinside, -, hlater⟩ := forall_tokens_group hplain
    have hcontent := ihi hinner hinside (fun f' hf' => hinert f' (by simp [groups, hf'])) []
    have hshown : opener.leading ++ g.desugar (inner.onto []) closer.leading =
        opener.layout ++ (inner.tokens.flatMap Token.layout ++ closer.layout) := by
      have hopening : opener.value = g.opening := (opens ▸ hopener.spells).eq_opening
      have hclosing : closer.value = [g.closer.char] := (closes ▸ hcloser.spells).eq_closer
      have hdesugar : g.desugar (inner.onto []) closer.leading =
          g.opening ++ (Fragment.concat (inner.onto []) ++ (closer.leading ++ [g.closer.char])) := by
        cases g with
        | block => exact absurd opens hkind.1
        | map => exact absurd opens hkind.2.1
        | array => exact absurd opens hkind.2.2.1
        | index => simp [Group.desugar, Group.opening, Group.closer, Closer.char]
        | paren =>
          have hi : inner.Inert := hinert inner (by simp [groups])
          have hnone : inner.arrow? = none := arrow?_eq_none.mpr hi.arrow
          have hparen := desugarParen_fragments hinner closer.leading
          rw [hi.isChain hinside, hi.reference? hinside, hnone] at hparen
          rw [Group.desugar]
          simpa [Group.opening, Group.closer, Closer.char, fragments] using hparen
      rw [hdesugar, hcontent, Token.layout, Token.layout, hopening, hclosing]
      simp [Fragment.concat]
    rw [onto, ihr hrest hlater (fun f' hf' => hinert f' (by simp [groups, hf'])), happend, hshown, tokens]
    simp

end Forest

/-- A text whose tokens are those of a forest, so well nested, expands to itself without its comments if no
token is a suffix or opens a group that is always rewritten, and every parenthesised group is inert. -/
theorem expand_inert (t : Text) (file : Option FilePath) (f : Forest) (trailing : Text)
    (h : tokenize t file = .ok (f.tokens, trailing)) (hplain : ∀ u ∈ f.tokens, u.kind.IsPlain)
    (hinert : ∀ inner, (Group.paren, inner) ∈ f.groups → inner.Inert) :
    expand t file none = .ok (Zone.code.uncommented t) := by
  have hshown := f.concat_onto (spelled_of_tokenize h) hplain hinert []
  have htext : f.text ++ trailing = Zone.code.uncommented t := by
    rw [← layout_of_tokenize h, Forest.text, Forest.fragments, hshown]
    rfl
  exact expand_eq_ok_iff.mpr ⟨f.tokens, trailing, f.text, h, f.expandTokens_tokens _, htext⟩

/-- An arrow is no sugar where it stands in brackets, even if those stand in parentheses. -/
theorem expand_inert_brackets :
    expand "f ( [a -> b] ,.c ) # (\n".toList none none = .ok "f ( [a -> b] ,.c ) \n".toList := by
  let inner : Forest := .group .index ⟨.opener .index, ['['], 1, 5, [' ']⟩ rfl
    (.leaf ⟨.atom, ['a'], 1, 6, []⟩ rfl <| .leaf ⟨.arrow, "->".toList, 1, 8, [' ']⟩ rfl <|
      .leaf ⟨.atom, ['b'], 1, 11, [' ']⟩ rfl .nil) ⟨.closer .bracket, [']'], 1, 12, []⟩ rfl <|
    .leaf ⟨.atom, [','], 1, 14, [' ']⟩ rfl <| .leaf ⟨.atom, ".c".toList, 1, 15, []⟩ rfl .nil
  let written : Forest := .leaf ⟨.atom, ['f'], 1, 1, []⟩ rfl <|
    .group .paren ⟨.opener .paren, ['('], 1, 3, [' ']⟩ rfl inner
      ⟨.closer .paren, [')'], 1, 18, [' ']⟩ rfl .nil
  have htokens : tokenize "f ( [a -> b] ,.c ) # (\n".toList none = .ok (written.tokens, " \n".toList) := by
    decide +kernel
  have hplain : ∀ u ∈ written.tokens, u.kind.IsPlain := by
    simp [written, inner, Forest.tokens, TokenKind.IsPlain]
  have hinert : ∀ inner', (Group.paren, inner') ∈ written.groups → inner'.Inert := by
    intro inner' h
    obtain rfl : inner' = inner := by simpa [written, inner, Forest.groups] using h
    constructor <;> simp [inner, Forest.items]
  have htext : Zone.code.uncommented "f ( [a -> b] ,.c ) # (\n".toList = "f ( [a -> b] ,.c ) \n".toList := by
    decide +kernel
  rw [← htext]
  exact expand_inert _ none written _ htokens hplain hinert

end Shorthand
