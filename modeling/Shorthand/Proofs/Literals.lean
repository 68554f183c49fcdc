import Shorthand.Proofs.PassageTokens
import Shorthand.Proofs.Reconstruction
import Shorthand.Proofs.Sugar

/-! String literals under expansion. The expansion of a text is a whole passage, so it reads as well-nested
tokens again. Its string tokens are those of the text, and two more for each block that dispatches on a lone
name. Main statement: `expand_literals`. -/
namespace Shorthand

/-- What reading a text ensures about a token: blanks in front, a whole passage that is a literal or holds
none, and for an atom characters that may stand in a literal as they are. -/
structure Token.Lexed (t : Token) : Prop where
  blank : ∀ c ∈ t.leading, isBlank c = true
  whole : t.kind.isDelimiter = false → Whole t.value (strings [t])
  name : t.kind = .atom → Rule.IsName t.value

/-- The literals that a group adds: the name of a lone atom in a block, twice. -/
def dispatched : Group → Forest → List Text
  | .block, .leaf t _ .nil => if t.kind = .atom then [Text.literal t.value, Text.literal t.value] else []
  | _, _ => []

/-- The string literals of a forest, with those that `added` puts at the place of each group behind those
in the group. -/
def Forest.literals (added : Group → Forest → List Text) : Forest → List Text
  | nil => []
  | leaf t _ rest => Token.strings [t] ++ rest.literals added
  | group g _ _ inner _ _ rest => inner.literals added ++ added g inner ++ rest.literals added

namespace Lexeme

/-- An atom is a name: no blank, no quote and no bracket stands in it. -/
theorem name_of_atom {t : Text} {l : Lexeme} (h : read? t = some l) (hk : l.kind? = some .atom) :
    Rule.IsName l.text := by
  obtain ⟨-, -, -, hm⟩ := exists_rest h
  obtain ⟨rule, text⟩ := l
  intro c hc
  cases rule with
  | atom => exact .inl (hm.2 c hc)
  | comma =>
    obtain rfl : text = _ := hm
    exact .inr (List.mem_singleton.mp hc)
  | symbolRef =>
    obtain ⟨name, -, rfl, hname⟩ := hm
    rcases List.mem_cons.mp hc with rfl | hc
    · exact .inl (by decide)
    · rcases List.mem_cons.mp hc with rfl | hc
      · exact .inl (by decide)
      · exact .inl (Rule.isAtomChar_of_isSymbolChar (hname c hc))
  | delimiter =>
    obtain ⟨d, hd, rfl⟩ := hm
    rcases delimiterKind?_cases hd with ⟨g, hd, -⟩ | ⟨closer, hd, -⟩ <;>
    · rw [kind?, hd] at hk
      cases hk
  | _ => cases hk

/-- A token that is no delimiter opens and closes no bracket, and holds a literal only if it is one. -/
theorem whole_of_plain {t : Text} {l : Lexeme} (h : read? t = some l) {kind : TokenKind}
    (hk : l.kind? = some kind) (hd : kind.isDelimiter = false) :
    Whole l.text (if kind = .string then [l.text] else []) := by
  cases ho : l.rule.isOrdinary with
  | true =>
    rw [if_neg (kind?_of_ordinary ho hk).2]
    exact .plain (not_mark_of_read? h ho)
  | false =>
    obtain ⟨-, -, -, hm⟩ := exists_rest h
    obtain ⟨rule, text⟩ := l
    cases rule with
    | comment => cases hk
    | mapOpen | arrayOpen =>
      obtain rfl := Option.some.inj hk
      cases hd
    | delimiter =>
      obtain ⟨c, hc, rfl⟩ := hm
      rcases delimiterKind?_cases hc with ⟨g, hc, -⟩ | ⟨closer, hc, -⟩ <;>
      · obtain rfl := Option.some.inj (hc.symm.trans hk)
        cases hd
    | string =>
      obtain rfl := Option.some.inj hk
      obtain ⟨body, rfl, hb⟩ := hm
      exact .literal hb
    | _ => cases ho

end Lexeme

theorem lexed_of_tokenize {t : Text} {file : Option FilePath} {tokens : List Token} {trailing : Text}
    (h : tokenize t file = .ok (tokens, trailing)) : ∀ token ∈ tokens, token.Lexed := by
  intro token ht
  obtain ⟨l, rest, hread, hk, htext⟩ := exists_read_of_tokenize h ht
  refine ⟨(blanks_of_tokenize h).1 token ht, ?_, ?_⟩
  · intro hd
    have hwhole := Lexeme.whole_of_plain hread hk hd
    rw [htext] at hwhole
    by_cases hs : token.kind = .string <;> simpa [Token.strings, hs] using hwhole
  · intro ha
    rw [ha] at hk
    rw [← htext]
    exact Lexeme.name_of_atom hread hk

/-- A leaf adds its own literals to those of a level. -/
theorem Fragment.Hold.addLeaf {level : List Fragment} {lits : List Text} (h : Hold level lits) {t : Token}
    (ht : t.Lexed) (hd : t.kind.isDelimiter = false) :
    Hold (Fragment.addLeaf level t) (lits ++ Token.strings [t]) := by
  have hnone (hk : t.kind ≠ .string) : Token.strings [t] = [] := by simp [Token.strings, hk]
  refine iff_carry.mpr ((iff_carry.mp h).addLeaf whole_additive ?_ ?_ ?_)
  · intro ha
    exact hnone (by simp [ha])
  · intro _
    exact (Whole.blank ht.blank).append (ht.whole hd)
  · intro s hs
    have hcall : Whole s.call [] := by cases s <;> exact .unmarked (by decide)
    rw [hnone (by simp [hs])]
    exact ⟨hcall, (Whole.blank ht.blank).append hcall⟩

/-- A level that is not just one token: it is not empty, and a fragment alone on it is no token's. -/
def Composite (level : List Fragment) : Prop :=
  level ≠ [] ∧ ∀ f, level = [f] → f.kind = none

namespace Composite

variable {level : List Fragment}

/-- A fragment made of others is no lone atom. -/
theorem loneAtom?_eq_none (h : Composite level) : Group.loneAtom? level = none := by
  unfold Group.loneAtom?
  split
  · rename_i f
    rw [h.2 f rfl, if_neg nofun]
  · rfl

theorem concat (h : level ≠ []) (f : Fragment) : Composite (level ++ [f]) := by
  refine ⟨by simp, ?_⟩
  intro g hg
  have hlen := congrArg List.length hg
  have hpos := List.length_pos_iff.mpr h
  simp only [List.length_append, List.length_singleton] at hlen
  omega

theorem replaceLast (older : List Fragment) (text : Text) : Composite (older ++ [⟨text, none⟩]) := by
  cases older with
  | nil =>
    refine ⟨by simp, ?_⟩
    intro f hf
    obtain rfl := (List.cons.inj hf).1
    rfl
  | cons f older => exact concat (List.cons_ne_nil f older) _

theorem addLeaf (h : level ≠ []) (t : Token) : Composite (Fragment.addLeaf level t) := by
  unfold Fragment.addLeaf
  split
  · split
    · exact replaceLast [] _
    · split
      · exact concat h _
      · exact replaceLast _ _
  · exact concat h _

theorem onto (h : Composite level) (f : Forest) : Composite (f.onto level) := by
  induction f generalizing level with
  | nil => exact h
  | leaf t _ rest ih => exact ih (addLeaf h.1 t)
  | group g opener _ inner closer _ rest _ ih => exact ih (concat h.1 _)

end Composite

theorem loneAtom?_addLeaf {t : Token} (ha : t.kind ≠ .atom) :
    Group.loneAtom? (Fragment.addLeaf [] t) = none := by
  unfold Fragment.addLeaf
  split
  · rfl
  · have hkind : ¬ some t.kind = some .atom := fun h => ha (Option.some.inj h)
    exact if_neg hkind

/-- A block dispatches on its content only if that is one atom; else the group adds no literal. -/
theorem dispatched_cases (g : Group) (inner : Forest) :
    (∃ t plain, g = .block ∧ inner = .leaf t plain .nil ∧ t.kind = .atom) ∨
      (dispatched g inner = [] ∧ (g = .block → Group.loneAtom? inner.fragments = none)) := by
  by_cases hg : g = .block
  · subst hg
    cases inner with
    | nil => exact .inr ⟨rfl, fun _ => rfl⟩
    | group g' opener opens inner' closer closes rest =>
      exact .inr ⟨rfl, fun _ => ((Composite.replaceLast [] _).onto rest).loneAtom?_eq_none⟩
    | leaf t plain rest =>
      have hne : Fragment.addLeaf [] t ≠ [] := by
        unfold Fragment.addLeaf
        split <;> simp
      cases rest with
      | nil =>
        by_cases ha : t.kind = .atom
        · exact .inl ⟨t, plain, rfl, rfl, ha⟩
        · exact .inr ⟨if_neg ha, fun _ => loneAtom?_addLeaf ha⟩
      | leaf t' plain' rest =>
        exact .inr ⟨rfl, fun _ => ((Composite.addLeaf hne t').onto rest).loneAtom?_eq_none⟩
      | group g' opener opens inner' closer closes rest =>
        exact .inr ⟨rfl, fun _ => ((Composite.concat hne _).onto rest).loneAtom?_eq_none⟩
  · refine .inr ⟨?_, fun h => absurd h hg⟩
    cases g with
    | block => exact absurd rfl hg
    | _ => rfl

namespace Forest

/-- A group of tokens that were read becomes a passage with its literals in order, those of a dispatch
twice. -/
theorem whole_desugar (g : Group) {inner : Forest} {tail : Text} (hinner : ∀ t ∈ inner.tokens, t.Lexed)
    (hold : Fragment.Hold inner.fragments (inner.literals dispatched)) (ht : ∀ c ∈ tail, isBlank c = true) :
    Whole (g.desugar inner.fragments tail) (inner.literals dispatched ++ dispatched g inner) := by
  rcases dispatched_cases g inner with ⟨t, plain, rfl, rfl, ha⟩ | ⟨hnone, hlone⟩
  · -- An atom is no literal, so the block holds just the two of the dispatch.
    have hlexed : t.Lexed := hinner t List.mem_cons_self
    have hname := hlexed.name ha
    have htrim : (t.leading ++ t.value).trim = t.value :=
      Text.trim_append hlexed.blank hname.not_blank
    have hdispatch := Group.whole_dispatch hname
    simpa [fragments, onto, Fragment.addLeaf, ha, Group.desugar, Group.desugarBlock, Group.loneAtom?,
      htrim, literals, Token.strings, dispatched] using hdispatch
  · rw [hnone, List.append_nil]
    exact Group.whole_desugar g hold ht hlone

/-- By induction over the forest: a level holds the literals of its tokens in order, with those that groups
add. -/
theorem hold_onto (f : Forest) (hf : ∀ t ∈ f.tokens, t.Lexed) {level : List Fragment} {lits : List Text}
    (h : Fragment.Hold level lits) : Fragment.Hold (f.onto level) (lits ++ f.literals dispatched) := by
  induction f generalizing level lits with
  | nil =>
    rw [literals, List.append_nil]
    exact h
  | leaf t plain rest ih =>
    obtain ⟨ht, hrest⟩ := List.forall_mem_cons.mp hf
    rw [literals, ← List.append_assoc]
    exact ih hrest (h.addLeaf ht plain)
  | group g opener opens inner closer closes rest ihi ihr =>
    obtain ⟨hopener, hinner, hcloser, hrest⟩ := forall_tokens_group hf
    have hfragments : Fragment.Hold inner.fragments (inner.literals dispatched) := ihi hinner .nil
    have hgroup := (Whole.blank hopener.blank).append
      (whole_desugar g hinner hfragments hcloser.blank)
    rw [literals, ← List.append_assoc]
    exact ihr hrest (h.append (.composite hgroup))

/-- The text of a forest closes all it opens and holds its literals. -/
theorem whole_text (f : Forest) (hf : ∀ t ∈ f.tokens, t.Lexed) : Whole f.text (f.literals dispatched) :=
  (f.hold_onto hf .nil).concat

/-- Without what groups add, the literals of a forest are its string tokens. -/
theorem strings_tokens (f : Forest) : Token.strings f.tokens = f.literals fun _ _ => [] := by
  induction f with
  | nil => rfl
  | leaf t _ rest ih => rw [tokens, literals, ← ih, Token.strings_cons]
  | group g opener opens inner closer closes rest ihi ihr =>
    have hopener : Token.strings [opener] = [] := by simp [Token.strings, opens]
    have hcloser : Token.strings [closer] = [] := by simp [Token.strings, closes]
    rw [tokens, literals, ← ihi, ← ihr, Token.strings_cons, Token.strings_append, Token.strings_cons closer,
      hopener, hcloser, List.append_nil]
    rfl

end Forest

/-- The expansion of a text holds no comment, reads as tokens and expands again. Its string tokens are those
of the text in order, with two more at the place of each block whose only token is a name. -/
theorem expand_literals (t out : Text) (file file' : Option FilePath) (h : expand t file = .ok out) :
    (∀ l ∈ (Lexeme.segment out).1, l.rule ≠ .comment) ∧ (∃ again, expand out file' = .ok again) ∧
    ∃ (f : Forest) (trailing : Text) (tokens : List Token) (behind : Text),
      tokenize t file = .ok (f.tokens, trailing) ∧ tokenize out file' = .ok (tokens, behind) ∧
      Token.strings f.tokens = (f.literals fun _ _ => []) ∧
      Token.strings tokens = f.literals dispatched := by
  obtain ⟨f, trailing, ht, rfl⟩ := exists_forest_of_expand h
  -- A token of the output need not be one of the text, so the output is read as a passage.
  have hwhole := (f.whole_text (lexed_of_tokenize ht)).append (.blank (blanks_of_tokenize ht).2)
  rw [List.append_nil] at hwhole
  obtain ⟨hcomment, tokens, behind, hout, hwell, hstrings⟩ := hwhole.exists_tokens file'
  refine ⟨hcomment, ?_, f, trailing, tokens, behind, ht, hout, f.strings_tokens, hstrings⟩
  obtain ⟨f', rfl⟩ := wellNested_iff.mp hwell
  exact ⟨_, expand_eq_ok_iff.mpr ⟨_, _, _, hout, f'.expandTokens_tokens _, rfl⟩⟩

/-- A block with a lone name adds two literals in front of the one that holds a number sign. -/
theorem expand_literals_dispatch :
    expand "\x7blen\x7d \"a#\" # b".toList none = .ok
      "\x7b|it|it.respond_to?(:\"len\") ? it.send(:\"len\") : len(it)\x7d \"a#\" ".toList ∧
    ∃ tokens behind, tokenize
        "\x7b|it|it.respond_to?(:\"len\") ? it.send(:\"len\") : len(it)\x7d \"a#\" ".toList none =
          .ok (tokens, behind) ∧
      Token.strings tokens = ["\"len\"".toList, "\"len\"".toList, "\"a#\"".toList] := by
  have hexpand : expand "\x7blen\x7d \"a#\" # b".toList none = .ok
      "\x7b|it|it.respond_to?(:\"len\") ? it.send(:\"len\") : len(it)\x7d \"a#\" ".toList :=
    by decide +kernel
  obtain ⟨-, -, f, trailing, tokens, behind, ht, hout, -, hstrings⟩ :=
    expand_literals _ _ none none hexpand
  have htokens : tokenize "\x7blen\x7d \"a#\" # b".toList none =
      .ok ((Forest.group .block ⟨.opener .block, ['\x7b'], 1, 1, []⟩ rfl
        (.leaf ⟨.atom, "len".toList, 1, 2, []⟩ rfl .nil) ⟨.closer .brace, ['\x7d'], 1, 5, []⟩ rfl
        (.leaf ⟨.string, "\"a#\"".toList, 1, 7, [' ']⟩ rfl .nil)).tokens, [' ']) :=
    by decide +kernel
  have hf := Forest.tokens_injective (Prod.mk.inj (Except.ok.inj (ht.symm.trans htokens))).1
  refine ⟨hexpand, tokens, behind, hout, ?_⟩
  rw [hstrings, hf]
  rfl

end Shorthand
