import Shorthand.Proofs.Forest
import Shorthand.Proofs.Passage

/-! The tokens of a passage. However its characters fall into lexemes, a passage holds no comment and no
open string, its brackets open and close groups as they stand, and its literals are its string tokens. -/
namespace Shorthand

/-- The string literals among some tokens, in order. -/
def Token.strings (ts : List Token) : List Text := (ts.filter (·.kind = .string)).map value

theorem Token.strings_append (ts us : List Token) : strings (ts ++ us) = strings ts ++ strings us := by
  simp [strings]

theorem Token.strings_cons (t : Token) (ts : List Token) : strings (t :: ts) = strings [t] ++ strings ts :=
  strings_append [t] ts

/-- Behind the open openers `stack` all tokens fit. They leave groups open that wait for `closers`, and
their string literals are `lits`. -/
structure Carries (stack ts : List Token) (lits : List Text) (closers : List Closer) : Prop where
  fits : Admissible none stack ts
  leaves : (openers stack ts).map Token.closer? = closers.map some
  strings : Token.strings ts = lits

namespace Carries

variable {t : Token} {stack ts : List Token} {lits : List Text} {closers : List Closer}

theorem nil (h : stack.map Token.closer? = closers.map some) : Carries stack [] [] closers :=
  ⟨admissible_nil none stack, h, rfl⟩

theorem cons (hf : Fits none stack t) (h : Carries (t.nest stack) ts lits closers) :
    Carries stack (t :: ts) (Token.strings [t] ++ lits) closers := by
  refine ⟨admissible_cons.mpr ⟨hf, h.fits⟩, h.leaves, ?_⟩
  rw [Token.strings_cons, h.strings]

theorem of_not_string (hs : t.kind ≠ .string) (hf : Fits none stack t)
    (h : Carries (t.nest stack) ts lits closers) : Carries stack (t :: ts) lits closers := by
  have hnone : Token.strings [t] = [] := by simp [Token.strings, hs]
  have hcons := cons hf h
  rw [hnone] at hcons
  exact hcons

theorem plain (hd : t.kind.isDelimiter = false) (hs : t.kind ≠ .string)
    (h : Carries stack ts lits closers) : Carries stack (t :: ts) lits closers := by
  apply of_not_string hs (fits_of_plain hd none stack)
  rw [nest_of_plain hd]
  exact h

theorem literal (ht : t.kind = .string) (h : Carries stack ts lits closers) :
    Carries stack (t :: ts) (t.value :: lits) closers := by
  have hd : t.kind.isDelimiter = false := by
    rw [ht]
    rfl
  have hvalue : Token.strings [t] = [t.value] := by simp [Token.strings, ht]
  rw [← nest_of_plain hd stack] at h
  have hcons := cons (fits_of_plain hd none stack) h
  rw [hvalue] at hcons
  exact hcons

theorem opens {g : Group} (ht : t.kind = .opener g) (h : Carries (t :: stack) ts lits closers) :
    Carries stack (t :: ts) lits closers := by
  have hs : t.kind ≠ .string := by
    rw [ht]
    exact nofun
  apply of_not_string hs (fits_of_opener ht stack)
  rw [nest_of_opener ht]
  exact h

theorem closes {closer : Closer} {opener : Token} (ht : t.kind = .closer closer)
    (ho : opener.closer? = some closer) (h : Carries stack ts lits closers) :
    Carries (opener :: stack) (t :: ts) lits closers := by
  have hasks : (opener :: stack).head?.bind Token.closer? = some closer := ho
  have hs : t.kind ≠ .string := by
    rw [ht]
    exact nofun
  apply of_not_string hs (fits_of_closer ht hasks none)
  rw [nest_of_closer ht]
  exact h

end Carries

namespace Lexeme

theorem kind?_of_ordinary {l : Lexeme} (ho : l.rule.isOrdinary = true) {kind : TokenKind}
    (h : l.kind? = some kind) : kind.isDelimiter = false ∧ kind ≠ .string := by
  obtain ⟨rule, text⟩ := l
  cases rule with
  | comment | string | delimiter | mapOpen | arrayOpen => cases ho
  | space => cases h
  | _ =>
    obtain rfl := Option.some.inj h
    exact ⟨rfl, nofun⟩

theorem delimiterKind?_cases {c : Char} (h : c ∈ "()[]\x7b\x7d".toList) :
    (∃ g : Group, delimiterKind? [c] = some (.opener g) ∧ c = g.closer.opening) ∨
      ∃ closer : Closer, delimiterKind? [c] = some (.closer closer) ∧ c = closer.char := by
  have hc : c = '(' ∨ c = ')' ∨ c = '[' ∨ c = ']' ∨ c = '\x7b' ∨ c = '\x7d' := by simpa using h
  rcases hc with rfl | rfl | rfl | rfl | rfl | rfl
  · exact .inl ⟨.paren, rfl, rfl⟩
  · exact .inr ⟨.paren, rfl, rfl⟩
  · exact .inl ⟨.index, rfl, rfl⟩
  · exact .inr ⟨.bracket, rfl, rfl⟩
  · exact .inl ⟨.block, rfl, rfl⟩
  · exact .inr ⟨.brace, rfl, rfl⟩

/-- What the first lexeme of a passage is, and the passage behind it. -/
theorem read?_passage {l : Lexeme} {rest : Text} {s s' : List Closer} {lits : List Text}
    (h : read? (l.text ++ rest) = some l) (hp : Passage s (l.text ++ rest) lits s') :
    (l.rule.isOrdinary = true ∧ Passage s rest lits s') ∨
    (l.rule = .string ∧ ∃ lits', lits = l.text :: lits' ∧ Passage s rest lits' s') ∨
    (∃ g : Group, l.kind? = some (.opener g) ∧ Passage (g.closer :: s) rest lits s') ∨
    ∃ closer outer, l.kind? = some (.closer closer) ∧ s = closer :: outer ∧
      Passage outer rest lits s' := by
  cases ho : l.rule.isOrdinary with
  | true => exact .inl ⟨rfl, hp.of_append_plain (not_mark_of_read? h ho)⟩
  | false =>
    obtain ⟨-, -, -, hm⟩ := exists_rest h
    obtain ⟨rule, text⟩ := l
    cases rule with
    | comment =>
      obtain ⟨body, rfl, -⟩ := hm
      exact hp.head_ne_sign.elim
    | string =>
      obtain ⟨body, rfl, hb⟩ := hm
      exact .inr (.inl ⟨rfl, hp.of_literal hb⟩)
    | mapOpen =>
      obtain rfl : text = _ := hm
      have hname : Passage s ('\x7b' :: rest) lits s' := (hp.of_cons_plain rfl).of_cons_plain rfl
      exact .inr (.inr (.inl ⟨.map, rfl, hname.of_opening .brace⟩))
    | arrayOpen =>
      obtain rfl : text = _ := hm
      have hname : Passage s ('[' :: rest) lits s' := (hp.of_cons_plain rfl).of_cons_plain rfl
      exact .inr (.inr (.inl ⟨.array, rfl, hname.of_opening .bracket⟩))
    | delimiter =>
      obtain ⟨c, hc, rfl⟩ := hm
      rcases delimiterKind?_cases hc with ⟨g, hk, rfl⟩ | ⟨closer, hk, rfl⟩
      · exact .inr (.inr (.inl ⟨g, hk, hp.of_opening g.closer⟩))
      · obtain ⟨outer, hs, hrest⟩ := hp.of_closing closer
        exact .inr (.inr (.inr ⟨closer, outer, hk, hs, hrest⟩))
    | _ => cases ho

theorem passage_behind {l : Lexeme} {rest : Text} {s s' : List Closer} {lits : List Text}
    (h : read? (l.text ++ rest) = some l) (hp : Passage s (l.text ++ rest) lits s') :
    ∃ waiting lits', Passage waiting rest lits' s' := by
  rcases read?_passage h hp with ⟨-, hrest⟩ | ⟨-, lits', -, hrest⟩ | ⟨g, -, hrest⟩ |
    ⟨closer, outer, -, -, hrest⟩
  · exact ⟨s, lits, hrest⟩
  · exact ⟨s, lits', hrest⟩
  · exact ⟨g.closer :: s, lits, hrest⟩
  · exact ⟨outer, lits, hrest⟩

namespace Segments

variable {t stuck : Text} {ls : List Lexeme} {s s' : List Closer} {lits : List Text}

/-- A passage is read to its end. -/
theorem stuck_of_passage (h : Segments t ls stuck) (hp : Passage s t lits s') : stuck = [] := by
  induction h generalizing s lits with
  | nil => rfl
  | stuck never => exact absurd never hp.closing?_ne_none
  | cons first _ ih =>
    obtain ⟨waiting, lits', hrest⟩ := passage_behind first hp
    exact ih hrest

/-- No lexeme of a passage is a comment. -/
theorem not_comment_of_passage (h : Segments t ls stuck) (hp : Passage s t lits s') :
    ∀ l ∈ ls, l.rule ≠ .comment := by
  induction h generalizing s lits with
  | nil | stuck => exact nofun
  | @cons l _ _ _ first _ ih =>
    have hhead : l.rule ≠ .comment := by
      intro hc
      obtain ⟨-, -, -, hm⟩ := exists_rest first
      rw [hc] at hm
      obtain ⟨body, htext, -⟩ := hm
      rw [htext] at hp
      exact hp.head_ne_sign
    obtain ⟨waiting, lits', hrest⟩ := passage_behind first hp
    exact List.forall_mem_cons.mpr ⟨hhead, ih hrest⟩

/-- By induction over the lexemes: the tokens of a passage fit, and hold its literals and brackets. -/
theorem carries (h : Segments t ls stuck) (hp : Passage s t lits s') (p : Position) (leading : Text)
    (stack : List Token) (hs : stack.map Token.closer? = s.map some) :
    Carries stack (Token.ofLexemes p leading ls).1 lits s' := by
  -- Along the lexemes; the stack asks, group by group, for the closers that the brackets wait for.
  induction h generalizing s lits p leading stack with
  | nil =>
    cases hp
    exact .nil hs
  | stuck never => exact absurd never hp.closing?_ne_none
  | @cons l _ _ _ first _ ih =>
    rcases read?_passage first hp with ⟨ho, rest⟩ | ⟨hrule, lits', rfl, rest⟩ | ⟨g, hk, rest⟩ |
      ⟨closer, outer, hk, rfl, rest⟩
    · cases hk : l.kind? with
      | none =>
        simp only [Token.ofLexemes, hk]
        exact ih rest _ _ _ hs
      | some kind =>
        obtain ⟨hd, hstring⟩ := kind?_of_ordinary ho hk
        simp only [Token.ofLexemes, hk]
        exact .plain hd hstring (ih rest _ _ _ hs)
    · have hk : l.kind? = some .string := by simp only [kind?, hrule]
      simp only [Token.ofLexemes, hk]
      exact .literal rfl (ih rest _ _ _ hs)
    · simp only [Token.ofLexemes, hk]
      apply Carries.opens rfl
      apply ih rest
      rw [List.map_cons, hs]
      rfl
    · cases stack with
      | nil => cases hs
      | cons opener stack =>
        obtain ⟨hopener, houter⟩ := List.cons.inj hs
        simp only [Token.ofLexemes, hk]
        exact .closes rfl hopener (ih rest _ _ _ houter)

end Segments

end Lexeme

/-- A whole passage reads as well-nested tokens with its string literals, and none of it is a comment. -/
theorem Whole.exists_tokens {t : Text} {lits : List Text} (h : Whole t lits) (file : Option FilePath) :
    (∀ l ∈ (Lexeme.segment t).1, l.rule ≠ .comment) ∧ ∃ tokens trailing,
      tokenize t file = .ok (tokens, trailing) ∧ WellNested tokens ∧
        Token.strings tokens = lits := by
  have hseg := Lexeme.segments_segment t
  have hstuck := hseg.stuck_of_passage (h [])
  have hcarries := hseg.carries (h []) {} [] [] rfl
  refine ⟨hseg.not_comment_of_passage (h []), _, _, tokenize_eq_ok_iff.mpr ⟨_, hstuck ▸ hseg, rfl⟩, ?_,
    hcarries.strings⟩
  exact ⟨hcarries.fits, List.map_eq_nil_iff.mp hcarries.leaves⟩

end Shorthand
