import Mathlib.Data.List.Forall2
import Shorthand.Proofs.Reading
import Shorthand.Proofs.Spelling

/-! Texts joined to one. Where the second text starts with a blank or a closer, and not inside a comment of
the first, the tokens of both stay as they are (`Token.Reads.append`). So a delimiter written in front of a
text or behind it is a token of its own and leaves the others alone (`Token.Reads.opened`,
`Token.Reads.closed`). -/
namespace Shorthand

namespace Zone

theorem behind_code_blank {c : Char} (hc : isBlank c = true) (t : Text) :
    code.behind (c :: t) = code.behind t := by
  have hplain : Plain c := plain_of_not_mark (Rule.not_mark_of_isBlank hc)
  rw [behind_cons, next, if_neg hplain.1, if_neg hplain.2]

theorem behind_sign {body t : Text} (line : '\n' ∉ body) :
    code.behind ('#' :: (body ++ t)) = comment.behind t := by
  have hopen : code.next '#' = comment := rfl
  rw [behind_cons, hopen, behind_append, behind_comment line]

end Zone

namespace Lexeme

/-- A delimiter that opens a group is read as such, whatever follows it. -/
theorem exists_opening (g : Group) (t : Text) :
    ∃ l, read? (g.opening ++ t) = some l ∧ l.text = g.opening ∧ l.kind? = some (.opener g) := by
  cases g <;> exact ⟨_, rfl, rfl, rfl⟩

/-- A delimiter that closes a group is read as such, whatever follows it. -/
theorem exists_closing (closer : Closer) (t : Text) :
    ∃ l, read? (closer.char :: t) = some l ∧ l.text = [closer.char] ∧ l.kind? = some (.closer closer) := by
  cases closer <;> exact ⟨_, rfl, rfl, rfl⟩

end Lexeme

namespace Token

/-- The same token, read in another place. -/
structure Moved (t t' : Token) : Prop where
  kind : t'.kind = t.kind
  value : t'.value = t.value
  leading : t'.leading = t.leading

namespace Reads

variable {p : Position} {leading t trailing stuck : Text} {ts : List Token}

/-- Two texts are read one after the other, if the second starts with a character that ends every token and
is in no comment. -/
theorem append {a behind : Text} {us : List Token} (h : Reads p leading a ts trailing [])
    (hb : Reads (p.advance a) trailing t us behind stuck) (severs : ∀ c ∈ t.head?, Severs c)
    (line : Zone.code.behind a = .comment → ∀ c ∈ t.head?, c = '\n') :
    Reads p leading (a ++ t) (ts ++ us) behind stuck := by
  generalize hs : ([] : Text) = closed at h
  -- The first text is read as before, token by token; its last blanks stand in front of the second.
  induction h with
  | nil => exact hb
  | stuck => cases hs
  | @blank p leading a trailing closed ts c separates _ ih =>
    rw [← List.singleton_append, Position.advance_append] at hb
    rw [Zone.behind_code_blank separates] at line
    exact .blank separates (ih hb line hs)
  | @comment p leading a trailing closed body ts inside ends _ ih =>
    rw [Zone.behind_sign inside] at line
    rw [← List.cons_append, Position.advance_append] at hb
    rw [List.cons_append, List.append_assoc]
    cases a with
    | nil => exact .comment inside (line rfl) (ih hb (by simp) hs)
    | cons c a =>
      rw [Zone.behind_line (ends c rfl)] at line
      exact .comment inside ends (ih hb line hs)
  | @token p leading a trailing closed ts l kind first shown _ ih =>
    have hend : Lexeme.read? (l.text ++ (a ++ [])) = some l := by
      rw [List.append_nil]
      exact first
    have hfirst : Lexeme.read? (l.text ++ (a ++ t)) = some l := Lexeme.read?_severed hend shown severs
    obtain ⟨hzone, -⟩ := Lexeme.zone_of_read? first (Lexeme.solid_of_kind? shown).2
    rw [Zone.behind_append, hzone] at line
    rw [Position.advance_append] at hb
    rw [List.append_assoc]
    exact .token hfirst shown (ih hb line hs)

/-- A text is read in the same way at any place. -/
theorem moved (h : Reads p leading t ts trailing stuck) (p' : Position) :
    ∃ ts', Reads p' leading t ts' trailing stuck ∧ List.Forall₂ Moved ts ts' := by
  induction h generalizing p' with
  | nil => exact ⟨[], .nil _ _, .nil⟩
  | stuck never => exact ⟨[], .stuck never, .nil⟩
  | blank separates _ ih =>
    obtain ⟨ts', hts', hmoved⟩ := ih (p'.advance _)
    exact ⟨ts', .blank separates hts', hmoved⟩
  | comment line ends _ ih =>
    obtain ⟨ts', hts', hmoved⟩ := ih (p'.advance _)
    exact ⟨ts', .comment line ends hts', hmoved⟩
  | @token p leading t trailing stuck ts l kind first shown _ ih =>
    obtain ⟨ts', hts', hmoved⟩ := ih (p'.advance l.text)
    exact ⟨⟨kind, l.text, p'.line, p'.column, leading⟩ :: ts', .token first shown hts',
      .cons ⟨rfl, rfl, rfl⟩ hmoved⟩

/-- An opener in front of a text is its first token. -/
theorem opened {g : Group} (h : Reads (Position.advance {} g.opening) [] t ts trailing stuck) :
    Reads {} [] (g.opening ++ t) (⟨.opener g, g.opening, 1, 1, []⟩ :: ts) trailing stuck := by
  obtain ⟨l, first, htext, shown⟩ := Lexeme.exists_opening g t
  rw [← htext] at first h ⊢
  exact .token first shown h

/-- A closer behind a text that does not end in a comment is its last token. -/
theorem closed (h : Reads p leading t ts trailing []) (uncommented : Zone.code.behind t ≠ .comment)
    (closer : Closer) : Reads p leading (t ++ [closer.char])
      (ts ++ [⟨.closer closer, [closer.char], (p.advance t).line, (p.advance t).column, trailing⟩]) [] [] := by
  obtain ⟨l, first, htext, shown⟩ := Lexeme.exists_closing closer []
  have hfirst : Lexeme.read? (l.text ++ []) = some l := by rw [htext]; exact first
  have hclosing : Reads (p.advance t) trailing (l.text ++ []) _ [] [] := .token hfirst shown (.nil _ _)
  rw [htext] at hclosing
  apply h.append hclosing
  · intro c hc
    exact .inr ⟨closer, (Option.some.inj hc).symm⟩
  · exact fun hcomment => absurd hcomment uncommented

end Reads

end Token

end Shorthand
