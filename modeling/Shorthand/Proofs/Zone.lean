import Shorthand.Proofs.Segmentation

/-! Zones of a text, told apart character by character: code, string literals and comments. A lexeme
that is read in code ends in code, unless it is a comment; so the rules see quotes and number signs just
as the zones do. -/
namespace Shorthand

inductive Zone where
  | code
  | string
  /-- In a string literal, behind a backslash. -/
  | escape
  | comment
deriving DecidableEq, Repr

namespace Zone

def next : Zone → Char → Zone
  | code, c => if c = '"' then string else if c = '#' then comment else code
  | string, c => if c = '\\' then escape else if c = '"' then code else string
  | escape, _ => string
  | comment, c => if c = '\n' then code else comment

def behind (z : Zone) (t : Text) : Zone := t.foldl next z

def uncommented : Zone → Text → Text
  | _, [] => []
  | z, c :: rest =>
    if z.next c = comment then (z.next c).uncommented rest else c :: (z.next c).uncommented rest

@[simp] theorem behind_nil (z : Zone) : z.behind [] = z := rfl

@[simp] theorem behind_cons (z : Zone) (c : Char) (t : Text) :
    z.behind (c :: t) = (z.next c).behind t := rfl

/-- Reading goes on in the zone that has been reached. -/
theorem behind_append (z : Zone) (a b : Text) : z.behind (a ++ b) = (z.behind a).behind b :=
  List.foldl_append

/-- Comments are deleted piece by piece, each from the zone that it starts in. -/
theorem uncommented_append (z : Zone) (a b : Text) :
    z.uncommented (a ++ b) = z.uncommented a ++ (z.behind a).uncommented b := by
  induction a generalizing z with
  | nil => rfl
  | cons c a ih =>
    simp only [List.cons_append, uncommented, behind_cons, ih]
    split <;> rfl

/-- A character that begins or ends no literal and no comment. -/
def Plain (c : Char) : Prop := c ≠ '"' ∧ c ≠ '#'

theorem plain_of_not_mark {c : Char} (h : Rule.isMark c = false) : Plain c := by
  constructor <;> rintro rfl <;> cases h

/-- Plain characters leave no zone. -/
theorem behind_plain {w : Text} (h : ∀ c ∈ w, Plain c) : code.behind w = code := by
  induction w with
  | nil => rfl
  | cons c w ih =>
    obtain ⟨hq, hs⟩ := h c List.mem_cons_self
    rw [behind_cons, next, if_neg hq, if_neg hs]
    exact ih fun d hd => h d (List.mem_cons_of_mem c hd)

theorem uncommented_plain {w : Text} (h : ∀ c ∈ w, Plain c) : code.uncommented w = w := by
  induction w with
  | nil => rfl
  | cons c w ih =>
    obtain ⟨hq, hs⟩ := h c List.mem_cons_self
    have hnext : code.next c = code := by rw [next, if_neg hq, if_neg hs]
    rw [uncommented, hnext, if_neg nofun, ih fun d hd => h d (List.mem_cons_of_mem c hd)]

theorem behind_body {body : Text} (h : Rule.LiteralBody body) : string.behind body = string := by
  induction h with
  | nil => rfl
  | escaped c _ ih => exact ih
  | plain backslash quote _ ih =>
    rw [behind_cons, next, if_neg backslash, if_neg quote]
    exact ih

theorem uncommented_body {body : Text} (h : Rule.LiteralBody body) :
    string.uncommented body = body := by
  induction h with
  | nil => rfl
  | escaped c _ ih =>
    have hescape : string.next '\\' = escape := rfl
    have hnext : escape.next c = string := rfl
    rw [uncommented, hescape, if_neg nofun, uncommented, hnext, if_neg nofun, ih]
  | @plain c body backslash quote _ ih =>
    have hnext : string.next c = string := by rw [next, if_neg backslash, if_neg quote]
    rw [uncommented, hnext, if_neg nofun, ih]

/-- A literal leads into its zone and out of it. -/
theorem behind_literal {body : Text} (h : Rule.LiteralBody body) :
    code.behind ('"' :: (body ++ ['"'])) = code := by
  have hopen : code.next '"' = string := rfl
  rw [behind_cons, hopen, behind_append, behind_body h]
  rfl

/-- A literal is kept whole, whatever it holds. -/
theorem uncommented_literal {body : Text} (h : Rule.LiteralBody body) :
    code.uncommented ('"' :: (body ++ ['"'])) = '"' :: (body ++ ['"']) := by
  have hopen : code.next '"' = string := rfl
  rw [uncommented, hopen, if_neg nofun, uncommented_append, uncommented_body h, behind_body h]
  rfl

theorem behind_comment {body : Text} (h : '\n' ∉ body) : comment.behind body = comment := by
  induction body with
  | nil => rfl
  | cons c body ih =>
    obtain ⟨hc, hbody⟩ := not_or.mp (mt List.mem_cons.mpr h)
    rw [behind_cons, next, if_neg (Ne.symm hc)]
    exact ih hbody

/-- A comment leaves nothing. -/
theorem uncommented_comment {body : Text} (h : '\n' ∉ body) : comment.uncommented body = [] := by
  induction body with
  | nil => rfl
  | cons c body ih =>
    obtain ⟨hc, hbody⟩ := not_or.mp (mt List.mem_cons.mpr h)
    have hnext : comment.next c = comment := by rw [next, if_neg (Ne.symm hc)]
    rw [uncommented, hnext, if_pos rfl, ih hbody]

/-- At the end of its line a comment is over. -/
theorem uncommented_line {t : Text} (h : ∀ c ∈ t.head?, c = '\n') :
    comment.uncommented t = code.uncommented t := by
  cases t with
  | nil => rfl
  | cons c t =>
    obtain rfl : c = '\n' := h c rfl
    rfl

theorem behind_line {c : Char} {t : Text} (h : c = '\n') :
    comment.behind (c :: t) = code.behind (c :: t) := by
  subst h
  rfl

/-- A quote that is never closed keeps all that follows it inside the literal. -/
theorem behind_never {t p : Text} (h : Rule.closing? t = none) (hp : p <+: t) :
    string.behind p = string ∨ string.behind p = escape := by
  -- Each case of the search for the closing quote reads what moves the zone back to `string`.
  induction t using Rule.closing?_induction generalizing p with
  | nil =>
    rw [List.prefix_nil.mp hp]
    exact .inl rfl
  | last =>
    rcases List.prefix_cons_iff.mp hp with rfl | ⟨p', rfl, hp'⟩
    · exact .inl rfl
    · rw [List.prefix_nil.mp hp']
      exact .inr rfl
  | escaped c rest ih =>
    rcases List.prefix_cons_iff.mp hp with rfl | ⟨p', rfl, hp'⟩
    · exact .inl rfl
    · rcases List.prefix_cons_iff.mp hp' with rfl | ⟨p'', rfl, hp''⟩
      · exact .inr rfl
      · change string.behind p'' = string ∨ string.behind p'' = escape
        exact ih (by simpa [Rule.closing?] using h) hp''
  | quote => simp [Rule.closing?] at h
  | plain c rest hbackslash hquote ih =>
    rw [Rule.closing?_cons rest hbackslash hquote, Option.map_eq_none_iff] at h
    rcases List.prefix_cons_iff.mp hp with rfl | ⟨p', rfl, hp'⟩
    · exact .inl rfl
    · rw [behind_cons, next, if_neg hbackslash, if_neg hquote]
      exact ih h hp'

end Zone

namespace Lexeme

open Zone

theorem plain_of_read? {t : Text} {l : Lexeme} (h : read? t = some l) (hc : l.rule ≠ .comment)
    (hs : l.rule ≠ .string) : ∀ c ∈ l.text, Plain c := by
  cases ho : l.rule.isOrdinary with
  | true => exact fun c hmem => plain_of_not_mark (not_mark_of_read? h ho c hmem)
  | false =>
    obtain ⟨-, -, -, hm⟩ := exists_rest h
    obtain ⟨rule, text⟩ := l
    cases rule with
    | comment => exact absurd rfl hc
    | string => exact absurd rfl hs
    | delimiter =>
      have hbrackets : "()[]\x7b\x7d".toList.all (fun c => c != '"' && c != '#') = true := by decide
      obtain ⟨c, hmem, htext⟩ := hm
      intro d hd
      simp only at htext hd
      rw [htext, List.mem_singleton] at hd
      rw [hd]
      simpa [Plain] using List.all_eq_true.mp hbrackets c hmem
    | mapOpen | arrayOpen =>
      obtain rfl : text = _ := hm
      simp [Plain]
    | _ => cases ho

/-- A lexeme that is no comment ends where it began, and is kept. -/
theorem zone_of_read? {t : Text} {l : Lexeme} (h : read? t = some l) (hc : l.rule ≠ .comment) :
    code.behind l.text = code ∧ code.uncommented l.text = l.text := by
  by_cases hs : l.rule = .string
  · obtain ⟨-, -, -, hm⟩ := exists_rest h
    rw [hs] at hm
    obtain ⟨body, htext, hbody⟩ := hm
    rw [htext]
    exact ⟨behind_literal hbody, uncommented_literal hbody⟩
  · have hplain := plain_of_read? h hc hs
    exact ⟨behind_plain hplain, uncommented_plain hplain⟩

/-- A comment goes on to the end of its line, and leaves nothing. -/
theorem zone_of_comment {t : Text} {l : Lexeme} (h : read? t = some l) (hc : l.rule = .comment) :
    code.behind l.text = comment ∧ code.uncommented l.text = [] := by
  obtain ⟨-, -, -, hm⟩ := exists_rest h
  rw [hc] at hm
  obtain ⟨body, htext, hline⟩ := hm
  have hopen : code.next '#' = comment := rfl
  rw [htext, behind_cons, uncommented, hopen, if_pos rfl]
  exact ⟨behind_comment hline, uncommented_comment hline⟩

end Lexeme

end Shorthand
