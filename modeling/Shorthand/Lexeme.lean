import Shorthand.Text.Character
import Shorthand.Token

/-! Lexemes: the pieces that a text falls into. The rules are tried in a fixed order; the first with a
match takes the longest prefix that it can. Only a double quote that is never closed matches no rule,
so reading stops at the end of the text or at such a quote. -/
namespace Shorthand

inductive Rule where
  | space
  | comment
  | arrow
  | mapOpen
  | arrayOpen
  | delimiter
  | compare
  | increment
  | decrement
  | symbolRef
  | operator
  | string
  | comma
  | atom
  | other
deriving DecidableEq, Repr

namespace Rule

def ordered : List Rule :=
  [space, comment, arrow, mapOpen, arrayOpen, delimiter, compare, increment, decrement, symbolRef,
    operator, string, comma, atom, other]

def isSymbolChar (c : Char) : Bool := isWordChar c || c == '.' || c == '?' || c == '!'

def isAtomChar (c : Char) : Bool := isSymbolChar c || c == '&' || c == ':' || c == '@' || c == '$'

/-- The length of the word `w` if the text starts with it, and zero otherwise. -/
def wordLength (w t : Text) : Nat := if w.isPrefixOf t then w.length else 0

/-- One if the first character satisfies `p`, and zero otherwise. -/
def oneLength (p : Char → Bool) : Text → Nat
  | [] => 0
  | c :: _ => if p c then 1 else 0

/-- The length of a comparison or power operator at the start: `**`, `<=>`, `!~`, `<` or `>` with at
most one of `<`, `>` and `=` after it, or `=` with at most one of `=` and `~` after it. -/
def compareLength : Text → Nat
  | '*' :: '*' :: _ => 2
  | '<' :: '=' :: '>' :: _ => 3
  | '!' :: '~' :: _ => 2
  | '=' :: rest => 1 + oneLength (fun c => c == '=' || c == '~') rest
  | c :: rest =>
    if c = '<' ∨ c = '>' then 1 + oneLength (fun d => d == '<' || d == '>' || d == '=') rest else 0
  | [] => 0

/-- The length of an arithmetic or logical operator at the start, with `=` if it follows. -/
def operatorLength : Text → Nat
  | c :: rest => if c ∈ "!+-*/^&|".toList then 1 + oneLength (· == '=') rest else 0
  | [] => 0

/-- The length of what is left of an open string literal, its closing quote included. A backslash takes
the character after it along, whichever it is. -/
def closing? : Text → Option Nat
  | [] => none
  | ['\\'] => none
  | '\\' :: _ :: rest => (closing? rest).map (· + 2)
  | '"' :: _ => some 1
  | _ :: rest => (closing? rest).map (· + 1)

/-- The length of the longest prefix that the rule matches, or zero if it matches none. -/
def length : Rule → Text → Nat
  | space, t => (t.takeWhile isBlank).length
  | comment, '#' :: rest => 1 + (rest.takeWhile (· ≠ '\n')).length
  | comment, _ => 0
  | arrow, t => wordLength "->".toList t
  | mapOpen, t => wordLength "\\h\x7b".toList t
  | arrayOpen, t => wordLength "\\a[".toList t
  | delimiter, t => oneLength (fun c => c ∈ "()[]\x7b\x7d".toList) t
  | compare, t => compareLength t
  | increment, t => wordLength "++".toList t
  | decrement, t => wordLength "--".toList t
  | symbolRef, '&' :: ':' :: rest =>
    match (rest.takeWhile isSymbolChar).length with
    | 0 => 0
    | n + 1 => n + 3
  | symbolRef, _ => 0
  | operator, t => operatorLength t
  | string, '"' :: rest =>
    match closing? rest with
    | none => 0
    | some n => n + 1
  | string, _ => 0
  | comma, t => oneLength (· == ',') t
  | atom, t => (t.takeWhile isAtomChar).length
  | other, t => oneLength (fun c => !isBlank c && c != '"') t

end Rule

structure Lexeme where
  rule : Rule
  text : Text
deriving DecidableEq, Repr

namespace Lexeme

def read? (t : Text) : Option Lexeme :=
  Rule.ordered.findSome? fun rule =>
    if 0 < rule.length t then some ⟨rule, t.take (rule.length t)⟩ else none

/-- A lexeme is a prefix of the text at least one character long. -/
theorem length_text_pos {c : Char} {t : Text} {l : Lexeme} (h : read? (c :: t) = some l) :
    0 < l.text.length := by
  obtain ⟨rule, _, hr⟩ := List.exists_of_findSome?_eq_some h
  split at hr
  · cases hr
    simp only [List.length_take, List.length_cons]
    omega
  · cases hr

/-- The lexemes of a text in order, and the rest at which no rule matches. -/
def segment : Text → List Lexeme × Text
  | [] => ([], [])
  | c :: rest =>
    match _h : read? (c :: rest) with
    | none => ([], c :: rest)
    | some l =>
      let (ls, stuck) := segment ((c :: rest).drop l.text.length)
      (l :: ls, stuck)
termination_by t => t.length
decreasing_by
  have := length_text_pos ‹_›
  simp only [List.length_drop, List.length_cons]
  omega

def delimiterKind? : Text → Option TokenKind
  | ['('] => some (.opener .paren)
  | ['\x7b'] => some (.opener .block)
  | ['['] => some (.opener .index)
  | [')'] => some (.closer .paren)
  | ['\x7d'] => some (.closer .brace)
  | [']'] => some (.closer .bracket)
  | _ => none

/-- The kind of token that a lexeme is, if it is one: blanks and comments are none. -/
def kind? (l : Lexeme) : Option TokenKind :=
  match l.rule with
  | .space | .comment => none
  | .arrow => some .arrow
  | .mapOpen => some (.opener .map)
  | .arrayOpen => some (.opener .array)
  | .delimiter => delimiterKind? l.text
  | .compare | .operator | .other => some .operator
  | .increment => some (.suffix .succ)
  | .decrement => some (.suffix .pred)
  | .symbolRef | .comma | .atom => some .atom
  | .string => some .string

end Lexeme

end Shorthand
