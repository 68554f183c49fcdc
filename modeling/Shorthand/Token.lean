import Shorthand.Text.Quoted

/-! Tokens of bracket shorthand. A group is opened by one of five delimiters and closed by one of
three; blanks and comments are no tokens, but each token keeps the blanks in front of it. -/
namespace Shorthand

/-- The closing delimiters. -/
inductive Closer where
  | paren
  | brace
  | bracket
deriving DecidableEq, Repr

/-- The kinds of group, each with its own opening delimiter. -/
inductive Group where
  /-- Written `( … )`. -/
  | paren
  /-- Written `{ … }`. -/
  | block
  /-- Written `[ … ]`. -/
  | index
  /-- Written `\h{ … }`. -/
  | map
  /-- Written `\a[ … ]`. -/
  | array
deriving DecidableEq, Repr

/-- The operators that ask for the neighbour of the value before them. -/
inductive Suffix where
  /-- Written `++`. -/
  | succ
  /-- Written `--`. -/
  | pred
deriving DecidableEq, Repr

inductive TokenKind where
  | opener (group : Group)
  | closer (closer : Closer)
  | arrow
  | suffix (suffix : Suffix)
  | string
  | operator
  | atom
deriving DecidableEq, Repr

def Closer.char : Closer → Char
  | .paren => ')'
  | .brace => '}'
  | .bracket => ']'

def Group.closer : Group → Closer
  | .paren => .paren
  | .block => .brace
  | .map => .brace
  | .index => .bracket
  | .array => .bracket

def Suffix.call : Suffix → Text
  | .succ => ".succ".toList
  | .pred => ".pred".toList

def TokenKind.label : TokenKind → String
  | .opener .paren => "LPAREN"
  | .opener .block => "LBRACE"
  | .opener .index => "LBRACKET"
  | .opener .map => "MAP_OPEN"
  | .opener .array => "ARRAY_OPEN"
  | .closer .paren => "RPAREN"
  | .closer .brace => "RBRACE"
  | .closer .bracket => "RBRACKET"
  | .arrow => "ARROW"
  | .suffix .succ => "INCREMENT"
  | .suffix .pred => "DECREMENT"
  | .string => "STRING"
  | .operator => "OPERATOR"
  | .atom => "ATOM"

/-- A token. Tokens that were read from a text stand at a line and column from one on; tokens made by
hand may have any. -/
structure Token where
  kind : TokenKind
  /-- The text of the token. -/
  value : Text
  line : Int
  column : Int
  /-- The blanks in front of the token. -/
  leading : Text := []
deriving DecidableEq, Repr

/-- The description of a token: its kind, its quoted text and its place, if the place can be written. -/
def Token.describe? (t : Token) : Option Text :=
  if Text.isWritable t.line && Text.isWritable t.column then
    some ("Token(".toList ++ t.kind.label.toList ++ ", ".toList ++ t.value.quoted ++ ", ".toList ++
      Text.ofInt t.line ++ ":".toList ++ Text.ofInt t.column ++ ")".toList)
  else none

end Shorthand
