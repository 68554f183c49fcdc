import Shorthand.FilePath
import Shorthand.Text.Utf8
import Shorthand.Token

/-! Diagnostics: why shorthand is refused, and where. A diagnostic shows the place, up to three source
lines that end with the line at fault, and the reason. It is raised with this text; but a numeral in it may
have too many digits to be written, or its carets may stand beyond every column, and then it is this
obstacle that is raised. -/
namespace Shorthand

/-- The lines of `t` from `before` lines above `line` down to `line`. A negative line number counts from
the end, and lines that do not exist are left out. -/
def excerpt (t : Text) (line : Int) (before : Int := 2) : Text :=
  let all := t.lines
  let stop := if line < 0 then (all.length + line).toNat else line.toNat
  let start := (max 1 (line - before) - 1).toNat
  Text.join ['\n'] ((all.take stop).drop start)

structure Site where
  /-- The file, unless the text is only in memory. -/
  file : Option FilePath
  line : Int
  column : Int
  /-- The source lines to show, if the source is known. -/
  excerpt : Option Text := none
deriving DecidableEq, Repr

namespace Site

/-- The number and the bar in front of a source line; numbers are at least four wide. -/
def gutter (number : Nat) : Text := (Text.ofNat number).leftpad 4 ' ' ++ " | ".toList

/-- The number of blanks in front of the carets that stand below the source line with the given number,
at the site's column; where it is negative, the carets stand at the start of their row. -/
def indent (s : Site) (number : Nat) : Int := (gutter number).length + s.column - 1

def marker (s : Site) (number : Nat) : Text :=
  List.replicate (s.indent number).toNat ' ' ++ "^^^".toList

/-- The rows that show source lines numbered from `number` on, with the marker below the site's line. -/
def rows (s : Site) (number : Nat) : List Text → List Text
  | [] => []
  | line :: lines =>
    let below := if (number : Int) = s.line then [s.marker number] else []
    (gutter number ++ line) :: (below ++ rows s (number + 1) lines)

def firstLine (s : Site) : Nat := (max 1 (s.line - 2)).toNat

/-- The file, line and column; a text without a file is called `<input>`. -/
def label (s : Site) : Text :=
  (s.file.map FilePath.toText).getD "<input>".toList ++ ':' :: Text.ofInt s.line ++
    ':' :: Text.ofInt s.column

/-- The source lines to show; an empty excerpt has none. -/
def shown (s : Site) : List Text :=
  match s.excerpt with
  | none | some [] => []
  | some excerpt => Text.lines excerpt

def render (s : Site) : Text := Text.join ['\n'] (s.label :: s.rows s.firstLine s.shown)

def annotate (s : Site) (message : Text) : Text := s.render ++ '\n' :: message

end Site

inductive Obstacle where
  /-- A numeral has too many digits. -/
  | digits
  /-- A row is indented by a number that is no signed word of 64 bits. -/
  | indent
deriving DecidableEq, Repr

def Obstacle.message : Obstacle → Text
  | .digits => Text.digitsMessage []
  | .indent => "cannot fit 'int' into an index-sized integer".toList

/-- Whether a row may be indented by this number of blanks. -/
def isIndent (n : Int) : Bool := -0x8000000000000000 ≤ n && n < 0x8000000000000000

namespace Site

/-- The first obstacle in the rows that show source lines numbered from `number` on. -/
def rowsObstacle? (s : Site) (number : Nat) : List Text → Option Obstacle
  | [] => none
  | _ :: lines =>
    if Text.isWritable number = false then some .digits
    else if (number : Int) = s.line ∧ isIndent (s.indent number) = false then some .indent
    else rowsObstacle? s (number + 1) lines

def obstacle? (s : Site) : Option Obstacle :=
  if Text.isWritable s.line && Text.isWritable s.column then s.rowsObstacle? s.firstLine s.shown
  else some .digits

def write (s : Site) (message : Text) : Except Obstacle Text :=
  s.obstacle?.elim (.ok (s.annotate message)) .error

end Site

inductive Fault where
  /-- A double quote opens a string that is never closed. -/
  | openString
  /-- The bytes of the source are not UTF-8 from this offset on. -/
  | undecodable (offset : Nat) (flaw : Utf8.Flaw)
  /-- A group is opened inside as many groups as may be open. -/
  | tooDeep (limit : Int)
  /-- A closing delimiter is not that of the innermost open group. -/
  | unexpectedCloser (value : Text)
  /-- The source ends inside a group. -/
  | unclosed (group : Group)
deriving DecidableEq, Repr

def Utf8.Flaw.message : Utf8.Flaw → Text
  | .badStart => "invalid start byte".toList
  | .badContinuation => "invalid continuation byte".toList
  | .truncated => "unexpected end of data".toList

def Fault.message : Fault → Text
  | .openString => "Unexpected ".toList ++ Text.quoted ['"']
  | .undecodable offset flaw =>
    "Invalid UTF-8 at byte ".toList ++ Text.ofNat offset ++ ": ".toList ++ flaw.message
  | .tooDeep limit => "Groups nested deeper than ".toList ++ Text.ofInt limit ++ " levels".toList
  | .unexpectedCloser value => "Unexpected ".toList ++ value.quoted
  | .unclosed group =>
    "Expected ".toList ++ Text.quoted [group.closer.char] ++ ", got EOF".toList

def Fault.isWritable : Fault → Bool
  | .undecodable offset _ => Text.isWritable offset
  | .tooDeep limit => Text.isWritable limit
  | .openString | .unexpectedCloser _ | .unclosed _ => true

structure Diagnostic where
  fault : Fault
  site : Site
deriving DecidableEq, Repr

def Diagnostic.message (d : Diagnostic) : Text := d.site.annotate d.fault.message

/-- What a diagnostic is raised as: its full text, or the first obstacle to writing that. The words for the
fault are written before its site. -/
def Diagnostic.raised (d : Diagnostic) : Except Obstacle Text :=
  if d.fault.isWritable then d.site.write d.fault.message else .error .digits

end Shorthand
