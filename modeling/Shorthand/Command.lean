import Shorthand.FilePath

/-! Shell words: the words of a command line, split at blanks outside quotes. Single quotes keep all
that they enclose; double quotes keep it too, but for a backslash before a double quote or another
backslash; outside quotes a backslash keeps the one character after it. Comments, variables and
operators have no meaning here. -/
namespace Shorthand

namespace ShellWords

inductive Fault where
  /-- A quote is not closed. -/
  | openQuote
  /-- The text ends in a backslash. -/
  | danglingEscape
deriving DecidableEq, Repr

def Fault.message : Fault → Text
  | .openQuote => "No closing quotation".toList
  | .danglingEscape => "No escaped character".toList

inductive Quotes where
  | none
  | single
  | double
deriving DecidableEq, Repr

def isSeparator (c : Char) : Bool := c == ' ' || c == '\t' || c == '\r' || c == '\n'

def extend (c : Char) : Except Fault (List Text) → Except Fault (List Text) :=
  Except.map (Text.prepend c)

def finish (inWord : Bool) (words : List Text) : List Text := if inWord then [] :: words else words

/-- The words of a text that goes on inside the given quotes. If `inWord` holds, the first word of the
result continues one that has begun. -/
def splitFrom : Quotes → Bool → Text → Except Fault (List Text)
  | .none, inWord, [] => .ok (finish inWord [])
  | .none, inWord, c :: rest =>
    if isSeparator c then (splitFrom .none false rest).map (finish inWord)
    else if c = '\'' then splitFrom .single true rest
    else if c = '"' then splitFrom .double true rest
    else if c = '\\' then
      match rest with
      | [] => .error .danglingEscape
      | d :: rest => extend d (splitFrom .none true rest)
    else extend c (splitFrom .none true rest)
  | .single, _, [] => .error .openQuote
  | .single, _, c :: rest =>
    if c = '\'' then splitFrom .none true rest else extend c (splitFrom .single true rest)
  | .double, _, [] => .error .openQuote
  | .double, _, c :: rest =>
    if c = '"' then splitFrom .none true rest
    else if c = '\\' then
      match rest with
      | [] => .error .danglingEscape
      | d :: rest =>
        if d = '"' ∨ d = '\\' then extend d (splitFrom .double true rest)
        else extend '\\' (extend d (splitFrom .double true rest))
    else extend c (splitFrom .double true rest)

def split (t : Text) : Except Fault (List Text) := splitFrom .none false t

def isPlain (c : Char) : Bool := c.isAlphanum || c ∈ "_@%+=:,./-".toList

/-- A text that splits into the single word `word`. A word that needs quotes is enclosed in single ones,
and each single quote in it is written in double ones between them. -/
def quote (word : Text) : Text :=
  if word ≠ [] ∧ word.all isPlain then word
  else '\'' :: word.flatMap (fun c => if c = '\'' then "'\"'\"'".toList else [c]) ++ ['\'']

def join (words : List Text) : Text := Text.join [' '] (words.map quote)

example :
    (split "a 'b c'\"\\\"d\" \\e".toList).toOption =
      some ["a".toList, "b c\"d".toList, "e".toList] := by
  decide +kernel

end ShellWords

/-! Commands: the words that start an interpreter or an interactive session on an expanded file, and
the name of that file. -/

inductive Arguments where
  | none
  | shell (text : Text)
  | list (words : List Text)
deriving DecidableEq, Repr

def Arguments.split : Arguments → Except ShellWords.Fault (List Text)
  | .none => .ok []
  | .shell text => ShellWords.split text
  | .list words => .ok words

namespace Command

/-- The command that runs an expanded file: the interpreter, the file, further files, arguments. -/
def eval (interpreter : Text) (output : FilePath) (extra : List FilePath) (args : Arguments) :
    Except ShellWords.Fault (List Text) := do
  let words ← ShellWords.split interpreter
  let args ← args.split
  return words ++ output.toText :: extra.map FilePath.toText ++ args

/-- How an expanded file is named to be loaded: a relative path says that it starts here. -/
def loadTarget (output : FilePath) : Text :=
  if output.isAbsolute then output.toText else "./".toList ++ output.toText

/-- The command that starts an interactive session with an expanded file loaded. -/
def interactive (repl : Text) (output : FilePath) (args : Arguments) :
    Except ShellWords.Fault (List Text) := do
  let words ← ShellWords.split repl
  let args ← args.split
  return words ++ ["-r".toList, loadTarget output] ++ args

end Command

/-- The default name of an expanded file: that of its source, the start time and a suffix. -/
def outputPath (source : FilePath) (startedAt : Int) (suffix : Text) :
    Except NameFault FilePath :=
  if Text.isWritable startedAt then source.withName (source.name ++ Text.ofInt startedAt ++ suffix)
  else .error .unwritable

end Shorthand
