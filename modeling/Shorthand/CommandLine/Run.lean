import Shorthand.Operations

/-! A run of the program: settings are loaded, the first input is expanded to a file, and the file is
perhaps run by an interpreter or loaded into an interactive session, and perhaps deleted in the end. -/
namespace Shorthand

inductive Stop where
  /-- With an error that has been reported. -/
  | reported
  /-- With a failure that nothing accounts for. -/
  | escaped (failure : Failure)
deriving Repr

structure Task where
  source : FilePath
  /-- Further files for the interpreter. -/
  extra : List FilePath := []
  out : Option FilePath := none
  evaluate : Bool := false
  interactive : Bool := false
  /-- Arguments that take the place of those in the settings. -/
  args : Option Text := none
  delete : Bool := false
  /-- An interpreter that takes the place of the one in the settings, unless its name is empty. -/
  interpreter : Option Text := none
  config : Option FilePath := none
  print : Bool := false
deriving DecidableEq, Repr

open HostM

/-- Does `a`; failures that are to be reported are logged. -/
def reporting (reported : Failure → Bool) (a : Action α) : HostM Stop α := fun h =>
  match a h with
  | (.ok x, h') => (.ok x, h')
  | (.error f, h') =>
    if reported f then (.error .reported, { h' with events := .failed f.message :: h'.events })
    else (.error (.escaped f), h')

/-- Does `a` and then `last`, however `a` ends; if `last` fails, that is how both end. -/
def ensuring (a : HostM Stop α) (last : HostM Stop Unit) : HostM Stop α := fun h =>
  match a h with
  | (r, h') =>
    match last h' with
    | (.ok (), h'') => (r, h'')
    | (.error s, h'') => (.error s, h'')

namespace Task

/-- The settings of a run: those in the given file, else those of the current directory, else the
defaults. -/
def loadSettings (t : Task) (directory : FilePath) : Action Settings := do
  match t.config with
  | some file => Shorthand.loadSettings file
  | none =>
    match ← findSettings directory with
    | some file => Shorthand.loadSettings file
    | none => return {}

def output (t : Task) (startedAt : Int) (settings : Settings) : Except NameFault FilePath :=
  match t.out with
  | some file => .ok file
  | none => outputPath t.source startedAt settings.suffix

def writtenLine (output : FilePath) : Text :=
  "✓ Expanded file written to: ".toList ++ output.toText ++ ['\n']

/-- Prints the expansion if that is asked for, else where it is, unless it is put to use at once. -/
def announce (t : Task) (output : FilePath) (expanded : Text) : HostM ε Unit :=
  if t.print then HostM.print expanded
  else if t.evaluate || t.interactive then pure ()
  else HostM.print (writtenLine output)

def arguments (t : Task) (settings : Settings) : Except ShellWords.Fault (List Text) :=
  match t.args with
  | some given => ShellWords.split given
  | none => .ok settings.args

def interpreterName (t : Task) (settings : Settings) : Text :=
  match t.interpreter with
  | none | some [] => settings.interpreter
  | some name => name

def start (launch : List Text → Action Int) (command : List Text) : Action Int := do
  recordCommand command
  launch command

/-- Puts the expanded file to use and gives the status: an interactive session goes before
evaluation. -/
def use (t : Task) (launch : List Text → Action Int) (settings : Settings) (output : FilePath)
    (words : List Text) : Action Int := do
  if t.interactive then
    if t.evaluate then log .evaluationIgnored
    start launch (← attempt .words (Command.interactive settings.repl output (.list words)))
  else if t.evaluate then
    start launch (← attempt .words
      (Command.eval (t.interpreterName settings) output t.extra (.list words)))
  else return 0

def cleanUp (t : Task) (settings : Settings) (output : FilePath) : Action Unit := do
  if t.delete || settings.delete then
    let _ ← removeFile output

def perform (t : Task) (directory : FilePath) (startedAt : Int) (launch : List Text → Action Int) :
    HostM Stop Int := do
  let settings ← reporting Failure.isRefusal (t.loadSettings directory)
  let output ← attempt (.escaped ∘ .naming) (t.output startedAt settings)
  let expanded ← reporting (fun f => f.isRefusal || f.isSystem)
    (expandFile t.source output settings.maxDepth)
  t.announce output expanded
  let words ← attempt (.escaped ∘ .words) (t.arguments settings)
  ensuring (reporting Failure.isRefusal (t.use launch settings output words))
    (reporting (fun _ => false) (t.cleanUp settings output))

end Task

end Shorthand
