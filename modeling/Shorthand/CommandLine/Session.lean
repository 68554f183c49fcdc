import Shorthand.CommandLine.Options
import Shorthand.CommandLine.Run
import Shorthand.Terminal

/-! The log of a run as lines of text. Errors are always shown, everything else only on request. -/
namespace Shorthand

def Event.entry : Event → Option (Text × Text)
  | .tokenized file n =>
    some ("core.lexer".toList,
      "Tokenized ".toList ++ file.toText ++ " into ".toList ++ Text.ofNat n ++ " tokens".toList)
  | .expanded file n =>
    some ("core.expander".toList,
      "Expanded ".toList ++ file.toText ++ " into ".toList ++ Text.ofNat n ++
        " top-level fragments".toList)
  | .wrote file n =>
    some ("core.transpiler".toList,
      "Wrote ".toList ++ file.toText ++ " (".toList ++ Text.ofNat n ++ " chars)".toList)
  | .loaded file => some ("core.manifest".toList, "Loaded configuration from ".toList ++ file.toText)
  | .deleted file => some ("core.runner".toList, "Deleted ".toList ++ file.toText)
  | .running command => some ("core.runner".toList, "Running ".toList ++ ShellWords.join command)
  | .evaluationIgnored => some ("cli".toList, "--irb given, ignoring --eval".toList)
  | .failed _ => none

def Event.text (verbose : Bool) (e : Event) : Text :=
  match e, e.entry with
  | .failed message, _ => Terminal.shown "Error: ".toList message ++ ['\n']
  | _, some (source, what) =>
    if verbose then "DEBUG geode.".toList ++ source ++ ": ".toList ++ what ++ ['\n'] else []
  | _, none => []

def Host.errors (verbose : Bool) (h : Host) : Text := h.events.reverse.flatMap (Event.text verbose)

/-! The command line: from arguments and surroundings to what is printed, what is left on the host, and
the status. -/
namespace CommandLine

structure Surroundings where
  /-- The interpreter that the environment names. -/
  interpreter : Option Text := none
  /-- The time when the run starts, in seconds. -/
  startedAt : Int := 0
  /-- The version of the program. -/
  release : Text
  /-- The name and version of the language that the program runs on. -/
  language : Text
  /-- The name and version of the system. -/
  platform : Text
  /-- Where programs are found. -/
  which : Text → Option Text := fun _ => none

structure Report where
  status : Int
  output : Text := []
  errors : Text := []
  commands : List (List Text) := []
  /-- The failure that nothing accounts for, if the run ends with one. -/
  raised : Option Failure := none
  files : FileSystem
deriving Repr

def usageStatus : Int := 2

def failureStatus : Int := 1

def versionText (s : Surroundings) : Text :=
  let found (program : String) : Text :=
    ((s.which program.toList).filter (· ≠ [])).getD "✗ Not found on PATH".toList
  Text.join ['\n'] [
    "Geode version ".toList ++ s.release,
    [],
    "Environment:".toList,
    "  Python:        ".toList ++ s.language,
    "  Platform:      ".toList ++ s.platform,
    [],
    "Interpreters:".toList,
    "  ruby:          ".toList ++ found "ruby",
    "  irb:           ".toList ++ found "irb",
    []]

/-- The interpreter that arguments or surroundings name. Only one that is not empty counts in the
surroundings. -/
def interpreter? (s : Surroundings) (args : List Argument) : Option Text :=
  (value? args .interpreter).or (s.interpreter.filter fun name => name ≠ [])

def task? (s : Surroundings) (args : List Argument) : Option Task :=
  match inputs args with
  | [] => none
  | source :: extra => some
    { source := FilePath.ofText source
      extra := extra.map FilePath.ofText
      out := (value? args .out).map FilePath.ofText
      evaluate := has args .evaluate
      interactive := has args .interactive
      args := value? args .args
      delete := has args .delete
      interpreter := interpreter? s args
      config := (value? args .config).map FilePath.ofText
      print := has args .print }

/-- The paths among arguments. None of them may hold a null character. -/
def paths (args : List Argument) : List Text :=
  inputs args ++ (value? args .out).toList ++ (value? args .config).toList

def report (s : Surroundings) (launch : List Text → Action Int) (verbose : Bool) (t : Task)
    (files : FileSystem) : Report :=
  let directory : FilePath := ⟨.root, files.current⟩
  match t.perform directory s.startedAt launch { files } with
  | (r, h) =>
    { status := match r with | .ok status => status | .error _ => failureStatus
      output := Terminal.withoutStyles h.output
      errors := h.errors verbose
      commands := h.commands.reverse
      raised := match r with | .error (.escaped f) => some f | _ => none
      files := h.files }

/-- Runs the command line. An unknown option or a missing value breaks the rules before anything else; a
question about the program is answered before paths are looked at; a path with a null character breaks the
rules too, also without inputs. -/
def run (s : Surroundings) (launch : List Text → Action Int) (args : List Text) (files : FileSystem) :
    Report :=
  match read? args with
  | none => { status := usageStatus, files }
  | some args =>
    match inquiry? args with
    | some .version => { status := 0, output := Terminal.withoutStyles (versionText s), files }
    | some _ => { status := 0, files }
    | none =>
      if (paths args).any fun path => '\x00' ∈ path then { status := usageStatus, files }
      else
        match task? s args with
        | none => { status := failureStatus, output := "No input files.".toList, files }
        | some t => report s launch (has args .verbose) t files

end CommandLine

end Shorthand
