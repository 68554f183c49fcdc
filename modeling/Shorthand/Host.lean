import Shorthand.Diagnostic
import Shorthand.Files
import Shorthand.Settings

/-! Failures: everything that can end an operation on files, settings or commands. -/
namespace Shorthand

inductive Failure where
  /-- Shorthand is refused. -/
  | source (diagnostic : Diagnostic)
  /-- There is no file to expand at a path. -/
  | noInput (path : FilePath)
  /-- An access to a path fails. -/
  | access (fault : AccessFault)
  /-- A settings file cannot be read. -/
  | unreadable (path : FilePath) (fault : AccessFault)
  /-- Bytes that should be UTF-8 are not; `byte` is the first that is not. -/
  | undecodable (part : Utf8.Malformed) (byte : UInt8)
  /-- A settings file with this name is not a configuration document. -/
  | document (name : Text)
  /-- A decimal integer has too many digits. -/
  | numeral (digits : Nat)
  /-- A configuration document holds no settings. -/
  | settings (fault : SettingsFault)
  /-- There is no default name for an expanded file. -/
  | naming (fault : NameFault)
  /-- A text does not split into words. -/
  | words (fault : ShellWords.Fault)
  /-- The program that a command names is not found. -/
  | notStarted (program : Text)
  /-- A command has no words. -/
  | emptyCommand
deriving Repr

def Utf8.Malformed.message (m : Utf8.Malformed) (byte : UInt8) : Text :=
  let place :=
    if m.length = 1 then
      "byte 0x".toList ++ (Nat.toDigits 16 byte.toNat).leftpad 2 '0' ++ " in position ".toList ++
        Text.ofNat m.start
    else
      "bytes in position ".toList ++ Text.ofNat m.start ++ '-' :: Text.ofNat (m.start + m.length - 1)
  "'utf-8' codec can't decode ".toList ++ place ++ ": ".toList ++ m.flaw.message

namespace Failure

def message : Failure → Text
  | source diagnostic =>
    match diagnostic.raised with
    | .ok text => text
    | .error obstacle => obstacle.message
  | noInput path => "Input file not found: ".toList ++ path.toText
  | access fault => fault.message
  | unreadable path fault => "Cannot read ".toList ++ path.toText ++ ": ".toList ++ fault.message
  | undecodable part byte => part.message byte
  | document name => "Invalid ".toList ++ name
  | numeral digits => Toml.numeralMessage digits
  | settings fault => fault.message
  | naming fault => fault.message
  | words fault => fault.message
  | notStarted program => "Could not start '".toList ++ program ++ "': ".toList ++ Refusal.notFound.text
  | emptyCommand => "list index out of range".toList

/-- Whether a failure is one that shorthand, settings or commands are refused with. The others come from
the system, or from a mistake that has no words of its own. -/
def isRefusal : Failure → Bool
  | source diagnostic => diagnostic.raised.isOk
  | unreadable .. | document _ | notStarted _ => true
  | settings (.wrongKind ..) | settings (.depthTooSmall _) => true
  | _ => false

def isSystem : Failure → Bool
  | noInput _ | access (.refused ..) => true
  | _ => false

end Failure

/-! The host of the program: its files, what it prints, what it logs, and the commands that it starts.
An action may change the host and may fail; a failure keeps the changes made before it. -/

/-- Something that happens during a run and may be worth a line in the log. -/
inductive Event where
  | tokenized (file : FilePath) (tokens : Nat)
  | expanded (file : FilePath) (fragments : Nat)
  | wrote (file : FilePath) (characters : Nat)
  | loaded (file : FilePath)
  | deleted (file : FilePath)
  | running (command : List Text)
  /-- Evaluation is asked for together with an interactive session, which goes first. -/
  | evaluationIgnored
  /-- The run ends with an error that is reported. -/
  | failed (message : Text)
deriving DecidableEq, Repr

structure Host where
  files : FileSystem
  /-- What has happened, newest first. -/
  events : List Event := []
  /-- What has been printed. -/
  output : Text := []
  /-- The commands that have been started, newest first. -/
  commands : List (List Text) := []
deriving Repr

abbrev HostM (ε α : Type) := ExceptT ε (StateM Host) α

abbrev Action (α : Type) := HostM Failure α

namespace HostM

variable {ε α : Type}

def log (e : Event) : HostM ε Unit := modify fun h => { h with events := e :: h.events }

def print (t : Text) : HostM ε Unit := modify fun h => { h with output := h.output ++ t }

def recordCommand (command : List Text) : HostM ε Unit :=
  modify fun h => { h with commands := command :: h.commands }

def setFiles (fs : FileSystem) : HostM ε Unit := modify fun h => { h with files := fs }

/-- The value of a computation that may fail for a reason of its own. -/
def attempt {δ : Type} (cause : δ → ε) : Except δ α → HostM ε α
  | .ok a => pure a
  | .error d => throw (cause d)

def inspect (question : FileSystem → Except AccessFault α) : Action α := do
  attempt .access (question (← get).files)

def change (step : FileSystem → Except AccessFault FileSystem) : Action Unit := do
  setFiles (← attempt .access (step (← get).files))

end HostM

end Shorthand
