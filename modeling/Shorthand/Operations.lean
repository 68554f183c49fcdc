import Shorthand.Expansion
import Shorthand.Host

/-! What is done on a host: files are expanded and removed, settings are loaded, commands are started. A
source file is UTF-8 with any line breaks; the expanded file has the expansion of its text with line feeds
only, and nothing is written unless the whole text expands. What the programs of the system do is not known
here. -/
namespace Shorthand

/-- Where in a file some malformed bytes are: the line after the line feeds before them, and the column
counted in bytes. -/
def Utf8.Malformed.site (m : Utf8.Malformed) (file : FilePath) (bytes : List UInt8) : Site :=
  let before := bytes.take m.start
  { file := some file
    line := before.count 10 + 1
    column := (before.reverse.takeWhile (· ≠ 10)).length + 1 }

def decodeSource (file : FilePath) (bytes : List UInt8) : Except Diagnostic Text :=
  match Utf8.decode bytes with
  | .ok t => .ok t.unifyLineBreaks
  | .error m => .error ⟨.undecodable m.start m.flaw, m.site file bytes⟩

open HostM

def expandLogged (file : FilePath) (t : Text) (cap : Option Int) : Action Text := do
  let (tokens, trailing) ← attempt .source (tokenize t file)
  log (.tokenized file tokens.length)
  let fragments ← attempt .source (expandFragments tokens ⟨some file, some t⟩ cap)
  log (.expanded file fragments.length)
  return Fragment.concat fragments ++ trailing

def writeText (file : FilePath) (t : Text) : Action Unit := do
  let (made, files) := (← get).files.ensureDirectories file.parent
  setFiles files
  attempt .access made
  change (·.write file (Utf8.encode t))

/-- Expands a source file, writes the expanded file and gives its text. -/
def expandFile (source output : FilePath) (cap : Option Int) : Action Text := do
  unless ← inspect (·.existsAt source) do throw (.noInput source)
  let bytes ← inspect (·.read source)
  let t ← attempt .source (decodeSource source bytes)
  let expanded ← expandLogged source t cap
  writeText output expanded
  log (.wrote output expanded.length)
  return expanded

/-- Deletes an expanded file. Tells whether there was one. -/
def removeFile (file : FilePath) : Action Bool := do
  if ← inspect (·.existsAt file) then
    change (·.unlink file)
    log (.deleted file)
    return true
  else return false

/-! Settings files. -/

def settingsName : Text := "geode.toml".toList

def findSettings (directory : FilePath) : Action (Option FilePath) := do
  let file := directory.child settingsName
  return if ← inspect (·.isFileAt file) then some file else none

/-- Why a settings file with the given name is not a configuration document. -/
def Toml.Error.failure (name : Text) : Toml.Error → Failure
  | .malformed => .document name
  | .numeralTooLong digits => .numeral digits

def AccessFault.unreadable (file : FilePath) : AccessFault → Failure
  | .nullCharacter => .access .nullCharacter
  | f => .unreadable file f

def decodeText (bytes : List UInt8) : Except Failure Text :=
  (Utf8.decode bytes).mapError fun m => .undecodable m (bytes.getD m.start 0)

def Settings.ofBytes (name : Text) (bytes : List UInt8) : Except Failure Settings := do
  let t ← decodeText bytes
  let document ← (Toml.parse t.unifyLineBreaks).mapError (·.failure name)
  (Settings.ofDocument document).mapError .settings

def loadSettings (file : FilePath) : Action Settings := do
  let bytes ← attempt (·.unreadable file) ((← get).files.read file)
  let settings ← attempt id (Settings.ofBytes file.name bytes)
  log (.loaded file)
  return { settings with path := some file }

/-! Commands. -/

/-- The programs of a system: a name and arguments run one, which has a status and may change the files, or
there is a reason why nothing runs. -/
abbrev Programs := FileSystem → Text → List Text → Except Refusal (Int × FileSystem)

namespace Programs

/-- Why a program does not run. That it is not found is told in words of its own. -/
def fault (name : Text) : Refusal → Failure
  | .notFound => .notStarted name
  | reason => .access (.refused reason name.quoted)

/-- Enters the directory that a command runs in. One that is not found is told like a missing program. -/
def enter (fs : FileSystem) (name : Text) (directory : Option FilePath) : Except Failure FileSystem :=
  match directory with
  | none => .ok fs
  | some p => (fs.enter p).mapError fun f =>
    match f with
    | .refused .notFound _ => .notStarted name
    | .refused reason _ => .access (.refused reason p.describe)
    | .nullCharacter => .access .nullCharacter

def launch (programs : Programs) (command : List Text) (directory : Option FilePath := none) : Action Int := do
  log (.running command)
  match command with
  | [] => throw .emptyCommand
  | name :: args =>
    if command.any fun word => '\x00' ∈ word then throw (.access .nullCharacter)
    let files := (← get).files
    let inside ← attempt id (enter files name directory)
    let (status, changed) ← attempt (fault name) (programs inside name args)
    setFiles { changed with current := files.current }
    return status

end Programs

end Shorthand
