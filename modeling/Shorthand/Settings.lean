import Shorthand.Command
import Shorthand.Toml.Parser

/-! Settings. A settings document has three sections, all of them optional: `run` says how expanded
files are run, `output` how they are named, and `expand` how deep groups may nest. Keys are checked in
a fixed order and the first one with a wrong value is reported; unknown keys and sections are ignored. -/
namespace Shorthand

structure Settings where
  interpreter : Text := "ruby".toList
  repl : Text := "irb".toList
  /-- The arguments for either of them. -/
  args : List Text := []
  /-- Whether an expanded file is deleted in the end. -/
  delete : Bool := false
  /-- The end of the default name of an expanded file. -/
  suffix : Text := ".rb".toList
  /-- The greatest number of groups that may be open at once, if there is one. -/
  maxDepth : Option Int := none
  /-- The document that the settings come from. -/
  path : Option FilePath := none
deriving DecidableEq, Repr

inductive SettingsFault where
  /-- A setting has a value of the wrong kind. -/
  | wrongKind (name key expected : Text) (value : Toml.Value)
  /-- The nesting limit is less than one. -/
  | depthTooSmall (limit : Int)
  /-- The arguments are a text that does not split into words. -/
  | arguments (fault : ShellWords.Fault)
  /-- A section is a value that has no parts at all. -/
  | noParts (value : Toml.Value)
  /-- A section is a text in which a key occurs. -/
  | textSection
  /-- A section is an array in which a key occurs. -/
  | arraySection
  /-- An integer that has to be shown has too many digits. -/
  | unwritable
deriving Repr

def SettingsFault.message : SettingsFault → Text
  | .wrongKind name key expected value =>
    '[' :: name ++ "] ".toList ++ key ++ " must be ".toList ++ expected ++ ", got ".toList ++
      value.inFull
  | .depthTooSmall limit => "[expand] max_depth must be at least 1, got ".toList ++ Text.ofInt limit
  | .arguments fault => fault.message
  | .noParts value => "argument of type '".toList ++ value.kindName ++ "' is not iterable".toList
  | .textSection => "string indices must be integers, not 'str'".toList
  | .arraySection => "list indices must be integers or slices, not str".toList
  | .unwritable => Text.digitsMessage []

structure Section where
  name : Text
  value : Toml.Value
deriving Repr

namespace Section

/-- The section with a given name; one that is missing is empty. -/
def ofDocument (document : Toml.Table) (name : String) : Section :=
  ⟨name.toList, (document.find? name.toList).getD (.table [])⟩

/-- The value of a key. A text or an array in place of the section has no keys, but a key may not occur
in it either. -/
def find? (s : Section) (key : Text) : Except SettingsFault (Option Toml.Value) :=
  match s.value with
  | .table entries => .ok (Toml.Table.find? entries key)
  | .string t => if Text.hasInfix key t then .error .textSection else .ok none
  | .array items =>
    if items.any (fun v => match v with | .string t => t = key | _ => false) then
      .error .arraySection
    else .ok none
  | v => .error (.noParts v)

/-- The setting with a given key, converted by `read`, or its default. A value that `read` does not take
is not of the expected kind. -/
def setting (s : Section) (key expected : String) (read : Toml.Value → Option α) (default : α) :
    Except SettingsFault α := do
  match ← s.find? key.toList with
  | none => return default
  | some v =>
    match read v with
    | some a => return a
    | none =>
      if v.isWritable then .error (.wrongKind s.name key.toList expected.toList v)
      else .error .unwritable

end Section

namespace Toml.Value

def string? : Value → Option Text
  | .string t => some t
  | _ => none

def boolean? : Value → Option Bool
  | .boolean b => some b
  | _ => none

def integer? : Value → Option Int
  | .integer n => some n
  | _ => none

/-- Arguments: a text to be split into words, or an array whose items are shown plainly. -/
def arguments? : Value → Option (Except SettingsFault (List Text))
  | .string t => some ((ShellWords.split t).mapError .arguments)
  | .array items =>
    some (if allWritable items then .ok (items.map plain) else .error .unwritable)
  | _ => none

end Toml.Value

namespace Settings

def ofDocument (document : Toml.Table) : Except SettingsFault Settings := do
  let run := Section.ofDocument document "run"
  let output := Section.ofDocument document "output"
  let nesting := Section.ofDocument document "expand"
  let defaults : Settings := {}
  let interpreter ← run.setting "interpreter" "str" Toml.Value.string? defaults.interpreter
  let repl ← run.setting "repl" "str" Toml.Value.string? defaults.repl
  let words ← run.setting "args" "str or list" Toml.Value.arguments? (.ok defaults.args)
  let args ← words
  let delete ← run.setting "delete" "bool" Toml.Value.boolean? defaults.delete
  let suffix ← output.setting "suffix" "str" Toml.Value.string? defaults.suffix
  let limit ← nesting.setting "max_depth" "int" (fun v => v.integer?.map some) defaults.maxDepth
  let maxDepth ← match limit with
    | some n => if n < 1 then .error (.depthTooSmall n) else pure limit
    | none => pure none
  return { interpreter, repl, args, delete, suffix, maxDepth }

end Settings

end Shorthand
