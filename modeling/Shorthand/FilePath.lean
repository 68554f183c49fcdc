import Shorthand.Text.Quoted

/-! File paths. A path is absolute or relative and has named steps; empty steps and single dots vanish
when a path is read, double dots stay. Exactly two leading slashes form a root of their own. -/
namespace Shorthand

inductive Anchor where
  /-- The current directory. -/
  | here
  /-- The root directory. -/
  | root
  /-- The root written with two slashes. -/
  | doubleRoot
deriving DecidableEq, Repr

def Anchor.slashes : Anchor → Text
  | .here => []
  | .root => ['/']
  | .doubleRoot => ['/', '/']

structure FilePath where
  anchor : Anchor
  steps : List Text
deriving DecidableEq, Repr

inductive NameFault where
  /-- The path itself has no name. -/
  | nameless (path : FilePath)
  /-- The new name is not a single step. -/
  | invalid (name : Text)
  /-- A numeral in the new name has too many digits. -/
  | unwritable
deriving DecidableEq, Repr

namespace FilePath

def ofText (t : Text) : FilePath where
  anchor :=
    match t with
    | '/' :: '/' :: '/' :: _ => .root
    | '/' :: '/' :: _ => .doubleRoot
    | '/' :: _ => .root
    | _ => .here
  steps := (Text.cut '/' t).filter fun step => step ≠ [] ∧ step ≠ ['.']

/-- The text of a path; the current directory is written as a dot. -/
def toText (p : FilePath) : Text :=
  if p.anchor = .here ∧ p.steps = [] then ['.'] else p.anchor.slashes ++ Text.join ['/'] p.steps

def isAbsolute (p : FilePath) : Bool := p.anchor ≠ .here

def name (p : FilePath) : Text := p.steps.getLast?.getD []

/-- The path without its last step; a bare anchor is its own parent. -/
def parent (p : FilePath) : FilePath := { p with steps := p.steps.dropLast }

def child (p : FilePath) (step : Text) : FilePath := { p with steps := p.steps ++ [step] }

/-- Whether a text is a name for a last step: it does not end in a slash and names one relative step. -/
def IsName (t : Text) : Prop :=
  t.getLast? ≠ some '/' ∧ (ofText t).anchor = .here ∧ (ofText t).steps.length = 1

instance (t : Text) : Decidable (IsName t) := by unfold IsName; infer_instance

/-- The path with its last step replaced by `t`, which is kept as it is written. -/
def withName (p : FilePath) (t : Text) : Except NameFault FilePath :=
  if p.name = [] then .error (.nameless p)
  else if IsName t then .ok { p with steps := p.steps.dropLast ++ [t] }
  else .error (.invalid t)

def describe (p : FilePath) : Text := "PosixPath(".toList ++ p.toText.quoted ++ [')']

end FilePath

def NameFault.message : NameFault → Text
  | .nameless path => path.describe ++ " has an empty name".toList
  | .invalid name => "Invalid name ".toList ++ name.quoted
  | .unwritable => Text.digitsMessage []

end Shorthand
