import Shorthand.Text.Basic

/-! Options of the command line. An argument that begins with a dash and has more behind it is an option;
all others are inputs, and so is everything behind a lone double dash. Options may stand anywhere. -/
namespace Shorthand.CommandLine

inductive Flag where
  | evaluate
  | interactive
  | delete
  | print
  | verbose
  | version
  | help
deriving DecidableEq, Repr

inductive Parameter where
  | out
  | args
  | interpreter
  | config
deriving DecidableEq, Repr

inductive Switch where
  | flag (flag : Flag)
  | parameter (parameter : Parameter)
deriving DecidableEq, Repr

def longNames : List (String × Switch) :=
  [("--out", .parameter .out), ("--eval", .flag .evaluate), ("--ev", .flag .evaluate),
    ("--irb", .flag .interactive), ("--args", .parameter .args), ("--del", .flag .delete),
    ("--rbi", .parameter .interpreter), ("--config", .parameter .config), ("--print", .flag .print),
    ("--verbose", .flag .verbose), ("--version", .flag .version), ("--help", .flag .help)]

def letters : List (Char × Switch) :=
  [('o', .parameter .out), ('e', .flag .evaluate), ('i', .flag .interactive), ('a', .parameter .args),
    ('d', .flag .delete), ('I', .parameter .interpreter), ('c', .parameter .config),
    ('v', .flag .version), ('h', .flag .help)]

inductive Argument where
  | input (text : Text)
  | flag (flag : Flag)
  | parameter (parameter : Parameter) (value : Text)
deriving DecidableEq, Repr

/-- What one option argument says: flags, and perhaps a parameter at its end, whose value is the rest of
the argument or, if there is none, the next argument. -/
structure Group where
  flags : List Flag
  parameter : Option (Parameter × Option Text) := none
deriving DecidableEq, Repr

def cutValue : Text → Text × Option Text
  | [] => ([], none)
  | c :: rest =>
    if c = '=' then ([], some rest)
    else
      let (name, value) := cutValue rest
      (c :: name, value)

def long? (arg : Text) : Option Group :=
  let (name, value) := cutValue arg
  match longNames.lookup (String.ofList name), value with
  | some (.flag f), none => some ⟨[f], none⟩
  | some (.parameter p), value => some ⟨[], some (p, value)⟩
  | _, _ => none

def short? : Text → Option Group
  | [] => some ⟨[], none⟩
  | c :: rest =>
    match letters.lookup c with
    | some (.flag f) => (short? rest).map fun g => { g with flags := f :: g.flags }
    | some (.parameter p) => some ⟨[], some (p, if rest = [] then none else some rest)⟩
    | none => none

/-- The options of an argument; nothing if one of them is not known. -/
def group? : Text → Option Group
  | '-' :: '-' :: name => long? ('-' :: '-' :: name)
  | '-' :: rest => short? rest
  | _ => none

/-- What the arguments of a command line say; nothing if they break the rules. -/
def read? : List Text → Option (List Argument)
  | [] => some []
  | arg :: rest =>
    if arg = ['-', '-'] then some (rest.map .input)
    else if arg.head? = some '-' ∧ arg ≠ ['-'] then
      match group? arg with
      | none => none
      | some ⟨flags, none⟩ => (read? rest).map (flags.map .flag ++ ·)
      | some ⟨flags, some (p, some v)⟩ => (read? rest).map (flags.map .flag ++ .parameter p v :: ·)
      | some ⟨flags, some (p, none)⟩ =>
        match rest with
        | [] => none
        | v :: rest => (read? rest).map (flags.map .flag ++ .parameter p v :: ·)
    else (read? rest).map (.input arg :: ·)

def inputs (args : List Argument) : List Text :=
  args.filterMap fun a => match a with | .input t => some t | _ => none

def has (args : List Argument) (f : Flag) : Bool := .flag f ∈ args

/-- The value of a parameter; the last one given counts. -/
def value? (args : List Argument) (p : Parameter) : Option Text :=
  (args.filterMap fun a => match a with
    | .parameter q v => if q = p then some v else none
    | _ => none).getLast?

/-- The first of the flags that ask for a text about the program and nothing else. -/
def inquiry? (args : List Argument) : Option Flag :=
  args.findSome? fun a => match a with
    | .flag .version => some .version
    | .flag .help => some .help
    | _ => none

end Shorthand.CommandLine
