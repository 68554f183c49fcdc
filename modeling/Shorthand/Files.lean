import Shorthand.FilePath
import Shorthand.Text.Utf8

/-! File systems. Every file and directory has a location, the list of names that lead to it from the
root; the view of a file system is the entry at each location. -/
namespace Shorthand

/-- A location: the names from the root on. -/
abbrev Location := List Text

inductive Entry where
  | file (bytes : List UInt8)
  | directory
deriving DecidableEq, Repr

/-- A file system and the directory that relative paths start from. -/
structure FileSystem where
  entries : List (Location × Entry)
  current : Location
deriving Repr

namespace FileSystem

/-- The entry at a location; the root is always a directory. -/
def find? (fs : FileSystem) (loc : Location) : Option Entry :=
  if loc = [] then some .directory else fs.entries.lookup loc

def set (fs : FileSystem) (loc : Location) (e : Entry) : FileSystem :=
  { fs with entries := (loc, e) :: fs.entries.filter fun x => x.1 != loc }

def erase (fs : FileSystem) (loc : Location) : FileSystem :=
  { fs with entries := fs.entries.filter fun x => x.1 != loc }

theorem lookup_filter_of_ne {α β : Type} [BEq α] [LawfulBEq α] {a b : α} (h : b ≠ a)
    (l : List (α × β)) : (l.filter fun x => x.1 != a).lookup b = l.lookup b := by
  induction l with
  | nil => rfl
  | cons x l ih =>
    obtain ⟨c, v⟩ := x
    by_cases hc : c = a
    · subst hc
      have hb : (b == c) = false := beq_eq_false_iff_ne.2 h
      simp [List.lookup_cons, hb, ih]
    · have hk : (c != a) = true := bne_iff_ne.2 hc
      simp only [List.filter_cons, hk, if_true, List.lookup_cons, ih]

theorem lookup_filter_self {α β : Type} [BEq α] [LawfulBEq α] (a : α) (l : List (α × β)) :
    (l.filter fun x => x.1 != a).lookup a = none := by
  induction l with
  | nil => rfl
  | cons x l ih =>
    obtain ⟨c, v⟩ := x
    by_cases hc : c = a
    · simpa [hc] using ih
    · have hk : (c != a) = true := bne_iff_ne.2 hc
      have ha : (a == c) = false := beq_eq_false_iff_ne.2 (Ne.symm hc)
      simp only [List.filter_cons, hk, if_true, List.lookup_cons, ha, ih]

@[simp] theorem find?_root (fs : FileSystem) : fs.find? [] = some .directory := rfl

theorem find?_set_self (fs : FileSystem) {loc : Location} (h : loc ≠ []) (e : Entry) :
    (fs.set loc e).find? loc = some e := by
  simp [find?, set, h]

theorem find?_set_of_ne (fs : FileSystem) {loc other : Location} (h : other ≠ loc) (e : Entry) :
    (fs.set loc e).find? other = fs.find? other := by
  simp only [find?, set, List.lookup_cons, beq_eq_false_iff_ne.2 h]
  rw [lookup_filter_of_ne h]

theorem find?_erase_self (fs : FileSystem) {loc : Location} (h : loc ≠ []) :
    (fs.erase loc).find? loc = none := by
  simp only [find?, erase, h, if_false]
  exact lookup_filter_self loc fs.entries

theorem find?_erase_of_ne (fs : FileSystem) {loc other : Location} (h : other ≠ loc) :
    (fs.erase loc).find? other = fs.find? other := by
  simp only [find?, erase]
  rw [lookup_filter_of_ne h]

end FileSystem

/-! Access to files by path. A path is followed step by step from the root or from the current
directory, so double dots lead out of a directory only where that directory exists. -/

inductive Refusal where
  | notFound
  | denied
  | exists
  | notDirectory
  | isDirectory
  | nameTooLong
deriving DecidableEq, Repr

def Refusal.number : Refusal → Nat
  | .notFound => 2
  | .denied => 13
  | .exists => 17
  | .notDirectory => 20
  | .isDirectory => 21
  | .nameTooLong => 36

def Refusal.text : Refusal → Text
  | .notFound => "No such file or directory".toList
  | .denied => "Permission denied".toList
  | .exists => "File exists".toList
  | .notDirectory => "Not a directory".toList
  | .isDirectory => "Is a directory".toList
  | .nameTooLong => "File name too long".toList

inductive AccessFault where
  /-- No path holds a null character. -/
  | nullCharacter
  /-- The system refuses it; `target` names what was accessed. -/
  | refused (reason : Refusal) (target : Text)
deriving DecidableEq, Repr

def AccessFault.message : AccessFault → Text
  | .nullCharacter => "embedded null byte".toList
  | .refused reason target =>
    "[Errno ".toList ++ Text.ofNat reason.number ++ "] ".toList ++ reason.text ++ ": ".toList ++ target

def Refusal.at (reason : Refusal) (p : FilePath) : AccessFault :=
  .refused reason (Text.quoted p.toText)

namespace FileSystem

def maxNameLength : Nat := 255

def maxPathLength : Nat := 4095

/-- The location that steps lead to from the location `loc`. All but the last of them must exist, and
every step starts in a directory. -/
def follow (fs : FileSystem) (loc : Location) : List Text → Except Refusal Location
  | [] => .ok loc
  | step :: steps =>
    match fs.find? loc with
    | none => .error .notFound
    | some (.file _) => .error .notDirectory
    | some .directory =>
      if step = [] ∨ step = ['.'] then fs.follow loc steps
      else if step = ['.', '.'] then fs.follow loc.dropLast steps
      else if maxNameLength < (Utf8.encode step).length then .error .nameTooLong
      else fs.follow (loc ++ [step]) steps

def locate (fs : FileSystem) (p : FilePath) : Except AccessFault Location :=
  if '\x00' ∈ p.toText then .error .nullCharacter
  else if maxPathLength < (Utf8.encode p.toText).length then .error (Refusal.nameTooLong.at p)
  else (fs.follow (if p.isAbsolute then [] else fs.current) (Text.cut '/' p.toText)).mapError (·.at p)

def entryAt (fs : FileSystem) (p : FilePath) : Except AccessFault (Option Entry) :=
  (fs.locate p).map fs.find?

def read (fs : FileSystem) (p : FilePath) : Except AccessFault (List UInt8) := do
  match ← fs.entryAt p with
  | none => .error (Refusal.notFound.at p)
  | some .directory => .error (Refusal.isDirectory.at p)
  | some (.file bytes) => .ok bytes

def write (fs : FileSystem) (p : FilePath) (bytes : List UInt8) : Except AccessFault FileSystem := do
  let loc ← fs.locate p
  if fs.find? loc = some .directory then .error (Refusal.isDirectory.at p)
  else .ok (fs.set loc (.file bytes))

def makeDirectory (fs : FileSystem) (p : FilePath) : Except AccessFault FileSystem := do
  let loc ← fs.locate p
  if (fs.find? loc).isSome then .error (Refusal.exists.at p)
  else .ok (fs.set loc .directory)

def unlink (fs : FileSystem) (p : FilePath) : Except AccessFault FileSystem := do
  let loc ← fs.locate p
  match fs.find? loc with
  | none => .error (Refusal.notFound.at p)
  | some .directory => .error (Refusal.isDirectory.at p)
  | some (.file _) => .ok (fs.erase loc)

def enter (fs : FileSystem) (p : FilePath) : Except AccessFault FileSystem := do
  let loc ← fs.locate p
  match fs.find? loc with
  | none => .error (Refusal.notFound.at p)
  | some (.file _) => .error (Refusal.notDirectory.at p)
  | some .directory => .ok { fs with current := loc }

/-- What a question about the entry at a path tells. Where the path does not lead anywhere there is no
entry, but a name that is too long cannot even be asked for. -/
def ask (fs : FileSystem) (p : FilePath) (question : Option Entry → Bool) : Except AccessFault Bool :=
  match fs.entryAt p with
  | .ok e => .ok (question e)
  | .error .nullCharacter | .error (.refused .notFound _) | .error (.refused .notDirectory _) =>
    .ok false
  | .error f => .error f

def existsAt (fs : FileSystem) (p : FilePath) : Except AccessFault Bool :=
  fs.ask p fun e => e.isSome

def isFileAt (fs : FileSystem) (p : FilePath) : Except AccessFault Bool :=
  fs.ask p fun e => match e with | some (.file _) => true | _ => false

def isDirectoryAt (fs : FileSystem) (p : FilePath) : Except AccessFault Bool :=
  fs.ask p fun e => e = some .directory

/-- What becomes of a directory that cannot be made: nothing is wrong if it is there already. -/
def acceptDirectory (fs : FileSystem) (p : FilePath) (f : AccessFault) : Except AccessFault Unit := do
  if ← fs.isDirectoryAt p then .ok () else .error f

def ensureDirectory (fs : FileSystem) (p : FilePath) : Except AccessFault Unit × FileSystem :=
  match fs.makeDirectory p with
  | .ok fs' => (.ok (), fs')
  | .error (.refused .notFound target) => (.error (.refused .notFound target), fs)
  | .error .nullCharacter => (.error .nullCharacter, fs)
  | .error f => (fs.acceptDirectory p f, fs)

/-- Makes a directory and those that lead to it, unless they are there already. Those that were made
before a failure stay. -/
def ensureDirectories (fs : FileSystem) (p : FilePath) : Except AccessFault Unit × FileSystem :=
  match fs.ensureDirectory p with
  | (.error (.refused .notFound target), _) =>
    if _h : p.steps = [] then (.error (.refused .notFound target), fs)
    else
      match fs.ensureDirectories p.parent with
      | (.error f, fs') => (.error f, fs')
      | (.ok (), fs') => fs'.ensureDirectory p
  | r => r
termination_by p.steps.length
decreasing_by
  simp only [FilePath.parent, List.length_dropLast]
  have := List.length_pos_iff.2 _h
  omega

end FileSystem

end Shorthand
