import Shorthand.Fragment
import Shorthand.Scan

/-! Expansion of tokens. The groups that are open wait on a stack, the innermost first, each with the
fragments that stand before it on its own level. A closer replaces the innermost group by text and adds
that to the level around it, so every token is read once. The first token that breaks the nesting
ends the expansion; what is left open is found only behind the last token. -/
namespace Shorthand

/-- An open group: the token that opened it, and the fragments before it on its level, newest first. -/
structure Pending where
  group : Group
  opener : Token
  before : List Fragment
deriving DecidableEq, Repr

/-- A fault and the token that it is about. -/
structure Violation where
  fault : Fault
  token : Token
deriving DecidableEq, Repr

structure Expansion where
  /-- The open groups, innermost first. -/
  pending : List Pending := []
  /-- The fragments of the innermost level, newest first. -/
  fragments : List Fragment := []
deriving DecidableEq, Repr

/-- Attaches a suffix to the newest fragment. An arrow takes none, since it has to keep splitting
parameters from body; then, and at the start of a level, the suffix stands alone. -/
def Fragment.attach (suffix : Suffix) (leading : Text) : List Fragment → List Fragment
  | [] => [⟨leading ++ suffix.call, none⟩]
  | last :: older =>
    if last.isArrow then ⟨leading ++ suffix.call, none⟩ :: last :: older
    else ⟨last.text ++ suffix.call, none⟩ :: older

namespace Expansion

def push (e : Expansion) (f : Fragment) : Expansion := { e with fragments := f :: e.fragments }

/-- Opens a group, unless as many groups as `cap` allows are open. -/
def openGroup (cap : Option Int) (e : Expansion) (group : Group) (t : Token) :
    Except Violation Expansion :=
  match cap with
  | some limit =>
    if limit ≤ e.pending.length then .error ⟨.tooDeep limit, t⟩
    else .ok ⟨⟨group, t, e.fragments⟩ :: e.pending, []⟩
  | none => .ok ⟨⟨group, t, e.fragments⟩ :: e.pending, []⟩

def closeGroup (e : Expansion) (closer : Closer) (t : Token) : Except Violation Expansion :=
  match e.pending with
  | [] => .error ⟨.unexpectedCloser t.value, t⟩
  | p :: outer =>
    if p.group.closer = closer then
      .ok ⟨outer,
        ⟨p.opener.leading ++ p.group.desugar e.fragments.reverse t.leading, none⟩ :: p.before⟩
    else .error ⟨.unexpectedCloser t.value, t⟩

def step (cap : Option Int) (e : Expansion) (t : Token) : Except Violation Expansion :=
  match t.kind with
  | .opener group => e.openGroup cap group t
  | .closer closer => e.closeGroup closer t
  | .suffix suffix => .ok { e with fragments := Fragment.attach suffix t.leading e.fragments }
  | kind => .ok (e.push ⟨t.leading ++ t.value, some kind⟩)

/-- The fragments of the outermost level, provided that no group is open. -/
def finish (e : Expansion) : Except Violation (List Fragment) :=
  match e.pending with
  | [] => .ok e.fragments.reverse
  | p :: _ => .error ⟨.unclosed p.group, p.opener⟩

/-- Reads tokens to their end or to the first violation. Gives the outcome and the tokens not read. -/
def run (cap : Option Int) (e : Expansion) : List Token → Except Violation (List Fragment) × List Token
  | [] => (e.finish, [])
  | t :: ts =>
    match e.step cap t with
    | .error v => (.error v, ts)
    | .ok e' => run cap e' ts

end Expansion

structure Origin where
  file : Option FilePath := none
  source : Option Text := none
deriving DecidableEq, Repr

/-- The diagnostic of a violation; it shows source lines if there is any source. -/
def Violation.diagnose (v : Violation) (origin : Origin) : Diagnostic where
  fault := v.fault
  site :=
    { file := origin.file
      line := v.token.line
      column := v.token.column
      excerpt :=
        match origin.source with
        | none | some [] => none
        | some source => some (excerpt source v.token.line) }

def expandFragments (tokens : List Token) (origin : Origin := {}) (cap : Option Int := none) :
    Except Diagnostic (List Fragment) :=
  (Expansion.run cap {} tokens).1.mapError (·.diagnose origin)

def expandTokens (tokens : List Token) (origin : Origin := {}) (cap : Option Int := none) :
    Except Diagnostic Text :=
  (expandFragments tokens origin cap).map Fragment.concat

def expand (t : Text) (file : Option FilePath := none) (cap : Option Int := none) :
    Except Diagnostic Text :=
  match tokenize t file with
  | .error d => .error d
  | .ok (tokens, trailing) => (expandTokens tokens ⟨file, some t⟩ cap).map (· ++ trailing)

/-! Feeds: a list of tokens read forwards from a position that several readers share. What one of them
has consumed no other sees again, unless the feed is set back. -/

/-- A list of tokens and the number of those consumed. -/
structure TokenFeed where
  tokens : List Token
  position : Nat := 0
deriving DecidableEq, Repr

namespace TokenFeed

def rest (f : TokenFeed) : List Token := f.tokens.drop f.position

def size (f : TokenFeed) : Nat := f.tokens.length - f.position

def hasMore (f : TokenFeed) : Bool := f.position < f.tokens.length

def peek (f : TokenFeed) : Option Token := f.tokens[f.position]?

def next (f : TokenFeed) : Option Token × TokenFeed :=
  match f.peek with
  | none => (none, f)
  | some t => (some t, { f with position := f.position + 1 })

/-- Moves to position `n`, or to the end if the feed is shorter. -/
def seek (f : TokenFeed) (n : Nat) : TokenFeed := { f with position := min n f.tokens.length }

/-- Expands the tokens that are left, and consumes them up to the first violation. -/
def expand (f : TokenFeed) (origin : Origin := {}) (cap : Option Int := none) :
    Except Diagnostic Text × TokenFeed :=
  let (outcome, unread) := Expansion.run cap {} f.rest
  ((outcome.mapError (·.diagnose origin)).map Fragment.concat,
    { f with position := f.position + (f.rest.length - unread.length) })

end TokenFeed

end Shorthand
