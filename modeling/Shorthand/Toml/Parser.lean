import Shorthand.Toml.Reading

/-! Nested tables. Dotted keys and table headers lead through tables, which spring up where there is
nothing yet, and the last table of an array stands for the array. Two kinds of path are barred: those
already declared by a header, and those at or inside a value written as a whole. -/
namespace Shorthand.Toml

abbrev Path := List Text

namespace Table

def insertNew (key : Text) (value : Value) (t : Table) : Except Error Table :=
  if t.contains key then .error .malformed else .ok (t ++ [(key, value)])

/-- Applies `f` to the table at the end of a path. Arrays on the way are entered at their last table,
if `throughArrays` holds; any other value that is not a table bars the way. -/
def modifyAt (throughArrays : Bool) (f : Table → Except Error Table) :
    Path → Table → Except Error Table
  | [], t => f t
  | k :: ks, t =>
    match t.find? k with
    | none => do
      let inner ← modifyAt throughArrays f ks []
      return t ++ [(k, .table inner)]
    | some (.table inner) => do
      let inner ← modifyAt throughArrays f ks inner
      return t.replace k (.table inner)
    | some (.array items) =>
      match throughArrays, items.getLast? with
      | true, some (.table inner) => do
        let inner ← modifyAt throughArrays f ks inner
        return t.replace k (.array (items.dropLast ++ [.table inner]))
      | _, _ => .error .malformed
    | some _ => .error .malformed

/-- Adds an empty table to the array of tables at a key, which springs up if there is nothing yet. -/
def appendTable (key : Text) (t : Table) : Except Error Table :=
  match t.find? key with
  | none => .ok (t ++ [(key, .array [.table []])])
  | some (.array items) => .ok (t.replace key (.array (items ++ [.table []])))
  | some _ => .error .malformed

end Table

/-- Whether a value is written as a whole, so that nothing may be added to it from outside. -/
def Value.isCollection : Value → Bool
  | .array _ | .table _ => true
  | _ => false

def isClosed (closed : List Path) (path : Path) : Bool := closed.any fun p => p.isPrefixOf path

/-! Reading configuration documents: values, statements, and the tables that these build up. -/

def stringFrom (quote : Char) (rest : Text) : Except Error (Reading Value (quote :: rest)) :=
  let inner :=
    if startsTriple quote (quote :: rest) then multilineString quote rest
    else lineString quote rest
  inner.map fun r => r.widen (Nat.le_refl _) .string

def afterChar? (c : Char) : (t : Text) → Option { s : Text // s.length < t.length }
  | [] => none
  | d :: rest => if d = c then some ⟨rest, Text.length_lt_cons d rest⟩ else none

mutual

def value : (t : Text) → Except Error (Reading Value t)
  | [] => .error .malformed
  | c :: rest =>
    if c = '"' ∨ c = '\'' then stringFrom c rest
    else if c = '[' then do
      let ⟨s, hs⟩ ← skipAll rest
      match afterChar? ']' s with
      | some ⟨after, ha⟩ =>
        return ⟨(.array [], after), Nat.lt_succ_of_lt (Nat.lt_of_lt_of_le ha hs)⟩
      | none => do
        let r ← items s
        return r.widen (Nat.le_succ_of_le hs) .array
    else if c = '\x7b' then
      let ⟨s, hs⟩ := spaces rest
      match afterChar? '\x7d' s with
      | some ⟨after, ha⟩ =>
        .ok ⟨(.table [], after), Nat.lt_succ_of_lt (Nat.lt_of_lt_of_le ha hs)⟩
      | none => do
        let r ← pairs [] [] s
        return r.widen (Nat.le_succ_of_le hs) .table
    else match scalar? (c :: rest) with
      | none => .error .malformed
      | some (v, n) => do return .ofLength (← v) c rest (n - 1)
termination_by t => 3 * t.length
decreasing_by
  all_goals
    rw [List.length_cons]
    omega

/-- The items of an array, one at least, up to its closing bracket. -/
def items (t : Text) : Except Error (Reading (List Value) t) := do
  let ⟨(v, rest), h⟩ ← value t
  let ⟨s, hs⟩ ← skipAll rest
  have hst : s.length < t.length := Nat.lt_of_le_of_lt hs h
  match afterChar? ']' s with
  | some ⟨after, ha⟩ => return ⟨([v], after), Nat.lt_trans ha hst⟩
  | none =>
    match afterChar? ',' s with
    | none => .error .malformed
    | some ⟨next, hn⟩ => do
      let ⟨u, hu⟩ ← skipAll next
      have hut : u.length < t.length := Nat.lt_of_le_of_lt hu (Nat.lt_trans hn hst)
      match afterChar? ']' u with
      | some ⟨after, ha⟩ => return ⟨([v], after), Nat.lt_trans ha hut⟩
      | none => do
        let r ← items u
        return r.widen (Nat.le_of_lt hut) (v :: ·)
termination_by 3 * t.length + 2
decreasing_by all_goals omega

def pair (t : Text) : Except Error (Reading (Path × Value) t) := do
  let ⟨(k, rest), h⟩ ← key t
  match afterChar? '=' rest with
  | none => .error .malformed
  | some ⟨next, hn⟩ => do
    let ⟨s, hs⟩ := spaces next
    have hst : s.length < t.length := Nat.lt_of_le_of_lt hs (Nat.lt_trans hn h)
    let r ← value s
    return r.widen (Nat.le_of_lt hst) fun v => (k, v)
termination_by 3 * t.length + 1
decreasing_by omega

/-- The entries of a table on one line, one at least, up to its closing brace, after those in
`entries`; the paths in `closed` lead to collections written before. -/
def pairs (entries : Table) (closed : List Path) (t : Text) : Except Error (Reading Table t) := do
  let ⟨((k, v), rest), h⟩ ← pair t
  let some stem := k.getLast? | .error .malformed
  if isClosed closed k then .error .malformed
  let entries ← entries.modifyAt false (Table.insertNew stem v) k.dropLast
  let ⟨s, hs⟩ := spaces rest
  have hst : s.length < t.length := Nat.lt_of_le_of_lt hs h
  match afterChar? '\x7d' s with
  | some ⟨after, ha⟩ => return ⟨(entries, after), Nat.lt_trans ha hst⟩
  | none =>
    match afterChar? ',' s with
    | none => .error .malformed
    | some ⟨next, hn⟩ => do
      let ⟨u, hu⟩ := spaces next
      have hut : u.length < t.length := Nat.lt_of_le_of_lt hu (Nat.lt_trans hn hst)
      let r ← pairs entries (if v.isCollection then k :: closed else closed) u
      return r.widen (Nat.le_of_lt hut) id
termination_by 3 * t.length + 2
decreasing_by all_goals omega

end

/-! ### Statements -/

structure Draft where
  root : Table := []
  /-- The path of the last header. -/
  header : Path := []
  /-- The tables declared by a header, or by dotted keys under an earlier one. -/
  declared : List Path := []
  /-- The tables opened by dotted keys since the last header. -/
  opened : List Path := []
  /-- The collections written as values. -/
  closed : List Path := []

namespace Draft

def assign (d : Draft) (k : Path) (v : Value) : Except Error Draft := do
  let some stem := k.getLast? | .error .malformed
  let parent := d.header ++ k.dropLast
  let onTheWay := (List.range' 1 (k.length - 1)).map fun n => d.header ++ k.take n
  if onTheWay.any d.declared.contains || isClosed d.closed parent then .error .malformed
  let root ← d.root.modifyAt true (Table.insertNew stem v) parent
  return { d with
    root
    opened := onTheWay ++ d.opened
    closed := if v.isCollection then (d.header ++ k) :: d.closed else d.closed }

def endSection (d : Draft) : Draft := { d with declared := d.opened ++ d.declared, opened := [] }

def declareTable (d : Draft) (k : Path) : Except Error Draft := do
  if d.declared.contains k || isClosed d.closed k then .error .malformed
  let root ← d.root.modifyAt true .ok k
  return { d with root, header := k, declared := k :: d.declared }

/-- Declares another table of an array; what was declared inside the last one no longer counts. -/
def declareItem (d : Draft) (k : Path) : Except Error Draft := do
  let some stem := k.getLast? | .error .malformed
  if isClosed d.closed k then .error .malformed
  let outside (paths : List Path) := paths.filter fun p => !k.isPrefixOf p
  let root ← d.root.modifyAt true (Table.appendTable stem) k.dropLast
  return { d with
    root
    header := k
    declared := k :: outside d.declared
    closed := outside d.closed }

end Draft

def headerKey (t : Text) : Except Error (Reading Path t) := do
  let ⟨s, hs⟩ := spaces t
  let r ← key s
  return r.widen hs id

/-- The header of a table behind its bracket, and the draft with the section that it begins. -/
def tableHeader (d : Draft) (t : Text) : Except Error (Reading Draft t) := do
  let ⟨(k, after), h⟩ ← headerKey t
  let d ← d.endSection.declareTable k
  match afterChar? ']' after with
  | some ⟨next, hn⟩ => return ⟨(d, next), Nat.lt_trans hn h⟩
  | none => .error .malformed

/-- The header of an item behind its two brackets, and the draft with the section that it begins. -/
def itemHeader (d : Draft) (t : Text) : Except Error (Reading Draft t) := do
  let ⟨(k, after), h⟩ ← headerKey t
  let d ← d.endSection.declareItem k
  let some ⟨inner, hi⟩ := afterChar? ']' after | .error .malformed
  let some ⟨next, hn⟩ := afterChar? ']' inner | .error .malformed
  return ⟨(d, next), Nat.lt_trans hn (Nat.lt_trans hi h)⟩

/-- A header behind its first bracket, and the draft with the section that it begins. -/
def header (d : Draft) : (t : Text) → Except Error (Reading Draft t)
  | [] => tableHeader d []
  | c :: rest =>
    if c = '[' then (itemHeader d rest).map fun r => r.behind c id
    else tableHeader d (c :: rest)

def statement (d : Draft) : (t : Text) → Except Error (Reading Draft t)
  | [] => .error .malformed
  | c :: rest =>
    if isBareKeyChar c ∨ c = '"' ∨ c = '\'' then do
      let ⟨((k, v), after), h⟩ ← pair (c :: rest)
      let d ← d.assign k v
      return ⟨(d, after), h⟩
    else if c = '[' then (header d rest).map fun r => r.behind c id
    else if c = '#' then
      let comment := rest.takeWhile isCommentChar
      if comment.any isControl then .error .malformed else .ok (.ofLength d c rest comment.length)
    else .error .malformed

/-- The text behind the line feed that ends a line, which may hold only blanks and a comment before. -/
def endLine (t : Text) : Except Error { s : Text // s.length ≤ t.length } := do
  let ⟨s, hs⟩ := spaces t
  match h : skipComment s with
  | .error e => .error e
  | .ok u =>
    have hut : u.length ≤ t.length := Nat.le_trans (length_le_of_skipComment h) hs
    match afterChar? '\n' u with
    | some ⟨next, hn⟩ => return ⟨next, Nat.le_of_lt (Nat.lt_of_lt_of_le hn hut)⟩
    | none => if u = [] then return ⟨u, hut⟩ else .error .malformed

def statements (d : Draft) (t : Text) : Except Error Draft := do
  let ⟨s, hs⟩ := spaces t
  match afterChar? '\n' s with
  | some ⟨next, hn⟩ =>
    have _hnt : next.length < t.length := Nat.lt_of_lt_of_le hn hs
    statements d next
  | none =>
    if s = [] then return d
    else do
      let ⟨(d, after), ha⟩ ← statement d s
      let ⟨next, hn⟩ ← endLine after
      have _hnt : next.length < t.length := Nat.lt_of_le_of_lt hn (Nat.lt_of_lt_of_le ha hs)
      statements d next
termination_by t.length
decreasing_by
  all_goals exact _hnt

/-- The table that a document stands for. Lines may end with a line feed or with a carriage return and a
line feed. -/
def parse (t : Text) : Except Error Table := do
  let d ← statements {} (Text.joinCrLf t)
  return d.root

end Shorthand.Toml
