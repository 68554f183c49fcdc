import Shorthand.Decimal
import Shorthand.Text.Quoted

/-! Values of configuration documents. A table keeps its entries in the order in which their keys were
first written. -/
namespace Shorthand.Toml

structure Date where
  year : Nat
  month : Nat
  day : Nat
deriving DecidableEq, Repr

structure Time where
  hour : Nat
  minute : Nat
  second : Nat
  microsecond : Nat := 0
deriving DecidableEq, Repr

inductive Value where
  | string (text : Text)
  | integer (value : Int)
  | float (value : Double)
  | boolean (value : Bool)
  | date (date : Date)
  | time (time : Time)
  /-- A day and a time, with the minutes that its clock is ahead of universal time, if they are given. -/
  | dateTime (date : Date) (time : Time) (offset : Option Int)
  | array (items : List Value)
  | table (entries : List (Text × Value))
deriving Repr

abbrev Table := List (Text × Value)

mutual

/-- Values are compared as deep as they go. -/
def Value.decEq (v w : Value) : Decidable (v = w) :=
  if h : v.ctorIdx = w.ctorIdx then
    match v, w, h with
    | .string t, .string u, _ => decidable_of_iff (t = u) (by rw [string.injEq])
    | .integer m, .integer n, _ => decidable_of_iff (m = n) (by rw [integer.injEq])
    | .float x, .float y, _ => decidable_of_iff (x = y) (by rw [float.injEq])
    | .boolean b, .boolean c, _ => decidable_of_iff (b = c) (by rw [boolean.injEq])
    | .date d, .date e, _ => decidable_of_iff (d = e) (by rw [date.injEq])
    | .time t, .time u, _ => decidable_of_iff (t = u) (by rw [time.injEq])
    | .dateTime d t o, .dateTime e u p, _ =>
      decidable_of_iff (d = e ∧ t = u ∧ o = p) (by rw [dateTime.injEq])
    | .array vs, .array ws, _ =>
      have := Value.decEqAll vs ws
      decidable_of_iff (vs = ws) (by rw [array.injEq])
    | .table vs, .table ws, _ =>
      have := Value.decEqEntries vs ws
      decidable_of_iff (vs = ws) (by rw [table.injEq])
  else .isFalse fun hvw => h (hvw ▸ rfl)

def Value.decEqAll : (vs ws : List Value) → Decidable (vs = ws)
  | [], [] => .isTrue rfl
  | v :: vs, w :: ws =>
    have := Value.decEq v w
    have := Value.decEqAll vs ws
    decidable_of_iff (v = w ∧ vs = ws) (by rw [List.cons.injEq])
  | [], _ :: _ => .isFalse (List.cons_ne_nil _ _).symm
  | _ :: _, [] => .isFalse (List.cons_ne_nil _ _)

def Value.decEqEntries : (vs ws : Table) → Decidable (vs = ws)
  | [], [] => .isTrue rfl
  | (key, v) :: vs, (key', w) :: ws =>
    have := Value.decEq v w
    have := Value.decEqEntries vs ws
    decidable_of_iff ((key = key' ∧ v = w) ∧ vs = ws) (by rw [List.cons.injEq, Prod.mk.injEq])
  | [], _ :: _ => .isFalse (List.cons_ne_nil _ _).symm
  | _ :: _, [] => .isFalse (List.cons_ne_nil _ _)

end

instance : DecidableEq Value := Value.decEq

def Table.find? (t : Table) (key : Text) : Option Value := List.lookup key t

/-- Gives an entry that is already there another value. -/
def Table.replace (t : Table) (key : Text) (value : Value) : Table :=
  t.map fun entry => if entry.1 = key then (key, value) else entry

namespace Table

def contains (t : Table) (key : Text) : Bool := (t.find? key).isSome

end Table

/-! The text of values, as messages and arguments show it. In full, a value is written so that its kind
can be told; a string, day or time that stands for itself is shown plainly. -/

def twoDigits (n : Nat) : Text := (Text.ofNat n).leftpad 2 '0'

def Date.plain (d : Date) : Text :=
  (Text.ofNat d.year).leftpad 4 '0' ++ '-' :: twoDigits d.month ++ '-' :: twoDigits d.day

/-- Hour, minute and second with colons between them, and the microseconds unless they are zero. -/
def Time.plain (t : Time) : Text :=
  twoDigits t.hour ++ ':' :: twoDigits t.minute ++ ':' :: twoDigits t.second ++
    if t.microsecond = 0 then [] else '.' :: (Text.ofNat t.microsecond).leftpad 6 '0'

def offsetPlain (minutes : Int) : Text :=
  (if minutes < 0 then '-' else '+') :: twoDigits (minutes.natAbs / 60) ++
    ':' :: twoDigits (minutes.natAbs % 60)

def call (name : String) (args : List Text) : Text :=
  name.toList ++ '(' :: Text.join ", ".toList args ++ [')']

def named (name : String) (value : Text) : Text := name.toList ++ '=' :: value

/-- The arguments that stand for a time: seconds are left out if all from them on are zero. -/
def Time.arguments (t : Time) : List Text :=
  let parts :=
    if t.microsecond ≠ 0 then [t.hour, t.minute, t.second, t.microsecond]
    else if t.second ≠ 0 then [t.hour, t.minute, t.second]
    else [t.hour, t.minute]
  parts.map Text.ofNat

def Date.arguments (d : Date) : List Text := [d.year, d.month, d.day].map Text.ofNat

/-- The zone with a fixed distance from universal time, which is written in whole days and the seconds
ahead of them. -/
def offsetInFull (minutes : Int) : Text :=
  if minutes = 0 then "datetime.timezone.utc".toList
  else
    let days := Int.fdiv minutes 1440
    let seconds := Int.fmod minutes 1440 * 60
    let parts := (if days = 0 then [] else [named "days" (Text.ofInt days)]) ++
      (if seconds = 0 then [] else [named "seconds" (Text.ofInt seconds)])
    call "datetime.timezone" [call "datetime.timedelta" parts]

def booleanText (b : Bool) : Text := if b then "True".toList else "False".toList

mutual

def Value.inFull : Value → Text
  | .string text => text.quoted
  | .integer n => Text.ofInt n
  | .float x => Decimal.write x
  | .boolean b => booleanText b
  | .date d => call "datetime.date" d.arguments
  | .time t => call "datetime.time" t.arguments
  | .dateTime d t none => call "datetime.datetime" (d.arguments ++ t.arguments)
  | .dateTime d t (some offset) =>
    call "datetime.datetime" (d.arguments ++ t.arguments ++ [named "tzinfo" (offsetInFull offset)])
  | .array items => '[' :: Text.join ", ".toList (Value.allInFull items) ++ [']']
  | .table entries => '\x7b' :: Text.join ", ".toList (Value.entriesInFull entries) ++ ['\x7d']

def Value.allInFull : List Value → List Text
  | [] => []
  | v :: vs => v.inFull :: Value.allInFull vs

def Value.entriesInFull : List (Text × Value) → List Text
  | [] => []
  | (key, v) :: entries => (key.quoted ++ ": ".toList ++ v.inFull) :: Value.entriesInFull entries

end

mutual

/-- Whether a value can be shown: no integer in it has too many digits. -/
def Value.isWritable : Value → Bool
  | .integer n => Text.isWritable n
  | .array items => Value.allWritable items
  | .table entries => Value.entriesWritable entries
  | _ => true

def Value.allWritable : List Value → Bool
  | [] => true
  | v :: vs => v.isWritable && Value.allWritable vs

def Value.entriesWritable : List (Text × Value) → Bool
  | [] => true
  | (_, v) :: entries => v.isWritable && Value.entriesWritable entries

end

def Value.plain : Value → Text
  | .string text => text
  | .date d => d.plain
  | .time t => t.plain
  | .dateTime d t offset => d.plain ++ ' ' :: t.plain ++ (offset.map offsetPlain).getD []
  | v => v.inFull

def Value.kindName : Value → Text
  | .string _ => "str".toList
  | .integer _ => "int".toList
  | .float _ => "float".toList
  | .boolean _ => "bool".toList
  | .date _ => "datetime.date".toList
  | .time _ => "datetime.time".toList
  | .dateTime .. => "datetime.datetime".toList
  | .array _ => "list".toList
  | .table _ => "dict".toList

end Shorthand.Toml
