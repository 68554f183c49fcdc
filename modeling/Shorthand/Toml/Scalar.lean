import Shorthand.Toml.Value

/-! Numbers, dates and times in configuration documents. A reader here takes the longest prefix of its
form and gives the value with the number of characters taken. -/
namespace Shorthand.Toml

inductive Error where
  /-- It breaks the grammar, or the rules on tables and keys. -/
  | malformed
  /-- A decimal integer has more digits than a numeral may have. -/
  | numeralTooLong (digits : Nat)
deriving DecidableEq, Repr

def numeralMessage (digits : Nat) : Text :=
  Text.digitsMessage (": value has ".toList ++ Text.ofNat digits ++ " digits".toList)

/-- The length of a run that goes on with characters of `p`, each with at most one underscore before
it. -/
def runLength (p : Char → Bool) : Text → Nat
  | [] => 0
  | c :: rest =>
    if p c then runLength p rest + 1
    else if c = '_' then
      match rest with
      | [] => 0
      | d :: rest => if p d then runLength p rest + 2 else 0
    else 0

def digitsLength (p : Char → Bool) : Text → Nat
  | [] => 0
  | c :: rest => if p c then runLength p rest + 1 else 0

def digitValue (c : Char) : Nat :=
  if c.isDigit then c.toNat - '0'.toNat
  else if 'a'.toNat ≤ c.toNat then c.toNat - 'a'.toNat + 10
  else c.toNat - 'A'.toNat + 10

/-- The value of a run of digits; underscores do not count. -/
def digitsValue (base : Nat) (run : Text) : Nat :=
  (run.filter (· ≠ '_')).foldl (fun n c => n * base + digitValue c) 0

def isHexDigit (c : Char) : Bool :=
  c.isDigit || ('a' ≤ c && c ≤ 'f') || ('A' ≤ c && c ≤ 'F')

/-- The base that the letter after a leading zero announces, and its digits. -/
def base? : Char → Option (Nat × (Char → Bool))
  | 'x' => some (16, isHexDigit)
  | 'o' => some (8, fun c => '0' ≤ c && c ≤ '7')
  | 'b' => some (2, fun c => c == '0' || c == '1')
  | _ => none

def basedInteger? : Text → Option (Value × Nat)
  | '0' :: letter :: rest =>
    match base? letter with
    | none => none
    | some (base, isBaseDigit) =>
      match digitsLength isBaseDigit rest with
      | 0 => none
      | n + 1 => some (.integer (digitsValue base (rest.take (n + 1))), n + 3)
  | _ => none

def signLength : Text → Nat
  | '+' :: _ | '-' :: _ => 1
  | _ => 0

/-- The length of an integer part: a zero, or digits that do not start with one. -/
def wholeLength : Text → Nat
  | '0' :: _ => 1
  | t => digitsLength Char.isDigit t

def fractionLength : Text → Nat
  | '.' :: rest =>
    match digitsLength Char.isDigit rest with
    | 0 => 0
    | n + 1 => n + 2
  | _ => 0

/-- The length of an exponent: the letter, a sign if there is one, and digits. -/
def exponentLength : Text → Nat
  | c :: rest =>
    if c = 'e' ∨ c = 'E' then
      match digitsLength Char.isDigit (rest.drop (signLength rest)) with
      | 0 => 0
      | n + 1 => n + 2 + signLength rest
    else 0
  | [] => 0

def decimal? (t : Text) : Option (Except Error Value × Nat) :=
  let negative := t.head? = some '-'
  let afterSign := t.drop (signLength t)
  match wholeLength afterSign with
  | 0 => none
  | n + 1 =>
    let whole := (afterSign.take (n + 1)).filter (· ≠ '_')
    let afterWhole := afterSign.drop (n + 1)
    let fraction := ((afterWhole.take (fractionLength afterWhole)).drop 1).filter (· ≠ '_')
    let afterFraction := afterWhole.drop (fractionLength afterWhole)
    let exponent := (afterFraction.take (exponentLength afterFraction)).drop 1
    let length := signLength t + (n + 1) + fractionLength afterWhole + exponentLength afterFraction
    if fraction = [] ∧ exponent = [] then
      if Text.maxDigits < whole.length then some (.error (.numeralTooLong whole.length), length)
      else
        let magnitude : Int := digitsValue 10 whole
        some (.ok (.integer (if negative then -magnitude else magnitude)), length)
    else
      let size : Int := digitsValue 10 (exponent.drop (signLength exponent))
      let power := if exponent.head? = some '-' then -size else size
      some (.ok (.float (.ofDecimal negative (digitsValue 10 (whole ++ fraction))
        (power - fraction.length))), length)

/-- A number by name: infinity or not a number, with or without a sign. -/
def namedFloat? (t : Text) : Option (Value × Nat) :=
  let sign := signLength t
  let name := (t.drop sign).take 3
  if name = "inf".toList then some (.float (.infinity (t.head? = some '-')), sign + 3)
  else if name = "nan".toList then some (.float .nan, sign + 3)
  else none

/-- The value of two decimal digits that is within bounds. -/
def twoDigits? (least greatest : Nat) (c d : Char) : Option Nat :=
  let n := digitValue c * 10 + digitValue d
  if c.isDigit ∧ d.isDigit ∧ least ≤ n ∧ n ≤ greatest then some n else none

/-- A day as ten characters, such as `1979-05-27`; whether the month has that day is not looked at. -/
def date? : Text → Option Date
  | y₁ :: y₂ :: y₃ :: y₄ :: '-' :: m₁ :: m₂ :: '-' :: d₁ :: d₂ :: _ => do
    let century ← twoDigits? 0 99 y₁ y₂
    let year ← twoDigits? 0 99 y₃ y₄
    let month ← twoDigits? 1 12 m₁ m₂
    let day ← twoDigits? 1 31 d₁ d₂
    return ⟨century * 100 + year, month, day⟩
  | _ => none

def daysInMonth (year month : Nat) : Nat :=
  if month = 2 then
    if year % 4 = 0 ∧ (year % 100 ≠ 0 ∨ year % 400 = 0) then 29 else 28
  else if month ∈ [4, 6, 9, 11] then 30 else 31

/-- A day that the calendar has; it has no year zero. -/
def Date.IsValid (d : Date) : Prop := 1 ≤ d.year ∧ d.day ≤ daysInMonth d.year d.month

instance (d : Date) : Decidable d.IsValid := by unfold Date.IsValid; infer_instance

/-- The microseconds of a fraction of a second; digits after the sixth are dropped. -/
def microseconds (digits : Text) : Nat := digitsValue 10 ((digits.take 6).rightpad 6 '0')

/-- A time as eight characters, such as `07:32:00`, with a fraction of a second if there is one. -/
def time? : Text → Option (Time × Nat)
  | h₁ :: h₂ :: ':' :: m₁ :: m₂ :: ':' :: s₁ :: s₂ :: rest => do
    let hour ← twoDigits? 0 23 h₁ h₂
    let minute ← twoDigits? 0 59 m₁ m₂
    let second ← twoDigits? 0 59 s₁ s₂
    let digits := match rest with
      | '.' :: rest => rest.takeWhile Char.isDigit
      | _ => []
    let length := if digits = [] then 8 else 9 + digits.length
    return (⟨hour, minute, second, microseconds digits⟩, length)
  | _ => none

def offset? : Text → Option (Int × Nat)
  | 'Z' :: _ | 'z' :: _ => some (0, 1)
  | sign :: h₁ :: h₂ :: ':' :: m₁ :: m₂ :: _ =>
    if sign = '+' ∨ sign = '-' then do
      let hours ← twoDigits? 0 23 h₁ h₂
      let minutes ← twoDigits? 0 59 m₁ m₂
      let ahead : Int := hours * 60 + minutes
      return (if sign = '-' then -ahead else ahead, 6)
    else none
  | _ => none

/-- A day, or a day and a time with the distance from universal time if it is given. -/
def dateTime? (t : Text) : Option (Except Error Value × Nat) := do
  let date ← date? t
  let checked (v : Value) : Except Error Value :=
    if date.IsValid then .ok v else .error .malformed
  match t.drop 10 with
  | separator :: rest =>
    match if separator ∈ ['T', 't', ' '] then time? rest else none with
    | none => return (checked (.date date), 10)
    | some (time, length) =>
      match offset? (rest.drop length) with
      | none => return (checked (.dateTime date time none), 11 + length)
      | some (offset, n) => return (checked (.dateTime date time (some offset)), 11 + length + n)
  | [] => return (checked (.date date), 10)

def boolean? (t : Text) : Option (Value × Nat) :=
  if "true".toList.isPrefixOf t then some (.boolean true, 4)
  else if "false".toList.isPrefixOf t then some (.boolean false, 5)
  else none

/-- A value that is neither a string nor a collection, with its length. Dates come before times and
these before numbers, since each also starts with the next. -/
def scalar? (t : Text) : Option (Except Error Value × Nat) :=
  (boolean? t).map plain <|> dateTime? t <|> (time? t).map (fun (v, n) => (.ok (.time v), n)) <|>
    (basedInteger? t).map plain <|> decimal? t <|> (namedFloat? t).map plain
where
  /-- A reading that cannot fail any more. -/
  plain (r : Value × Nat) : Except Error Value × Nat := (.ok r.1, r.2)

end Shorthand.Toml
