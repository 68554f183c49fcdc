import Shorthand.Text.Basic

/-! UTF-8. `Utf8.decode` reads a sequence of bytes or finds its first malformed part: a byte that starts
no character, or a character whose bytes break off. A character that breaks off is malformed as far as
its bytes could have begun one, so a bad continuation byte is not part of it. -/
namespace Shorthand.Utf8

inductive Flaw where
  /-- The byte starts no character. -/
  | badStart
  /-- The next byte does not continue the character. -/
  | badContinuation
  /-- The bytes end inside the character. -/
  | truncated
deriving DecidableEq, Repr

/-- The first malformed part of a sequence of bytes. -/
structure Malformed where
  /-- The number of bytes before it, which form whole characters. -/
  start : Nat
  /-- Its length in bytes. -/
  length : Nat
  flaw : Flaw
deriving DecidableEq, Repr

def encode (t : Text) : List UInt8 := t.flatMap String.utf8EncodeChar

/-- What a first byte announces: how many continuation bytes follow, the bounds of the first of them,
and its own share of the code point. -/
structure Lead where
  more : Nat
  least : Nat
  greatest : Nat
  bits : Nat

/-- The announcement of a first byte that starts a character. The bounds leave out overlong forms,
surrogates and everything beyond U+10FFFF. -/
def lead? (b : Nat) : Option Lead :=
  if b < 0x80 then some ⟨0, 0x80, 0xBF, b⟩
  else if b < 0xC2 then none
  else if b < 0xE0 then some ⟨1, 0x80, 0xBF, b - 0xC0⟩
  else if b = 0xE0 then some ⟨2, 0xA0, 0xBF, 0⟩
  else if b = 0xED then some ⟨2, 0x80, 0x9F, 0xD⟩
  else if b < 0xF0 then some ⟨2, 0x80, 0xBF, b - 0xE0⟩
  else if b = 0xF0 then some ⟨3, 0x90, 0xBF, 0⟩
  else if b < 0xF4 then some ⟨3, 0x80, 0xBF, b - 0xF0⟩
  else if b = 0xF4 then some ⟨3, 0x80, 0x8F, 4⟩
  else none

/-- Reads `more` continuation bytes, the first within the given bounds, after a character's first
`seen` bytes, whose bits are `bits`. Gives the code point, or the length of the part that breaks off. -/
def continuation (least greatest seen bits : Nat) : Nat → List UInt8 → Except (Nat × Flaw) Nat
  | 0, _ => .ok bits
  | _ + 1, [] => .error (seen, .truncated)
  | more + 1, b :: rest =>
    if least ≤ b.toNat ∧ b.toNat ≤ greatest then
      continuation 0x80 0xBF (seen + 1) (bits * 64 + (b.toNat - 0x80)) more rest
    else .error (seen, .badContinuation)

def decodeFrom (start : Nat) : List UInt8 → Except Malformed Text
  | [] => .ok []
  | b :: rest =>
    match lead? b.toNat with
    | none => .error ⟨start, 1, .badStart⟩
    | some lead =>
      match continuation lead.least lead.greatest 1 lead.bits lead.more rest with
      | .error (length, flaw) => .error ⟨start, length, flaw⟩
      | .ok code =>
        (decodeFrom (start + 1 + lead.more) (rest.drop lead.more)).map (Char.ofNat code :: ·)
termination_by bytes => bytes.length
decreasing_by simp only [List.length_cons, List.length_drop]; omega

/-- The text that the bytes encode, or their first malformed part. -/
def decode (bytes : List UInt8) : Except Malformed Text := decodeFrom 0 bytes

end Shorthand.Utf8
