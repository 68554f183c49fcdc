/-! Text as the list of its characters, with the cuts and joins that the rest of the library needs.
Every length, column and offset counts characters. -/
namespace Shorthand

/-- A text, character by character. -/
abbrev Text := List Char

namespace Text

def prepend (c : Char) : List Text → List Text
  | [] => [[c]]
  | piece :: pieces => (c :: piece) :: pieces

/-- The pieces between the occurrences of `sep`; there is always at least one. -/
def cut (sep : Char) (t : Text) : List Text :=
  t.foldr (fun c pieces => if c = sep then [] :: pieces else prepend c pieces) [[]]

def lines (t : Text) : List Text := cut '\n' t

def join (sep : Text) (pieces : List Text) : Text := List.intercalate sep pieces

/-- What follows the last line feed, or the whole text if it has none. -/
def lastLine (t : Text) : Text := (t.reverse.takeWhile (· ≠ '\n')).reverse

/-- Whether `part` occurs in `t` as a run of neighbouring characters. -/
def hasInfix (part t : Text) : Bool :=
  match t with
  | [] => part.isEmpty
  | c :: rest => part.isPrefixOf (c :: rest) || hasInfix part rest

def ofNat (n : Nat) : Text := Nat.toDigits 10 n

/-- The decimal numeral of an integer, with a minus sign if it is negative. -/
def ofInt : Int → Text
  | .ofNat n => ofNat n
  | .negSucc n => '-' :: ofNat (n + 1)

/-- The greatest number of digits that a decimal numeral is read or written with. -/
def maxDigits : Nat := 4300

def isWritable (n : Int) : Bool := (ofNat n.natAbs).length ≤ maxDigits

def digitsMessage (remark : Text) : Text :=
  "Exceeds the limit (".toList ++ ofNat maxDigits ++ " digits) for integer string conversion".toList ++
    remark ++ "; use sys.set_int_max_str_digits() to increase the limit".toList

theorem length_lt_cons (c : Char) (t : Text) : t.length < (c :: t).length := Nat.lt_succ_self _

theorem prepend_ne_nil (c : Char) (pieces : List Text) : prepend c pieces ≠ [] := by
  cases pieces <;> simp [prepend]

theorem cut_ne_nil (sep : Char) (t : Text) : cut sep t ≠ [] := by
  cases t with
  | nil => simp [cut]
  | cons c rest =>
    simp only [cut, List.foldr_cons]
    split
    · simp
    · exact prepend_ne_nil c _

@[simp] theorem cut_nil (sep : Char) : cut sep [] = [[]] := rfl

@[simp] theorem cut_cons_self (sep : Char) (t : Text) : cut sep (sep :: t) = [] :: cut sep t := by
  simp [cut]

theorem cut_cons_of_ne {c sep : Char} (h : c ≠ sep) (t : Text) :
    cut sep (c :: t) = prepend c (cut sep t) := by
  simp [cut, h]

theorem cut_of_notMem {sep : Char} {t : Text} (h : sep ∉ t) : cut sep t = [t] := by
  induction t with
  | nil => rfl
  | cons c rest ih =>
    have hc : c ≠ sep := fun he => h (he ▸ List.mem_cons_self)
    have hrest : sep ∉ rest := fun hm => h (List.mem_cons_of_mem c hm)
    rw [cut_cons_of_ne hc, ih hrest]
    rfl

/-- A prefix that stops inside a list stops there whatever follows the list. -/
theorem takeWhile_append_of_mem {p : Char → Bool} {s : Text} {c : Char} (h : c ∈ s)
    (hp : p c = false) (t : Text) : (s ++ t).takeWhile p = s.takeWhile p := by
  induction s with
  | nil => simp at h
  | cons d rest ih =>
    by_cases hd : p d = true
    · have hrest : c ∈ rest := by
        rcases List.mem_cons.1 h with rfl | hm
        · simp [hp] at hd
        · exact hm
      simp only [List.cons_append, List.takeWhile_cons, hd, if_true, ih hrest]
    · simp [List.cons_append, hd]

theorem lastLine_append_of_mem (s : Text) {t : Text} (h : '\n' ∈ t) :
    lastLine (s ++ t) = lastLine t := by
  simp only [lastLine, List.reverse_append]
  rw [takeWhile_append_of_mem (List.mem_reverse.2 h) (by simp)]

theorem lastLine_append_of_notMem (s : Text) {t : Text} (h : '\n' ∉ t) :
    lastLine (s ++ t) = lastLine s ++ t := by
  have hall : ∀ c ∈ t.reverse, decide (c ≠ '\n') = true := by
    intro c hc
    have hne : c ≠ '\n' := fun he => h (he ▸ List.mem_reverse.1 hc)
    simpa using hne
  simp only [lastLine, List.reverse_append]
  rw [List.takeWhile_append_of_pos hall, List.reverse_append, List.reverse_reverse]

theorem mem_ofInt {n : Int} {c : Char} (h : c ∈ ofInt n) : c.isDigit = true ∨ c = '-' := by
  have hdigit : ∀ {k : Nat}, c ∈ ofNat k → c.isDigit = true :=
    fun h => Nat.isDigit_of_mem_toDigits (by decide) (by decide) h
  cases n with
  | ofNat k => exact .inl (hdigit h)
  | negSucc k =>
    rcases List.mem_cons.mp h with rfl | h
    · exact .inr rfl
    · exact .inl (hdigit h)

theorem ofInt_ne_nil (n : Int) : ofInt n ≠ [] := by
  cases n with
  | ofNat k => exact Nat.toDigits_ne_nil
  | negSucc k => exact List.cons_ne_nil _ _

theorem ofInt_inj {m n : Int} (h : ofInt m = ofInt n) : m = n := by
  have hread : ∀ {k l : Nat}, ofNat k = ofNat l → k = l := by
    intro k l hkl
    calc
      k = Nat.ofDigitChars 10 (ofNat k) 0 := Nat.ofDigitChars_ten_toDigits.symm
      _ = Nat.ofDigitChars 10 (ofNat l) 0 := by rw [hkl]
      _ = l := Nat.ofDigitChars_ten_toDigits
  have hminus : ∀ {k l : Nat}, ofNat k ≠ '-' :: ofNat l := by
    intro k l hkl
    have hmem : '-' ∈ ofNat k := hkl ▸ List.mem_cons_self
    exact absurd (Nat.isDigit_of_mem_toDigits (by decide) (by decide) hmem) (by decide)
  cases m with
  | ofNat k =>
    cases n with
    | ofNat l => exact congrArg Int.ofNat (hread h)
    | negSucc l => exact absurd h hminus
  | negSucc k =>
    cases n with
    | ofNat l => exact absurd h.symm hminus
    | negSucc l => exact congrArg Int.negSucc (Nat.succ.inj (hread (List.cons.inj h).2))

/-! Line breaks. Files may end their lines with a line feed, a carriage return or both; inside the
library a line ends with a line feed alone. -/

/-- Writes every carriage return that a line feed follows, together with it, as one line feed. -/
def joinCrLf : Text → Text
  | '\r' :: '\n' :: rest => '\n' :: joinCrLf rest
  | c :: rest => c :: joinCrLf rest
  | [] => []

def unifyLineBreaks (t : Text) : Text :=
  (joinCrLf t).map fun c => if c = '\r' then '\n' else c

theorem cr_notMem_unifyLineBreaks (t : Text) : '\r' ∉ unifyLineBreaks t := by
  simp only [unifyLineBreaks, List.mem_map, not_exists, not_and]
  intro c _
  split
  · decide
  · assumption

example : unifyLineBreaks "a\r\nb\rc\n\r\r\n".toList = "a\nb\nc\n\n\n".toList := by decide

end Text

end Shorthand
