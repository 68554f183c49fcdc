import Shorthand.Text.Utf8

/-! UTF-8 read and written. Bytes are read as a text exactly if they are what the text is written as. Main
statement: `Utf8.decode_eq_ok_iff`. -/
namespace Shorthand.Utf8

theorem toNat_ofNat_byte {n : Nat} (h : n < 256) : (UInt8.ofNat n).toNat = n := by
  rw [UInt8.toNat_ofNat']
  exact Nat.mod_eq_of_lt h

theorem ofNat_byte_eq {n : Nat} {b : UInt8} (h : n = b.toNat) : UInt8.ofNat n = b := by
  rw [h, UInt8.ofNat_toNat]

theorem lead?_one {b : Nat} (h : b < 0x80) : lead? b = some ⟨0, 0x80, 0xBF, b⟩ := by
  rw [lead?, if_pos h]

theorem lead?_two {b : Nat} (h : 0xC2 ≤ b) (h' : b < 0xE0) :
    lead? b = some ⟨1, 0x80, 0xBF, b - 0xC0⟩ := by
  rw [lead?, if_neg (by omega), if_neg (by omega), if_pos h']

/-- The bounds of the second of three bytes leave out short code points and surrogates. -/
theorem lead?_three {b : Nat} (h : 0xE0 ≤ b) (h' : b < 0xF0) : ∃ least greatest,
    lead? b = some ⟨2, least, greatest, b - 0xE0⟩ ∧ 0x80 ≤ least ∧ greatest ≤ 0xBF ∧
      (least ≠ 0x80 ↔ b = 0xE0) ∧ (greatest ≠ 0xBF ↔ b = 0xED) ∧ (b = 0xE0 → least = 0xA0) ∧
      (b = 0xED → greatest = 0x9F) := by
  by_cases h0 : b = 0xE0
  · subst h0
    exact ⟨0xA0, 0xBF, rfl, by decide⟩
  by_cases hD : b = 0xED
  · subst hD
    exact ⟨0x80, 0x9F, rfl, by decide⟩
  refine ⟨0x80, 0xBF, ?_, by omega⟩
  rw [lead?, if_neg (by omega), if_neg (by omega), if_neg (by omega), if_neg h0, if_neg hD, if_pos h']

/-- The bounds of the second of four bytes leave out short code points and those beyond the last. -/
theorem lead?_four {b : Nat} (h : 0xF0 ≤ b) (h' : b ≤ 0xF4) : ∃ least greatest,
    lead? b = some ⟨3, least, greatest, b - 0xF0⟩ ∧ 0x80 ≤ least ∧ greatest ≤ 0xBF ∧
      (least ≠ 0x80 ↔ b = 0xF0) ∧ (greatest ≠ 0xBF ↔ b = 0xF4) ∧ (b = 0xF0 → least = 0x90) ∧
      (b = 0xF4 → greatest = 0x8F) := by
  by_cases h0 : b = 0xF0
  · subst h0
    exact ⟨0x90, 0xBF, rfl, by decide⟩
  by_cases h4 : b = 0xF4
  · subst h4
    exact ⟨0x80, 0x8F, rfl, by decide⟩
  refine ⟨0x80, 0xBF, ?_, by omega⟩
  rw [lead?, if_neg (by omega), if_neg (by omega), if_neg (by omega), if_neg (by omega), if_neg (by omega),
    if_neg (by omega), if_neg h0, if_pos (by omega)]

/-- The first bytes that announce a character. -/
theorem lead?_cases {b : Nat} {lead : Lead} (h : lead? b = some lead) :
    b < 0x80 ∨ (0xC2 ≤ b ∧ b < 0xE0) ∨ (0xE0 ≤ b ∧ b < 0xF0) ∨ (0xF0 ≤ b ∧ b ≤ 0xF4) := by
  grind [lead?]

theorem continuation_succ {least greatest seen bits more : Nat} {b : UInt8} (rest : List UInt8)
    (hleast : least ≤ b.toNat) (hgreatest : b.toNat ≤ greatest) :
    continuation least greatest seen bits (more + 1) (b :: rest) =
      continuation 0x80 0xBF (seen + 1) (bits * 64 + (b.toNat - 0x80)) more rest := by
  rw [continuation, if_pos ⟨hleast, hgreatest⟩]

/-- A continuation that is read starts with a byte within bounds. -/
theorem continuation_succ_eq_ok {least greatest seen bits more code : Nat} {rest : List UInt8}
    (h : continuation least greatest seen bits (more + 1) rest = .ok code) :
    ∃ b behind, rest = b :: behind ∧ least ≤ b.toNat ∧ b.toNat ≤ greatest ∧
      continuation 0x80 0xBF (seen + 1) (bits * 64 + (b.toNat - 0x80)) more behind = .ok code := by
  cases rest with
  | nil => cases h
  | cons b behind =>
    rw [continuation] at h
    split at h
    · rename_i hbounds
      exact ⟨b, behind, rfl, hbounds.1, hbounds.2, h⟩
    · cases h

/-- A character that is read from its bytes comes before what is read from the bytes behind it. -/
theorem decodeFrom_cons {start code : Nat} {b : UInt8} {rest : List UInt8} {lead : Lead}
    (hl : lead? b.toNat = some lead)
    (hc : continuation lead.least lead.greatest 1 lead.bits lead.more rest = .ok code) :
    decodeFrom start (b :: rest) =
      (decodeFrom (start + 1 + lead.more) (rest.drop lead.more)).map (Char.ofNat code :: ·) := by
  rw [decodeFrom]
  simp only [hl, hc]

/-- A character that is written is read again. -/
theorem read_encodeChar (c : Char) (rest : List UInt8) : ∃ b tail lead,
    String.utf8EncodeChar c ++ rest = b :: tail ∧ lead? b.toNat = some lead ∧
      continuation lead.least lead.greatest 1 lead.bits lead.more tail = .ok c.toNat ∧
      tail.drop lead.more = rest := by
  have hvalid : c.toNat < 0xD800 ∨ (0xDFFF < c.toNat ∧ c.toNat < 0x110000) := c.valid
  have hval : c.val.toNat = c.toNat := rfl
  generalize c.toNat = n at hvalid hval ⊢
  rw [String.utf8EncodeChar, hval]
  have hlast : (UInt8.ofNat (n % 64 + 128)).toNat = n % 64 + 128 := toNat_ofNat_byte (by omega)
  have hsecond : (UInt8.ofNat (n / 64 % 64 + 128)).toNat = n / 64 % 64 + 128 :=
    toNat_ofNat_byte (by omega)
  by_cases h1 : n ≤ 0x7F
  · have hb : (UInt8.ofNat n).toNat = n := toNat_ofNat_byte (by omega)
    have hlead := lead?_one (b := n) (by omega)
    rw [if_pos h1]
    exact ⟨UInt8.ofNat n, rest, _, rfl, by rw [hb, hlead], rfl, rfl⟩
  by_cases h2 : n ≤ 0x7FF
  · have hb : (UInt8.ofNat (n / 64 % 32 + 192)).toNat = n / 64 % 32 + 192 :=
      toNat_ofNat_byte (by omega)
    have hlead := lead?_two (b := n / 64 % 32 + 192) (by omega) (by omega)
    rw [if_neg h1, if_pos h2]
    refine ⟨UInt8.ofNat (n / 64 % 32 + 192), UInt8.ofNat (n % 64 + 128) :: rest, _, rfl,
      by rw [hb, hlead], ?_, rfl⟩
    dsimp only
    rw [continuation_succ _ (by omega) (by omega), continuation, hlast]
    exact congrArg Except.ok (by omega)
  by_cases h3 : n ≤ 0xFFFF
  · have hb : (UInt8.ofNat (n / 4096 % 16 + 224)).toNat = n / 4096 % 16 + 224 :=
      toNat_ofNat_byte (by omega)
    obtain ⟨least, greatest, hlead, hbounds⟩ :=
      lead?_three (b := n / 4096 % 16 + 224) (by omega) (by omega)
    rw [if_neg h1, if_neg h2, if_pos h3]
    refine ⟨UInt8.ofNat (n / 4096 % 16 + 224),
      UInt8.ofNat (n / 64 % 64 + 128) :: UInt8.ofNat (n % 64 + 128) :: rest, _, rfl,
      by rw [hb, hlead], ?_, rfl⟩
    dsimp only
    rw [continuation_succ _ (by omega) (by omega), continuation_succ _ (by omega) (by omega),
      continuation, hsecond, hlast]
    exact congrArg Except.ok (by omega)
  · have hb : (UInt8.ofNat (n / 262144 % 8 + 240)).toNat = n / 262144 % 8 + 240 :=
      toNat_ofNat_byte (by omega)
    have hthird : (UInt8.ofNat (n / 4096 % 64 + 128)).toNat = n / 4096 % 64 + 128 :=
      toNat_ofNat_byte (by omega)
    obtain ⟨least, greatest, hlead, hbounds⟩ :=
      lead?_four (b := n / 262144 % 8 + 240) (by omega) (by omega)
    rw [if_neg h1, if_neg h2, if_neg h3]
    refine ⟨UInt8.ofNat (n / 262144 % 8 + 240), UInt8.ofNat (n / 4096 % 64 + 128) ::
      UInt8.ofNat (n / 64 % 64 + 128) :: UInt8.ofNat (n % 64 + 128) :: rest, _, rfl,
      by rw [hb, hlead], ?_, rfl⟩
    dsimp only
    rw [continuation_succ _ (by omega) (by omega), continuation_succ _ (by omega) (by omega),
      continuation_succ _ (by omega) (by omega), continuation, hthird, hsecond, hlast]
    exact congrArg Except.ok (by omega)

/-- Only a character of one byte is written with a byte below 128, which is its code point. -/
theorem eq_ofNat_of_mem_encodeChar {c : Char} {b : UInt8} (hb : b.toNat < 0x80)
    (h : b ∈ String.utf8EncodeChar c) : c = Char.ofNat b.toNat := by
  have hvalid : c.toNat < 0xD800 ∨ (0xDFFF < c.toNat ∧ c.toNat < 0x110000) := c.valid
  have hval : c.val.toNat = c.toNat := rfl
  suffices hcode : b.toNat = c.toNat by rw [hcode, Char.ofNat_toNat]
  generalize c.toNat = n at hvalid hval ⊢
  rw [String.utf8EncodeChar, hval] at h
  have hlarge : ∀ k, 0x80 ≤ k → k < 0x100 → b ≠ UInt8.ofNat k := by
    rintro k hleast hgreatest rfl
    rw [toNat_ofNat_byte hgreatest] at hb
    omega
  by_cases h1 : n ≤ 0x7F
  · rw [if_pos h1, List.mem_singleton] at h
    rw [h]
    exact toNat_ofNat_byte (by omega)
  rw [if_neg h1] at h
  by_cases h2 : n ≤ 0x7FF
  · rw [if_pos h2] at h
    simp only [List.mem_cons, List.not_mem_nil, or_false] at h
    rcases h with h | h <;> exact absurd h (hlarge _ (by omega) (by omega))
  rw [if_neg h2] at h
  by_cases h3 : n ≤ 0xFFFF
  · rw [if_pos h3] at h
    simp only [List.mem_cons, List.not_mem_nil, or_false] at h
    rcases h with h | h | h <;> exact absurd h (hlarge _ (by omega) (by omega))
  · rw [if_neg h3] at h
    simp only [List.mem_cons, List.not_mem_nil, or_false] at h
    rcases h with h | h | h | h <;> exact absurd h (hlarge _ (by omega) (by omega))

/-- A byte below 128 is written for the character with that code point only. -/
theorem ofNat_mem_of_mem_encode {t : Text} {b : UInt8} (hb : b.toNat < 0x80) (h : b ∈ encode t) :
    Char.ofNat b.toNat ∈ t := by
  obtain ⟨c, hc, hmem⟩ := List.mem_flatMap.mp h
  exact eq_ofNat_of_mem_encodeChar hb hmem ▸ hc

/-- A character that is read is written with the bytes that it was read from. -/
theorem encodeChar_of_read {b : UInt8} {rest : List UInt8} {lead : Lead} {code : Nat}
    (hlead : lead? b.toNat = some lead)
    (hcode : continuation lead.least lead.greatest 1 lead.bits lead.more rest = .ok code) :
    String.utf8EncodeChar (Char.ofNat code) ++ rest.drop lead.more = b :: rest := by
  have hval : ∀ n, n < 0xD800 ∨ (0xDFFF < n ∧ n < 0x110000) → (Char.ofNat n).val.toNat = n :=
    fun n h => by rw [Char.ofNat, dif_pos h]; rfl
  -- The bounds of the second byte leave only code points that need as many bytes as were read.
  rcases lead?_cases hlead with h1 | ⟨h2, h2'⟩ | ⟨h3, h3'⟩ | ⟨h4, h4'⟩
  · rw [lead?_one h1, Option.some.injEq] at hlead
    subst hlead
    have hb : code = b.toNat := by simpa [continuation] using hcode.symm
    rw [String.utf8EncodeChar, hval code (by omega), if_pos (by omega), ofNat_byte_eq hb]
    rfl
  · rw [lead?_two h2 h2', Option.some.injEq] at hlead
    subst hlead
    obtain ⟨c1, rest1, rfl, hl1, hg1, hcode⟩ := continuation_succ_eq_ok hcode
    have hc : (b.toNat - 0xC0) * 64 + (c1.toNat - 0x80) = code := by simpa [continuation] using hcode
    dsimp only at hl1 hg1
    rw [String.utf8EncodeChar, hval code (by omega), if_neg (by omega), if_pos (by omega),
      ofNat_byte_eq (b := b) (by omega), ofNat_byte_eq (b := c1) (by omega)]
    rfl
  · obtain ⟨least, greatest, hlead', hbounds⟩ := lead?_three h3 h3'
    rw [hlead', Option.some.injEq] at hlead
    subst hlead
    obtain ⟨c1, rest1, rfl, hl1, hg1, hcode⟩ := continuation_succ_eq_ok hcode
    obtain ⟨c2, rest2, rfl, hl2, hg2, hcode⟩ := continuation_succ_eq_ok hcode
    have hc : ((b.toNat - 0xE0) * 64 + (c1.toNat - 0x80)) * 64 + (c2.toNat - 0x80) = code := by
      simpa [continuation] using hcode
    dsimp only at hl1 hg1
    rw [String.utf8EncodeChar, hval code (by omega), if_neg (by omega), if_neg (by omega),
      if_pos (by omega), ofNat_byte_eq (b := b) (by omega), ofNat_byte_eq (b := c1) (by omega),
      ofNat_byte_eq (b := c2) (by omega)]
    rfl
  · obtain ⟨least, greatest, hlead', hbounds⟩ := lead?_four h4 h4'
    rw [hlead', Option.some.injEq] at hlead
    subst hlead
    obtain ⟨c1, rest1, rfl, hl1, hg1, hcode⟩ := continuation_succ_eq_ok hcode
    obtain ⟨c2, rest2, rfl, hl2, hg2, hcode⟩ := continuation_succ_eq_ok hcode
    obtain ⟨c3, rest3, rfl, hl3, hg3, hcode⟩ := continuation_succ_eq_ok hcode
    have hc : (((b.toNat - 0xF0) * 64 + (c1.toNat - 0x80)) * 64 + (c2.toNat - 0x80)) * 64 +
        (c3.toNat - 0x80) = code := by simpa [continuation] using hcode
    dsimp only at hl1 hg1
    rw [String.utf8EncodeChar, hval code (by omega), if_neg (by omega), if_neg (by omega),
      if_neg (by omega), ofNat_byte_eq (b := b) (by omega), ofNat_byte_eq (b := c1) (by omega),
      ofNat_byte_eq (b := c2) (by omega), ofNat_byte_eq (b := c3) (by omega)]
    rfl

@[simp] theorem encode_cons (c : Char) (t : Text) :
    encode (c :: t) = String.utf8EncodeChar c ++ encode t := rfl

/-- A text has no more characters than bytes. -/
theorem length_le_length_encode (t : Text) : t.length ≤ (encode t).length := by
  induction t with
  | nil => exact Nat.le_refl _
  | cons c t ih =>
    have hpos := c.utf8Size_pos
    rw [encode_cons, List.length_append, String.length_utf8EncodeChar, List.length_cons]
    omega

/-- What is written is read back, from whatever offset. -/
theorem decodeFrom_encode (t : Text) (start : Nat) : decodeFrom start (encode t) = .ok t := by
  induction t generalizing start with
  | nil => rw [encode, List.flatMap_nil, decodeFrom]
  | cons c t ih =>
    obtain ⟨b, tail, lead, hbytes, hlead, hcode, hdrop⟩ := read_encodeChar c (encode t)
    rw [encode_cons, hbytes, decodeFrom_cons hlead hcode, hdrop, ih, Char.ofNat_toNat]
    rfl

/-- What is read was written with the bytes it was read from. -/
theorem encode_of_decodeFrom {start : Nat} {bytes : List UInt8} {t : Text}
    (h : decodeFrom start bytes = .ok t) : encode t = bytes := by
  induction start, bytes using decodeFrom.induct generalizing t with
  | case1 start =>
    rw [decodeFrom, Except.ok.injEq] at h
    exact h ▸ rfl
  | case2 start b rest hlead =>
    rw [decodeFrom] at h
    simp only [hlead] at h
    cases h
  | case3 start b rest lead hlead length flaw hcode =>
    rw [decodeFrom] at h
    simp only [hlead, hcode] at h
    cases h
  | case4 start b rest lead hlead code hcode ih =>
    rw [decodeFrom_cons hlead hcode] at h
    cases hrest : decodeFrom (start + 1 + lead.more) (rest.drop lead.more) with
    | error m => rw [hrest] at h; cases h
    | ok behind =>
      rw [hrest] at h
      have ht : Char.ofNat code :: behind = t := Except.ok.inj h
      rw [← ht, encode_cons, ih hrest, encodeChar_of_read hlead hcode]

/-- Bytes are read as a text exactly if they are those of the text. -/
theorem decode_eq_ok_iff {bytes : List UInt8} {t : Text} : decode bytes = .ok t ↔ encode t = bytes :=
  ⟨encode_of_decodeFrom, fun h => h ▸ decodeFrom_encode t 0⟩

end Shorthand.Utf8
