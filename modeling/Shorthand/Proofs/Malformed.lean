import Shorthand.Proofs.Atomicity
import Shorthand.Proofs.LineBreaks
import Shorthand.Proofs.SourceLines

/-! Sources that are not UTF-8. They are refused at the first byte from which no character can be read. Its
line is counted in line feeds, before any line break is unified, so it is that of the unified text unless a
carriage return stands alone in front of it. Main statement: `expandFile_undecodable`. -/
namespace Shorthand

namespace Text

variable {c : Char} {t : Text}

/-- Somewhere in a text there is a carriage return that no line feed follows. -/
def HasLoneReturn (t : Text) : Prop :=
  ∃ before behind : Text, t = before ++ '\r' :: behind ∧ behind.head? ≠ some '\n'

theorem not_hasLoneReturn_nil : ¬ HasLoneReturn [] := by
  rintro ⟨before, behind, h, -⟩
  exact absurd h.symm (List.append_ne_nil_of_right_ne_nil _ (List.cons_ne_nil _ _))

/-- A lone return is at the start or further on. -/
theorem hasLoneReturn_cons :
    HasLoneReturn (c :: t) ↔ (c = '\r' ∧ t.head? ≠ some '\n') ∨ HasLoneReturn t := by
  constructor
  · rintro ⟨before, behind, h, hhead⟩
    cases before with
    | nil =>
      obtain ⟨rfl, rfl⟩ := List.cons.inj h
      exact .inl ⟨rfl, hhead⟩
    | cons d before =>
      obtain ⟨-, rfl⟩ := List.cons.inj h
      exact .inr ⟨before, behind, rfl, hhead⟩
  · rintro (⟨rfl, hhead⟩ | ⟨before, behind, rfl, hhead⟩)
    · exact ⟨[], t, rfl, hhead⟩
    · exact ⟨c :: before, behind, rfl, hhead⟩

/-- Where no pair begins, joining goes on to the next character. -/
theorem joinCrLf_cons (h : ∀ rest, c = '\r' → t = '\n' :: rest → False) :
    joinCrLf (c :: t) = c :: joinCrLf t := by
  rw [joinCrLf]
  exact h

/-- The carriage returns that are left when pairs are joined are the lone ones. -/
theorem cr_mem_joinCrLf (t : Text) : '\r' ∈ joinCrLf t ↔ HasLoneReturn t := by
  induction t using joinCrLf.induct with
  | case1 rest ih =>
    have hpair : ¬ ('\r' = '\r' ∧ ('\n' :: rest).head? ≠ some '\n') := fun h => h.2 rfl
    have hfeed : ¬ ('\n' = '\r' ∧ rest.head? ≠ some '\n') := fun h => absurd h.1 (by decide)
    rw [joinCrLf, List.mem_cons, ih, hasLoneReturn_cons, hasLoneReturn_cons, or_iff_right hpair,
      or_iff_right hfeed, or_iff_right (by decide)]
  | case2 c rest hpair ih =>
    have hlone : '\r' = c ↔ c = '\r' ∧ rest.head? ≠ some '\n' := by
      refine ⟨fun hc => ⟨hc.symm, fun hhead => ?_⟩, fun h => h.1.symm⟩
      obtain ⟨behind, hrest⟩ := List.head?_eq_some_iff.mp hhead
      exact hpair behind hc.symm hrest
    rw [joinCrLf_cons hpair, List.mem_cons, ih, hasLoneReturn_cons, hlone]
  | case3 => exact iff_of_false List.not_mem_nil not_hasLoneReturn_nil

/-- Joining returns and feeds keeps the number of feeds. -/
theorem count_joinCrLf (t : Text) : (joinCrLf t).count '\n' = t.count '\n' := by
  induction t using joinCrLf.induct with
  | case1 rest ih =>
    rw [joinCrLf, List.count_cons_self, ih, List.count_cons_of_ne (by decide), List.count_cons_self]
  | case2 c rest hpair ih =>
    rw [joinCrLf_cons hpair, List.count_cons, List.count_cons, ih]
  | case3 => rfl

theorem count_feed_map (t : Text) :
    (t.map fun c => if c = '\r' then '\n' else c).count '\n' = t.count '\n' + t.count '\r' := by
  induction t with
  | nil => rfl
  | cons c t ih =>
    rw [List.map_cons]
    by_cases hcr : c = '\r'
    · rw [if_pos hcr, hcr, List.count_cons_self, List.count_cons_self, List.count_cons_of_ne (by decide), ih]
      rfl
    · rw [if_neg hcr, List.count_cons_of_ne hcr, List.count_cons, List.count_cons, ih]
      omega

/-- Unified line breaks are the line feeds that were there, and one for each carriage return that is left
when pairs are joined. -/
theorem count_unifyLineBreaks (t : Text) :
    (unifyLineBreaks t).count '\n' = t.count '\n' + (joinCrLf t).count '\r' := by
  rw [unifyLineBreaks, count_feed_map, count_joinCrLf]

theorem unifyLineBreaks_of_not_lone (h : ¬ HasLoneReturn t) : unifyLineBreaks t = joinCrLf t := by
  have hnone : '\r' ∉ joinCrLf t := mt (cr_mem_joinCrLf t).mp h
  have hfixed : ∀ c ∈ joinCrLf t, (if c = '\r' then '\n' else c) = c := by
    intro c hc
    exact if_neg fun he : c = '\r' => hnone (he ▸ hc)
  rw [unifyLineBreaks, List.map_congr_left hfixed, List.map_id']

/-- Behind the last line feed there is no pair to be joined. -/
theorem lastLine_joinCrLf (t : Text) : lastLine (joinCrLf t) = lastLine t := by
  induction t using joinCrLf.induct with
  | case1 rest ih =>
    have hfeed : '\n' ∈ '\n' :: rest := List.mem_cons_self
    have hlast := lastLine_append_of_mem ['\r'] hfeed
    calc lastLine (joinCrLf ('\r' :: '\n' :: rest))
        = lastLine ('\n' :: joinCrLf rest) := by rw [joinCrLf]
      _ = lastLine rest := by rw [lastLine_line, ih]
      _ = lastLine ('\n' :: rest) := (lastLine_line rest).symm
      _ = lastLine ('\r' :: '\n' :: rest) := hlast.symm
  | case2 c rest hpair ih =>
    have hiff : '\n' ∈ joinCrLf rest ↔ '\n' ∈ rest := by
      rw [← List.count_pos_iff, ← List.count_pos_iff, count_joinCrLf]
    rw [joinCrLf_cons hpair]
    by_cases hfeed : '\n' ∈ rest
    · have hleft := lastLine_append_of_mem [c] (hiff.mpr hfeed)
      have hright := lastLine_append_of_mem [c] hfeed
      exact hleft.trans (ih.trans hright.symm)
    · have hsame : joinCrLf rest = rest := by
        rw [lastLine_of_notMem hfeed, lastLine_of_notMem (mt hiff.mp hfeed)] at ih
        exact ih
      rw [hsame]
  | case3 => rfl

theorem feed_notMem_lastLine (t : Text) : '\n' ∉ lastLine t := by
  intro hmem
  have hall := List.all_eq_true.mp (List.all_takeWhile (p := (· ≠ '\n')) (l := t.reverse))
  exact absurd (hall '\n' (List.mem_reverse.mp hmem)) (by decide)

/-- A text with a line feed is its last line below the lines above. -/
theorem exists_lines_above (h : '\n' ∈ t) : ∃ above, t = above ++ '\n' :: lastLine t := by
  induction t with
  | nil => cases h
  | cons c t ih =>
    by_cases hfeed : '\n' ∈ t
    · obtain ⟨above, habove⟩ := ih hfeed
      have hlast : lastLine (c :: t) = lastLine t := lastLine_append_of_mem [c] hfeed
      exact ⟨c :: above, by rw [hlast, List.cons_append, ← habove]⟩
    · obtain rfl : '\n' = c := (List.mem_cons.mp h).resolve_right hfeed
      exact ⟨[], by rw [lastLine_line, lastLine_of_notMem hfeed, List.nil_append]⟩

end Text

namespace Utf8

variable {start : Nat} {bytes rest : List UInt8} {m : Malformed} {b : UInt8} {c : Char}

theorem encode_ne_of_decode (h : (decode bytes).toOption = none) (t : Text) : encode t ≠ bytes := by
  intro ht
  rw [decode_eq_ok_iff.mpr ht] at h
  cases h

/-- Different texts have different bytes. -/
theorem encode_injective : Function.Injective encode := by
  intro s t h
  have hs : decode (encode t) = .ok s := decode_eq_ok_iff.mpr h
  have ht : decode (encode t) = .ok t := decode_eq_ok_iff.mpr rfl
  exact Except.ok.inj (hs.symm.trans ht)

/-- Where the bytes of a character begin, one is read. -/
theorem exists_read_of_prefix (h : String.utf8EncodeChar c <+: b :: rest) : ∃ lead code,
    lead? b.toNat = some lead ∧
      continuation lead.least lead.greatest 1 lead.bits lead.more rest = .ok code := by
  obtain ⟨behind, hbytes⟩ := h
  obtain ⟨b', tail, lead, hread, hlead, hcode, -⟩ := read_encodeChar c behind
  rw [hbytes] at hread
  obtain ⟨rfl, rfl⟩ := List.cons.inj hread
  exact ⟨lead, _, hlead, hcode⟩

/-- Bytes that are not UTF-8 fall into those of a text and a rest that begins with no character; and the
malformed part is where the rest begins. -/
theorem exists_of_decodeFrom_error (h : decodeFrom start bytes = .error m) : ∃ (t : Text) (rest : List UInt8),
    bytes = encode t ++ rest ∧ m.start = start + (encode t).length ∧ rest ≠ [] ∧
      ∀ c, ¬ String.utf8EncodeChar c <+: rest := by
  -- The recursion takes one character at a time, and each of them goes in front of the text.
  induction start, bytes using decodeFrom.induct generalizing m with
  | case1 start =>
    rw [decodeFrom] at h
    cases h
  | case2 start b rest hlead =>
    rw [decodeFrom] at h
    simp only [hlead] at h
    obtain rfl := Except.error.inj h
    refine ⟨[], b :: rest, rfl, rfl, List.cons_ne_nil _ _, fun c hc => ?_⟩
    obtain ⟨lead, code, hlead', -⟩ := exists_read_of_prefix hc
    rw [hlead] at hlead'
    cases hlead'
  | case3 start b rest lead hlead length flaw hcode =>
    rw [decodeFrom] at h
    simp only [hlead, hcode] at h
    obtain rfl := Except.error.inj h
    refine ⟨[], b :: rest, rfl, rfl, List.cons_ne_nil _ _, fun c hc => ?_⟩
    obtain ⟨lead', code, hlead', hcode'⟩ := exists_read_of_prefix hc
    obtain rfl : lead = lead' := Option.some.inj (hlead.symm.trans hlead')
    rw [hcode] at hcode'
    cases hcode'
  | case4 start b rest lead hlead code hcode ih =>
    rw [decodeFrom_cons hlead hcode] at h
    cases hrest : decodeFrom (start + 1 + lead.more) (rest.drop lead.more) with
    | ok behind =>
      rw [hrest] at h
      cases h
    | error m' =>
      rw [hrest] at h
      obtain rfl : m' = m := Except.error.inj h
      obtain ⟨t, stuck, hbytes, hstart, hne, hnone⟩ := ih hrest
      have hread := encodeChar_of_read hlead hcode
      refine ⟨Char.ofNat code :: t, stuck, ?_, ?_, hne, hnone⟩
      · rw [encode_cons, List.append_assoc, ← hbytes, hread]
      · have hlength := congrArg List.length hread
        have hbehind := congrArg List.length hbytes
        have hpos := List.length_pos_iff.mpr hne
        rw [List.length_append, List.length_drop, List.length_cons] at hlength
        rw [List.length_append, List.length_drop] at hbehind
        rw [encode_cons, List.length_append, hstart]
        omega

/-- Only a line feed is written with the byte of a line feed. -/
theorem count_feed_encodeChar (c : Char) :
    (String.utf8EncodeChar c).count 10 = if c = '\n' then 1 else 0 := by
  by_cases hc : c = '\n'
  · rw [if_pos hc, hc]
    rfl
  · rw [if_neg hc, List.count_eq_zero]
    exact fun hb => hc (eq_ofNat_of_mem_encodeChar (by decide) hb)

/-- Line feeds are bytes of their own, so they are counted in either form. -/
theorem count_feed_encode (t : Text) : (encode t).count 10 = t.count '\n' := by
  induction t with
  | nil => rfl
  | cons c t ih =>
    rw [encode_cons, List.count_append, count_feed_encodeChar, ih, List.count_cons, Nat.add_comm]
    simp only [beq_iff_eq]

theorem encode_append (s t : Text) : encode (s ++ t) = encode s ++ encode t := List.flatMap_append

/-- The bytes behind the last line feed are those of the last line. -/
theorem takeWhile_encode (t : Text) :
    (encode t).reverse.takeWhile (· ≠ 10) = (encode (Text.lastLine t)).reverse := by
  have hlast : ∀ b ∈ (encode (Text.lastLine t)).reverse, decide (b ≠ 10) = true := by
    intro b hb
    refine decide_eq_true fun he => Text.feed_notMem_lastLine t ?_
    rw [List.mem_reverse, he] at hb
    exact ofNat_mem_of_mem_encode (by decide) hb
  obtain ⟨above, hbytes, habove⟩ : ∃ above,
      (encode t).reverse = (encode (Text.lastLine t)).reverse ++ above ∧ above.takeWhile (· ≠ 10) = [] := by
    by_cases hfeed : '\n' ∈ t
    · obtain ⟨above, habove⟩ := Text.exists_lines_above hfeed
      refine ⟨10 :: (encode above).reverse, ?_, List.takeWhile_cons_of_neg (by decide)⟩
      conv_lhs => rw [habove, encode_append, encode_cons, List.reverse_append, List.reverse_append]
      rw [List.append_assoc]
      rfl
    · rw [Text.lastLine_of_notMem hfeed]
      exact ⟨[], (List.append_nil _).symm, rfl⟩
  rw [hbytes, List.takeWhile_append_of_pos hlast, habove, List.append_nil]

/-- Behind a prefix that encodes a text, the malformed bytes are placed by the lines of that text. -/
theorem Malformed.site_eq {file : FilePath} {before : Text} (h : bytes.take m.start = encode before) :
    m.site file bytes = ⟨some file, (1 + before.count '\n' : Nat),
      (1 + (encode (Text.lastLine before)).length : Nat), none⟩ := by
  rw [site, h, count_feed_encode, takeWhile_encode, List.length_reverse, Nat.add_comm 1, Nat.add_comm 1]
  rfl

end Utf8

/-- A file that is not UTF-8 is refused as it is read. -/
theorem expandFile_of_undecodable {source : FilePath} {h : Host} {bytes : List UInt8} {d : Diagnostic}
    (hread : h.files.read source = .ok bytes) (hd : decodeSource source bytes = .error d)
    (output : FilePath) (cap : Option Int) :
    (expandFile source output cap h).1 = .error (.source d) := by
  have he : h.files.expansionAt source cap = .error (.source d) := by
    rw [FileSystem.expansionAt_of_read hread, hd]
  rcases hrun : expandFile source output cap h with ⟨r, h'⟩
  exact (expandFile_of_error hrun he).2

/-- A source whose bytes are not UTF-8 is refused. The diagnostic names the first offset at which no character
begins although all bytes in front of it are those of a text. Its line and column are those behind that text
with its line breaks unified, and the column counts bytes; but where a carriage return stands alone in front
of the offset, it is not counted as a line break, and the line is too small. -/
theorem expandFile_undecodable (source output : FilePath) (cap : Option Int) (h : Host)
    (bytes : List UInt8) (hread : h.files.read source = .ok bytes) (hbytes : ∀ t, Utf8.encode t ≠ bytes) :
    ∃ (start line column : Nat) (flaw : Utf8.Flaw) (before : Text),
      (expandFile source output cap h).1 =
        .error (.source ⟨.undecodable start flaw, ⟨some source, line, column, none⟩⟩) ∧
      (Fault.undecodable start flaw).message =
        "Invalid UTF-8 at byte ".toList ++ Text.ofNat start ++ ": ".toList ++ flaw.message ∧
      bytes.take start = Utf8.encode before ∧ start < bytes.length ∧
      (∀ c, ¬ String.utf8EncodeChar c <+: bytes.drop start) ∧
      (¬ before.HasLoneReturn → line = 1 + before.unifyLineBreaks.count '\n' ∧
        column = 1 + (Utf8.encode (Text.lastLine before.unifyLineBreaks)).length) ∧
      (before.HasLoneReturn → line = 1 + before.count '\n' ∧
        column = 1 + (Utf8.encode (Text.lastLine before)).length ∧
        line < 1 + before.unifyLineBreaks.count '\n') := by
  cases hdecode : Utf8.decode bytes with
  | ok t => exact absurd (Utf8.decode_eq_ok_iff.mp hdecode) (hbytes t)
  | error m =>
    obtain ⟨before, rest, hsplit, hstart, hne, hnone⟩ := Utf8.exists_of_decodeFrom_error hdecode
    rw [Nat.zero_add] at hstart
    have htake : bytes.take m.start = Utf8.encode before := by rw [hsplit, hstart, List.take_left]
    have hdrop : bytes.drop m.start = rest := by rw [hsplit, hstart, List.drop_left]
    have hd : decodeSource source bytes = .error ⟨.undecodable m.start m.flaw, ⟨some source,
        (1 + before.count '\n' : Nat), (1 + (Utf8.encode (Text.lastLine before)).length : Nat), none⟩⟩ := by
      rw [decodeSource, hdecode]
      dsimp only
      rw [Utf8.Malformed.site_eq htake]
    refine ⟨m.start, _, _, m.flaw, before, expandFile_of_undecodable hread hd output cap, rfl, htake,
      ?inside, ?first, fun hlone => ?counted, fun hlone => ⟨rfl, rfl, ?short⟩⟩
    case inside =>
      have hpos := List.length_pos_iff.mpr hne
      rw [hsplit, List.length_append, hstart]
      omega
    case first =>
      rw [hdrop]
      exact hnone
    case counted =>
      rw [Text.unifyLineBreaks_of_not_lone hlone, Text.count_joinCrLf, Text.lastLine_joinCrLf]
      exact ⟨rfl, rfl⟩
    case short =>
      have hpos := List.count_pos_iff.mpr ((Text.cr_mem_joinCrLf before).mpr hlone)
      rw [Text.count_unifyLineBreaks]
      omega

/-- A line with a letter of two bytes, behind a pair of a carriage return and a line feed, and then a
character that breaks off. -/
theorem expandFile_undecodable_pair :
    let bytes : List UInt8 := [0x61, 0x0D, 0x0A, 0xC3, 0xA9, 0xE2, 0x82, 0x41]
    let files : FileSystem := ⟨[(["p".toList], .file bytes)], []⟩
    (∀ t, Utf8.encode t ≠ bytes) ∧
    (expandFile (.ofText "p".toList) (.ofText "q".toList) none { files }).1 =
      .error (.source ⟨.undecodable 5 .badContinuation, ⟨some (.ofText "p".toList), 2, 3, none⟩⟩) ∧
    bytes.take 5 = Utf8.encode "a\r\né".toList ∧
    2 = 1 + (Text.unifyLineBreaks "a\r\né".toList).count '\n' ∧
    3 = 1 + (Utf8.encode (Text.lastLine (Text.unifyLineBreaks "a\r\né".toList))).length := by
  intro bytes files
  have hread : files.read (.ofText "p".toList) = .ok bytes := rfl
  have hbytes : ∀ t, Utf8.encode t ≠ bytes := Utf8.encode_ne_of_decode (by decide +kernel)
  have hd : decodeSource (.ofText "p".toList) bytes =
      .error ⟨.undecodable 5 .badContinuation, ⟨some (.ofText "p".toList), 2, 3, none⟩⟩ := by
    decide +kernel
  have hrun := expandFile_of_undecodable (h := { files }) hread hd (.ofText "q".toList) none
  obtain ⟨start, line, column, flaw, before, herror, -, htake, -, -, hcounted, -⟩ :=
    expandFile_undecodable (.ofText "p".toList) (.ofText "q".toList) none { files } bytes hread hbytes
  have hlone : ¬ Text.HasLoneReturn "a\r\né".toList := mt (Text.cr_mem_joinCrLf _).mpr (by decide)
  have hbefore : bytes.take 5 = Utf8.encode "a\r\né".toList := by decide +kernel
  rw [hrun] at herror
  simp only [Except.error.injEq, Failure.source.injEq, Diagnostic.mk.injEq, Fault.undecodable.injEq,
    Site.mk.injEq] at herror
  obtain ⟨⟨rfl, rfl⟩, -, hline, hcolumn, -⟩ := herror
  obtain rfl : "a\r\né".toList = before := Utf8.encode_injective (hbefore.symm.trans htake)
  obtain ⟨hlines, hcolumns⟩ := hcounted hlone
  exact ⟨hbytes, hrun, htake, by omega, by omega⟩

/-- A line that ends in a carriage return alone, and then a byte that begins no character: that byte is the
first of the second line, and it is placed on the first. -/
theorem not_unified_site_of_loneReturn : ¬ ∀ (source output : FilePath) (cap : Option Int) (h : Host)
    (bytes : List UInt8), h.files.read source = .ok bytes → (∀ t, Utf8.encode t ≠ bytes) →
    ∃ (start line column : Nat) (flaw : Utf8.Flaw) (before : Text),
      (expandFile source output cap h).1 =
        .error (.source ⟨.undecodable start flaw, ⟨some source, line, column, none⟩⟩) ∧
      bytes.take start = Utf8.encode before ∧
      line = 1 + before.unifyLineBreaks.count '\n' ∧
      column = 1 + (Utf8.encode (Text.lastLine before.unifyLineBreaks)).length := by
  intro hall
  let bytes : List UInt8 := [0x61, 0x0D, 0xFF]
  let h : Host := { files := ⟨[(["p".toList], .file bytes)], []⟩ }
  have hread : h.files.read (.ofText "p".toList) = .ok bytes := rfl
  have hbytes : ∀ t, Utf8.encode t ≠ bytes := Utf8.encode_ne_of_decode (by decide +kernel)
  have hd : decodeSource (.ofText "p".toList) bytes =
      .error ⟨.undecodable 2 .badStart, ⟨some (.ofText "p".toList), 1, 3, none⟩⟩ := by decide +kernel
  have hrun := expandFile_of_undecodable hread hd (.ofText "q".toList) none
  obtain ⟨start, line, column, flaw, before, herror, htake, hline, -⟩ :=
    hall (.ofText "p".toList) (.ofText "q".toList) none h bytes hread hbytes
  have hbefore : bytes.take 2 = Utf8.encode "a\r".toList := by decide +kernel
  rw [hrun] at herror
  simp only [Except.error.injEq, Failure.source.injEq, Diagnostic.mk.injEq, Fault.undecodable.injEq,
    Site.mk.injEq] at herror
  obtain ⟨⟨rfl, rfl⟩, -, hfirst, -, -⟩ := herror
  obtain rfl : "a\r".toList = before := Utf8.encode_injective (hbefore.symm.trans htake)
  have hfeeds : (Text.unifyLineBreaks "a\r".toList).count '\n' = 1 := by decide
  omega

end Shorthand
