import Shorthand.Operations
import Shorthand.Proofs.Encoding
import Shorthand.Proofs.FileGrowth
import Shorthand.Proofs.HostRun
import Shorthand.Proofs.Segmentation

/-! A file is expanded as a whole or not at all: unless the whole text expands the files stay as they are,
and otherwise the output file is written and nothing else changes but for the directories that lead to it.
Main statement: `expandFile_wholly`. -/
namespace Shorthand

open HostM

variable {source output file : FilePath} {cap : Option Int} {h h' : Host} {t : Text} {bytes : List UInt8}

/-- The expansion of the file at a path, or why there is none. -/
def FileSystem.expansionAt (fs : FileSystem) (source : FilePath) (cap : Option Int) :
    Except Failure Text :=
  match fs.existsAt source with
  | .error f => .error (.access f)
  | .ok false => .error (.noInput source)
  | .ok true =>
    match fs.read source with
    | .error f => .error (.access f)
    | .ok bytes =>
      match decodeSource source bytes with
      | .error d => .error (.source d)
      | .ok t => (expand t (some source) cap).mapError .source

/-- The bytes of a text are read as that text, with its line breaks unified. -/
theorem decodeSource_encode (file : FilePath) (t : Text) :
    decodeSource file (Utf8.encode t) = .ok t.unifyLineBreaks := by
  rw [decodeSource, Utf8.decode_eq_ok_iff.2 rfl]

/-- What is read from bytes is a text that they encode, with its line breaks unified. -/
theorem decodeSource_eq_ok (hd : decodeSource file bytes = .ok t) :
    ∃ written : Text, Utf8.encode written = bytes ∧ t = written.unifyLineBreaks := by
  rw [decodeSource] at hd
  split at hd
  · exact ⟨_, Utf8.decode_eq_ok_iff.1 ‹_›, (Except.ok.inj hd).symm⟩
  · cases hd

/-- Bytes that encode no text are refused at their first malformed part. -/
theorem decodeSource_of_forall_ne (file : FilePath) (hne : ∀ t, Utf8.encode t ≠ bytes) :
    ∃ m : Utf8.Malformed, decodeSource file bytes =
      .error ⟨.undecodable m.start m.flaw, m.site file bytes⟩ := by
  rw [decodeSource]
  cases hd : Utf8.decode bytes with
  | ok t => exact absurd (Utf8.decode_eq_ok_iff.1 hd) (hne t)
  | error m => exact ⟨m, rfl⟩

namespace FileSystem

variable {fs : FileSystem}

/-- Where there is no file, the expansion fails for that reason, unless the path is too long to be asked
for. -/
theorem expansionAt_of_missing (hm : fs.Missing source) :
    fs.expansionAt source cap = .error (.noInput source) ∨
      (source.Overlong ∧
        fs.expansionAt source cap = .error (.access (Refusal.nameTooLong.at source))) := by
  rw [expansionAt]
  rcases existsAt_of_missing hm with he | ⟨hlong, he⟩
  · left
    rw [he]
  · right
    rw [he]
    exact ⟨hlong, rfl⟩

theorem expansionAt_of_read (hb : fs.read source = .ok bytes) :
    fs.expansionAt source cap = match decodeSource source bytes with
      | .error d => .error (.source d)
      | .ok t => (expand t (some source) cap).mapError .source := by
  rw [expansionAt, existsAt_of_read hb, hb]

theorem expansionAt_encode (hb : fs.read source = .ok (Utf8.encode t)) :
    fs.expansionAt source cap = (expand t.unifyLineBreaks (some source) cap).mapError .source := by
  rw [expansionAt_of_read hb, decodeSource_encode]

theorem expansionAt_eq_ok (he : fs.expansionAt source cap = .ok t) : ∃ written : Text,
    fs.read source = .ok (Utf8.encode written) ∧
      expand written.unifyLineBreaks (some source) cap = .ok t := by
  rw [expansionAt] at he
  split at he
  · cases he
  · cases he
  split at he
  · cases he
  rename_i bytes hb
  split at he
  · cases he
  rename_i read hd
  obtain ⟨written, rfl, rfl⟩ := decodeSource_eq_ok hd
  cases hx : expand written.unifyLineBreaks (some source) cap with
  | error d => rw [hx] at he; cases he
  | ok text =>
    rw [hx] at he
    cases he
    exact ⟨written, hb, hx⟩

/-- A source is refused for its bytes or for its text. -/
theorem expansionAt_eq_source {d : Diagnostic} (he : fs.expansionAt source cap = .error (.source d)) :
    ∃ bytes, fs.read source = .ok bytes ∧ (decodeSource source bytes = .error d ∨
      ∃ written : Text, Utf8.encode written = bytes ∧
        expand written.unifyLineBreaks (some source) cap = .error d) := by
  rw [expansionAt] at he
  split at he
  · cases he
  · cases he
  split at he
  · cases he
  rename_i bytes hb
  split at he
  · rename_i hd
    obtain rfl := Failure.source.inj (Except.error.inj he)
    exact ⟨bytes, hb, .inl hd⟩
  rename_i read hd
  obtain ⟨written, rfl, rfl⟩ := decodeSource_eq_ok hd
  cases hx : expand written.unifyLineBreaks (some source) cap with
  | ok text => rw [hx] at he; cases he
  | error d' =>
    rw [hx] at he
    obtain rfl := Failure.source.inj (Except.error.inj he)
    exact ⟨_, hb, .inr ⟨written, rfl, hx⟩⟩

end FileSystem

/-- With its log left aside, an expansion is that of the text, and it leaves the files alone. -/
theorem expandLogged_apply (file : FilePath) (t : Text) (cap : Option Int) (h : Host) : ∃ h',
    expandLogged file t cap h = ((expand t (some file) cap).mapError .source, h') ∧
      h'.files = h.files := by
  rw [expandLogged, bind_apply, attempt_apply, expand]
  cases tokenize t (some file) with
  | error d => exact ⟨h, rfl, rfl⟩
  | ok read =>
    obtain ⟨tokens, trailing⟩ := read
    dsimp only [expandTokens]
    rw [bind_apply, log_apply]
    dsimp only
    rw [bind_apply, attempt_apply]
    cases expandFragments tokens ⟨some file, some t⟩ cap with
    | error d => exact ⟨_, rfl, rfl⟩
    | ok fragments => exact ⟨_, rfl, rfl⟩

/-- Before anything is written, an expansion only looks at the files. -/
theorem expandFile_apply (source output : FilePath) (cap : Option Int) (h : Host) : ∃ h₁,
    h₁.files = h.files ∧
      expandFile source output cap h = match h.files.expansionAt source cap with
        | .error f => (.error f, h₁)
        | .ok t => (writeText output t >>= fun _ => log (.wrote output t.length) >>= fun _ => pure t) h₁ := by
  -- The two sides ask the same questions in the same order; only the log changes on the way.
  rw [expandFile, bind_apply, inspect_apply, FileSystem.expansionAt]
  cases h.files.existsAt source with
  | error f => exact ⟨h, rfl, rfl⟩
  | ok found =>
    cases found with
    | false => exact ⟨h, rfl, rfl⟩
    | true =>
      dsimp only
      rw [if_pos rfl, bind_apply, inspect_apply]
      cases h.files.read source with
      | error f => exact ⟨h, rfl, rfl⟩
      | ok bytes =>
        dsimp only
        rw [bind_apply, attempt_apply]
        cases decodeSource source bytes with
        | error d => exact ⟨h, rfl, rfl⟩
        | ok t =>
          dsimp only
          obtain ⟨h₁, hrun, hfiles⟩ := expandLogged_apply source t cap h
          rw [bind_apply, hrun]
          cases expand t (some source) cap with
          | error d => exact ⟨h₁, hfiles, rfl⟩
          | ok text => exact ⟨h₁, hfiles, rfl⟩

/-- Writing fails on an access, or leaves the text at the file and nothing else changed but directories that
are made. -/
theorem writeText_apply (file : FilePath) (t : Text) (h : Host) :
    (∃ f h', writeText file t h = (.error (.access f), h')) ∨
      ∃ h', writeText file t h = (.ok (), h') ∧ h.files.Written file (Utf8.encode t) h'.files := by
  rcases hmade : h.files.ensureDirectories file.parent with ⟨made, files⟩
  have hgrown : h.files.Grown file.parent files := by
    have hg := h.files.ensureDirectories_grown file.parent
    rwa [hmade] at hg
  rw [writeText, bind_apply, get_apply]
  simp only [hmade]
  rw [bind_apply, setFiles_apply]
  dsimp only
  rw [bind_apply, attempt_apply]
  cases made with
  | error f => exact .inl ⟨f, _, rfl⟩
  | ok done =>
    dsimp only
    rw [change_apply]
    cases hw : files.write file (Utf8.encode t) with
    | error f => exact .inl ⟨f, _, rfl⟩
    | ok files' => exact .inr ⟨_, rfl, hgrown.written hw⟩

/-- A source file that does not expand is refused, and the files stay as they are. -/
theorem expandFile_of_error {f : Failure} {r : Except Failure Text}
    (hr : expandFile source output cap h = (r, h')) (he : h.files.expansionAt source cap = .error f) :
    h'.files = h.files ∧ r = .error f := by
  obtain ⟨h₁, hfiles, hrun⟩ := expandFile_apply source output cap h
  rw [hr, he, Prod.mk.injEq] at hrun
  exact ⟨hrun.2 ▸ hfiles, hrun.1⟩

/-- A source file that expands is written to the output, unless that cannot be accessed. -/
theorem expandFile_of_ok {r : Except Failure Text} (hr : expandFile source output cap h = (r, h'))
    (he : h.files.expansionAt source cap = .ok t) :
    (∃ f, r = .error (.access f)) ∨ (r = .ok t ∧ h.files.Written output (Utf8.encode t) h'.files) := by
  obtain ⟨h₁, hfiles, hrun⟩ := expandFile_apply source output cap h
  rw [he] at hrun
  dsimp only at hrun
  rw [hr, bind_apply] at hrun
  rcases writeText_apply output t h₁ with ⟨f, h₂, hw⟩ | ⟨h₂, hw, hwritten⟩
  · rw [hw, Prod.mk.injEq] at hrun
    exact .inl ⟨f, hrun.1⟩
  · rw [hw] at hrun
    dsimp only at hrun
    rw [bind_apply, log_apply] at hrun
    dsimp only at hrun
    rw [pure_apply, Prod.mk.injEq] at hrun
    obtain ⟨rfl, rfl⟩ := hrun
    exact .inr ⟨rfl, hfiles ▸ hwritten⟩

/-- Whole expansion or none. If there is nothing at the input path, if its bytes are not UTF-8, or if its
text does not expand, then the failure says so and the files are as before; only a path that is too long
to be asked for is refused as such. If the text expands and the output can be accessed, the text of the
expansion is given and written, and nothing else is changed but for missing directories that lead to the
output: the input stays as it is, unless it is the output. -/
theorem expandFile_wholly (source output : FilePath) (cap : Option Int) (h h' : Host)
    (r : Except Failure Text) (hr : expandFile source output cap h = (r, h')) :
    (h.files.Missing source → h'.files = h.files ∧
      (r = .error (.noInput source) ∨
        (source.Overlong ∧ r = .error (.access (Refusal.nameTooLong.at source))))) ∧
    (∀ bytes, h.files.read source = .ok bytes → (∀ t, Utf8.encode t ≠ bytes) → h'.files = h.files ∧
      ∃ offset flaw site, site.file = some source ∧ r = .error (.source ⟨.undecodable offset flaw, site⟩)) ∧
    (∀ t d, h.files.read source = .ok (Utf8.encode t) →
      expand t.unifyLineBreaks (some source) cap = .error d →
      h'.files = h.files ∧ r = .error (.source d)) ∧
    (∀ t text, h.files.read source = .ok (Utf8.encode t) →
      expand t.unifyLineBreaks (some source) cap = .ok text →
      r = .ok text ∨ ∃ f, r = .error (.access f)) ∧
    (∀ text, r = .ok text → ∃ t, h.files.read source = .ok (Utf8.encode t) ∧
      expand t.unifyLineBreaks (some source) cap = .ok text ∧
      h.files.Written output (Utf8.encode text) h'.files ∧
      (h'.files.locate source ≠ h'.files.locate output → h'.files.read source = .ok (Utf8.encode t))) := by
  refine ⟨fun hm => ?missing, fun bytes hb hne => ?undecodable, fun t d hb hx => ?refused,
    fun t text hb hx => ?expands, fun text htext => ?returns⟩
  case missing =>
    have hcause : h.files.expansionAt source cap = .error (.noInput source) ∨ _ :=
      FileSystem.expansionAt_of_missing hm
    rcases hcause with he | ⟨hlong, he⟩
    · exact (expandFile_of_error hr he).imp_right .inl
    · exact (expandFile_of_error hr he).imp_right fun h => .inr ⟨hlong, h⟩
  case undecodable =>
    obtain ⟨m, hd⟩ := decodeSource_of_forall_ne source hne
    have he : h.files.expansionAt source cap =
        .error (.source ⟨.undecodable m.start m.flaw, m.site source bytes⟩) := by
      rw [FileSystem.expansionAt_of_read hb, hd]
    obtain ⟨hfiles, hfail⟩ := expandFile_of_error hr he
    exact ⟨hfiles, m.start, m.flaw, m.site source bytes, rfl, hfail⟩
  case refused =>
    have he : h.files.expansionAt source cap = .error (.source d) := by
      rw [FileSystem.expansionAt_encode hb, hx]
      rfl
    exact expandFile_of_error hr he
  case expands =>
    have he : h.files.expansionAt source cap = .ok text := by
      rw [FileSystem.expansionAt_encode hb, hx]
      rfl
    rcases expandFile_of_ok hr he with hf | ⟨hok, -⟩
    · exact .inr hf
    · exact .inl hok
  case returns =>
    cases he : h.files.expansionAt source cap with
    | error f =>
      rw [(expandFile_of_error hr he).2] at htext
      cases htext
    | ok expanded =>
      rcases expandFile_of_ok hr he with ⟨f, hf⟩ | ⟨hok, hwritten⟩
      · rw [hf] at htext
        cases htext
      rw [hok, Except.ok.injEq] at htext
      subst htext
      obtain ⟨t, hb, hx⟩ := FileSystem.expansionAt_eq_ok he
      exact ⟨t, hb, hx, hwritten, hwritten.read_eq hb⟩

/-- Of four inputs one expands into a directory behind a directory that is missing too; one is not UTF-8,
one does not expand, and one is not there. -/
theorem expandFile_wholly_four :
    let files : FileSystem := ⟨[(["a".toList], .file (Utf8.encode "b(&:c)\r\n".toList)),
      (["d".toList], .file [0x61, 0xFF]), (["e".toList], .file (Utf8.encode "\r(".toList))], []⟩
    let output : FilePath := .ofText "f/../g/h".toList
    let run : Text → Except Failure Text × Host := fun source =>
      expandFile (.ofText source) output none { files }
    ((run "a".toList).1 = .ok "b\x7b|it|it.c\x7d\n".toList ∧
      files.Written output (Utf8.encode "b\x7b|it|it.c\x7d\n".toList) (run "a".toList).2.files) ∧
    ((run "d".toList).2.files = files ∧ ∃ offset flaw site, site.file = some (.ofText "d".toList) ∧
      (run "d".toList).1 = .error (.source ⟨.undecodable offset flaw, site⟩)) ∧
    ((run "e".toList).2.files = files ∧ (run "e".toList).1 = .error (.source ⟨.unclosed .paren,
      ⟨some (.ofText "e".toList), 2, 1, some "\n(".toList⟩⟩)) ∧
    (run "g/h".toList).2.files = files := by
  intro files output run
  have hwholly : ∀ source, _ := fun source => expandFile_wholly (.ofText source) output none { files }
    (run source).2 (run source).1 rfl
  obtain ⟨-, -, -, -, hreturns⟩ := hwholly "a".toList
  obtain ⟨-, hundecodable, -⟩ := hwholly "d".toList
  obtain ⟨-, -, hrefused, -⟩ := hwholly "e".toList
  obtain ⟨hmissing, -⟩ := hwholly "g/h".toList
  have hexpands : (run "a".toList).1 = .ok "b\x7b|it|it.c\x7d\n".toList := by
    have hsome : (run "a".toList).1.toOption = some "b\x7b|it|it.c\x7d\n".toList := by decide +kernel
    cases hr : (run "a".toList).1 with
    | error f => rw [hr] at hsome; cases hsome
    | ok text => rw [hr] at hsome; exact congrArg Except.ok (Option.some.inj hsome)
  obtain ⟨-, -, -, hwritten, -⟩ := hreturns _ hexpands
  have hbytes : ∀ t, Utf8.encode t ≠ [0x61, 0xFF] := by
    intro t ht
    have hnone : (Utf8.decode [0x61, 0xFF]).toOption = none := by decide +kernel
    rw [Utf8.decode_eq_ok_iff.2 ht] at hnone
    cases hnone
  have hunclosed : expand (Text.unifyLineBreaks "\r(".toList) (some (.ofText "e".toList)) none =
      .error ⟨.unclosed .paren, ⟨some (.ofText "e".toList), 2, 1, some "\n(".toList⟩⟩ := by
    decide +kernel
  have hnothing : files.Missing (.ofText "g/h".toList) := by
    intro loc hloc
    have hno : files.locate (.ofText "g/h".toList) =
        .error (Refusal.notFound.at (.ofText "g/h".toList)) := by rfl
    rw [hno] at hloc
    cases hloc
  exact ⟨⟨hexpands, hwritten⟩, hundecodable _ rfl hbytes, hrefused _ _ rfl hunclosed,
    (hmissing hnothing).1⟩

/-- A path with a name of 256 letters leads to nothing, but that is not what the failure says. -/
theorem not_noInput_of_overlong : ¬ ∀ (source output : FilePath) (cap : Option Int) (h h' : Host)
    (r : Except Failure Text), expandFile source output cap h = (r, h') →
      h.files.Missing source → r = .error (.noInput source) := by
  intro hall
  let source : FilePath := ⟨.here, [List.replicate 256 'x']⟩
  let h : Host := { files := ⟨[], []⟩ }
  have hlong : source.Overlong := .inr ⟨List.replicate 256 'x', by decide +kernel, by decide +kernel⟩
  have hmissing : h.files.Missing source := FileSystem.missing_of_overlong hlong
  have hasked : (h.files.existsAt source).toOption = none := by decide +kernel
  have hrefused : h.files.existsAt source = .error (Refusal.nameTooLong.at source) := by
    rcases FileSystem.existsAt_of_missing hmissing with he | ⟨-, he⟩
    · rw [he] at hasked
      cases hasked
    · exact he
  have hcause : h.files.expansionAt source none = .error (.access (Refusal.nameTooLong.at source)) := by
    rw [FileSystem.expansionAt, hrefused]
  rcases hr : expandFile source (.ofText ['o']) none h with ⟨r, h'⟩
  have hno := hall source _ none h h' r hr hmissing
  rw [(expandFile_of_error hr hcause).2] at hno
  cases hno

end Shorthand
