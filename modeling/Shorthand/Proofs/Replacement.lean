import Shorthand.Proofs.Confinement

/-! Replacement of one file, or of nothing by a file. A path that leads to a place still leads there, and
where only the content of the file changes, the same directories are made on the way, so only what is read
from that file can make a difference. Main statements: `SameBut.expandFile` and `SameAround.expandFile`. -/
namespace Shorthand

open HostM

namespace FileSystem

variable {fs fs' : FileSystem} {loc : Location} {p source : FilePath} {cap : Option Int}

section Directories

variable {target : Text} {f : AccessFault}

/-- A directory that is there, or can be made at once, or cannot be made for another reason than that
something on the way to it is missing. -/
theorem ensureDirectories_of_found
    (h : ∀ target, (fs.ensureDirectory p).1 ≠ .error (.refused .notFound target)) :
    fs.ensureDirectories p = fs.ensureDirectory p := by
  rcases hr : fs.ensureDirectory p with ⟨made, files⟩
  rw [hr] at h
  rw [ensureDirectories, hr]
  split
  · next hmissing => exact absurd (congrArg Prod.fst hmissing) (h _)
  · rfl

theorem ensureDirectories_of_noSteps (h : (fs.ensureDirectory p).1 = .error (.refused .notFound target))
    (hp : p.steps = []) : fs.ensureDirectories p = (.error (.refused .notFound target), fs) := by
  rcases hr : fs.ensureDirectory p with ⟨made, files⟩
  rw [hr] at h
  obtain rfl : made = _ := h
  rw [ensureDirectories, hr]
  simp only [hp, dite_true]

/-- What stops on the way stops there. -/
theorem ensureDirectories_of_stopped (h : (fs.ensureDirectory p).1 = .error (.refused .notFound target))
    (hp : p.steps ≠ []) (hup : (fs.ensureDirectories p.parent).1 = .error f) :
    fs.ensureDirectories p = fs.ensureDirectories p.parent := by
  rcases hr : fs.ensureDirectory p with ⟨made, files⟩
  rcases hparent : fs.ensureDirectories p.parent with ⟨up, files'⟩
  rw [hr] at h
  rw [hparent] at hup
  obtain rfl : made = _ := h
  obtain rfl : up = _ := hup
  rw [ensureDirectories, hr]
  simp only [hp, dite_false, hparent]

/-- Once the parent is there, the directory itself is tried again. -/
theorem ensureDirectories_of_parent (h : (fs.ensureDirectory p).1 = .error (.refused .notFound target))
    (hp : p.steps ≠ []) (hup : (fs.ensureDirectories p.parent).1 = .ok ()) :
    fs.ensureDirectories p = (fs.ensureDirectories p.parent).2.ensureDirectory p := by
  rcases hr : fs.ensureDirectory p with ⟨made, files⟩
  rcases hparent : fs.ensureDirectories p.parent with ⟨up, files'⟩
  rw [hr] at h
  rw [hparent] at hup
  obtain rfl : made = _ := h
  obtain rfl : up = _ := hup
  rw [ensureDirectories, hr]
  simp only [hp, dite_false, hparent]

end Directories

/-- Two file systems that are the same but for what is at a location, which is no directory in either. -/
structure SameAround (loc : Location) (fs fs' : FileSystem) : Prop where
  current : fs'.current = fs.current
  elsewhere : ∀ there, there ≠ loc → fs'.find? there = fs.find? there
  free : fs.find? loc ≠ some .directory
  free' : fs'.find? loc ≠ some .directory

/-- Two file systems that are the same but for the content of the file at a location. -/
structure SameBut (loc : Location) (fs fs' : FileSystem) : Prop extends SameAround loc fs fs' where
  present : (fs.find? loc).isSome
  present' : (fs'.find? loc).isSome

theorem exists_file (hfree : fs.find? loc ≠ some .directory) (hpresent : (fs.find? loc).isSome) :
    ∃ bytes, fs.find? loc = some (.file bytes) := by
  obtain ⟨e, he⟩ := Option.isSome_iff_exists.mp hpresent
  cases e with
  | file bytes => exact ⟨bytes, he⟩
  | directory => exact absurd he hfree

namespace SameAround

theorem symm (h : SameAround loc fs fs') : SameAround loc fs' fs :=
  ⟨h.current.symm, fun there hthere => (h.elsewhere there hthere).symm, h.free', h.free⟩

theorem keepsDirectories (h : SameAround loc fs fs') : KeepsDirectories fs fs' where
  current := h.current
  directory there hd := by
    have hthere : there ≠ loc := fun he => h.free (he ▸ hd)
    rw [h.elsewhere there hthere, hd]

theorem locate (h : SameAround loc fs fs') {there : Location} :
    fs'.locate p = .ok there ↔ fs.locate p = .ok there :=
  ⟨h.symm.keepsDirectories.locate, h.keepsDirectories.locate⟩

/-- Every other file has the same content. -/
theorem read (h : SameAround loc fs fs') (hp : fs.locate p ≠ .ok loc) {bytes : List UInt8}
    (hread : fs.read p = .ok bytes) : fs'.read p = .ok bytes := by
  obtain ⟨there, hloc, hfile⟩ := read_eq_ok_iff.mp hread
  have hthere : there ≠ loc := by
    rintro rfl
    exact hp hloc
  exact read_eq_ok_iff.mpr ⟨there, h.locate.mpr hloc, (h.elsewhere there hthere).trans hfile⟩

theorem entryAt_directory (h : SameAround loc fs fs') (hd : fs.entryAt p = .ok (some .directory)) :
    fs'.entryAt p = .ok (some .directory) := by
  obtain ⟨there, hloc, hfound⟩ := entryAt_eq_some_iff.mp hd
  exact entryAt_eq_some_iff.mpr ⟨there, h.locate.mpr hloc, h.keepsDirectories.directory there hfound⟩

/-- A source elsewhere expands to the same text. -/
theorem expansionAt (h : SameAround loc fs fs') (hp : fs.locate source ≠ .ok loc) {t : Text}
    (he : fs.expansionAt source cap = .ok t) : fs'.expansionAt source cap = .ok t := by
  obtain ⟨written, hread, hexpand⟩ := expansionAt_eq_ok he
  rw [expansionAt_encode (h.read hp hread), hexpand]
  rfl

/-- Files are written on both or on neither. -/
theorem write (h : SameAround loc fs fs') {bytes : List UInt8} {written : FileSystem}
    (hw : fs.write p bytes = .ok written) : ∃ written', fs'.write p bytes = .ok written' := by
  obtain ⟨there, hloc, hfree, -⟩ := write_eq_ok_iff.mp hw
  have hfree' : fs'.find? there ≠ some .directory := mt (h.symm.keepsDirectories.directory there) hfree
  exact ⟨_, write_eq_ok_iff.mpr ⟨there, h.locate.mpr hloc, hfree', rfl⟩⟩

end SameAround

namespace SameBut

theorem symm (h : SameBut loc fs fs') : SameBut loc fs' fs :=
  ⟨h.toSameAround.symm, h.present', h.present⟩

theorem file (h : SameBut loc fs fs') : ∃ bytes, fs.find? loc = some (.file bytes) :=
  exists_file h.free h.present

theorem file' (h : SameBut loc fs fs') : ∃ bytes, fs'.find? loc = some (.file bytes) :=
  exists_file h.free' h.present'

/-- Nothing is behind a file, so a way to elsewhere does not depend on its content. -/
theorem follow (h : SameBut loc fs fs') (there : Location) (steps : List Text) :
    fs'.follow there steps = fs.follow there steps := by
  induction steps generalizing there with
  | nil => rfl
  | cons step steps ih =>
    by_cases hthere : there = loc
    · obtain ⟨bytes, hfile⟩ := h.file
      obtain ⟨bytes', hfile'⟩ := h.file'
      subst hthere
      simp only [FileSystem.follow, hfile, hfile']
    · simp only [FileSystem.follow, h.elsewhere there hthere, ih]

theorem locate (h : SameBut loc fs fs') (p : FilePath) : fs'.locate p = fs.locate p := by
  simp only [FileSystem.locate, h.current, h.follow]

/-- A question that is not about the content of files has the same answer. -/
theorem ask (h : SameBut loc fs fs') (p : FilePath) {question : Option Entry → Bool}
    (hq : ∀ bytes bytes', question (some (.file bytes)) = question (some (.file bytes'))) :
    fs'.ask p question = fs.ask p question := by
  cases hloc : fs.locate p with
  | error f =>
    have hloc' := (h.locate p).trans hloc
    rw [FileSystem.ask, FileSystem.ask, entryAt, entryAt, hloc, hloc']
    rfl
  | ok there =>
    have hloc' := (h.locate p).trans hloc
    rw [FileSystem.ask, FileSystem.ask, entryAt_of_locate hloc, entryAt_of_locate hloc']
    by_cases hthere : there = loc
    · obtain ⟨bytes, hfile⟩ := h.file
      obtain ⟨bytes', hfile'⟩ := h.file'
      rw [hthere, hfile, hfile']
      exact congrArg Except.ok (hq bytes' bytes)
    · rw [h.elsewhere there hthere]

/-- Two systems that differ in the content of one file have the same paths. -/
theorem existsAt (h : SameBut loc fs fs') (p : FilePath) : fs'.existsAt p = fs.existsAt p :=
  h.ask p fun _ _ => rfl

theorem isDirectoryAt (h : SameBut loc fs fs') (p : FilePath) : fs'.isDirectoryAt p = fs.isDirectoryAt p :=
  h.ask p fun _ _ => rfl

theorem read (h : SameBut loc fs fs') (hp : fs.locate p ≠ .ok loc) : fs'.read p = fs.read p := by
  cases hloc : fs.locate p with
  | error f =>
    have hloc' := (h.locate p).trans hloc
    rw [FileSystem.read, FileSystem.read, entryAt, entryAt, hloc, hloc']
    rfl
  | ok there =>
    have hloc' := (h.locate p).trans hloc
    have hthere : there ≠ loc := by
      rintro rfl
      exact hp hloc
    rw [FileSystem.read, FileSystem.read, entryAt_of_locate hloc, entryAt_of_locate hloc',
      h.elsewhere there hthere]

/-- The expansion is the same if the source is another file. -/
theorem expansionAt (h : SameBut loc fs fs') (hp : fs.locate source ≠ .ok loc) (cap : Option Int) :
    fs'.expansionAt source cap = fs.expansionAt source cap := by
  rw [FileSystem.expansionAt, FileSystem.expansionAt, h.existsAt, h.read hp]

/-- The same entry put at the same place, which is no directory if it is put in place of the file. -/
theorem set (h : SameBut loc fs fs') {there : Location} (hroot : there ≠ []) {e : Entry}
    (he : there = loc → e ≠ .directory) : SameBut loc (fs.set there e) (fs'.set there e) := by
  by_cases hthere : there = loc
  · -- The entry replaces the file in both, and nothing is left that differs.
    subst hthere
    have hput := find?_set_self fs hroot e
    have hput' := find?_set_self fs' hroot e
    have hfree : some e ≠ some .directory := fun hd => he rfl (Option.some.inj hd)
    refine ⟨⟨h.current, fun other hother => ?_, hput ▸ hfree, hput' ▸ hfree⟩, hput ▸ rfl, hput' ▸ rfl⟩
    rw [find?_set_of_ne fs hother, find?_set_of_ne fs' hother, h.elsewhere other hother]
  · have hkept := find?_set_of_ne fs (Ne.symm hthere) e
    have hkept' := find?_set_of_ne fs' (Ne.symm hthere) e
    refine ⟨⟨h.current, fun other hother => ?_, hkept ▸ h.free, hkept' ▸ h.free'⟩, hkept ▸ h.present,
      hkept' ▸ h.present'⟩
    by_cases hput : other = there
    · rw [hput, find?_set_self fs hroot, find?_set_self fs' hroot]
    · rw [find?_set_of_ne fs hput, find?_set_of_ne fs' hput, h.elsewhere other hother]

/-- Directories are made on both or on neither. -/
theorem makeDirectory (h : SameBut loc fs fs') (p : FilePath) :
    (∃ made made', fs.makeDirectory p = .ok made ∧ fs'.makeDirectory p = .ok made' ∧
      SameBut loc made made') ∨ ∃ f, fs.makeDirectory p = .error f ∧ fs'.makeDirectory p = .error f := by
  cases hloc : fs.locate p with
  | error f =>
    right
    refine ⟨f, ?_, ?_⟩
    · rw [FileSystem.makeDirectory, hloc]
      rfl
    · rw [FileSystem.makeDirectory, h.locate, hloc]
      rfl
  | ok there =>
    have hmake := makeDirectory_of_locate hloc
    have hmake' := makeDirectory_of_locate ((h.locate p).trans hloc)
    obtain ⟨bytes, hfile⟩ := h.file
    obtain ⟨bytes', hfile'⟩ := h.file'
    by_cases hthere : there = loc
    · -- A file is in the way of a directory, with any content.
      subst hthere
      rw [hfile] at hmake
      rw [hfile'] at hmake'
      exact .inr ⟨_, hmake, hmake'⟩
    · rw [h.elsewhere there hthere] at hmake'
      by_cases hsome : (fs.find? there).isSome = true
      · rw [if_pos hsome] at hmake hmake'
        exact .inr ⟨_, hmake, hmake'⟩
      · rw [if_neg hsome] at hmake hmake'
        have hroot : there ≠ [] := by
          rintro rfl
          exact hsome rfl
        exact .inl ⟨_, _, hmake, hmake', h.set hroot fun he => absurd he hthere⟩

theorem write (h : SameBut loc fs fs') (p : FilePath) (bytes : List UInt8) :
    (∃ written written', fs.write p bytes = .ok written ∧ fs'.write p bytes = .ok written' ∧
      SameBut loc written written') ∨ ∃ f, fs.write p bytes = .error f ∧ fs'.write p bytes = .error f := by
  cases hloc : fs.locate p with
  | error f =>
    right
    refine ⟨f, ?_, ?_⟩
    · rw [FileSystem.write, hloc]
      rfl
    · rw [FileSystem.write, h.locate, hloc]
      rfl
  | ok there =>
    have hwrite := write_of_locate hloc bytes
    have hwrite' := write_of_locate ((h.locate p).trans hloc) bytes
    have hdirectory : fs'.find? there = some .directory ↔ fs.find? there = some .directory := by
      by_cases hthere : there = loc
      · obtain ⟨bytes, hfile⟩ := h.file
        obtain ⟨bytes', hfile'⟩ := h.file'
        rw [hthere, hfile, hfile']
        simp
      · rw [h.elsewhere there hthere]
    simp only [hdirectory] at hwrite'
    by_cases hd : fs.find? there = some .directory
    · rw [if_pos hd] at hwrite hwrite'
      exact .inr ⟨_, hwrite, hwrite'⟩
    · rw [if_neg hd] at hwrite hwrite'
      have hfile : Entry.file bytes ≠ .directory := by
        intro he
        cases he
      exact .inl ⟨_, _, hwrite, hwrite', h.set (ne_root_of_not_directory hd) fun _ => hfile⟩

theorem ensureDirectory (h : SameBut loc fs fs') (p : FilePath) :
    (fs'.ensureDirectory p).1 = (fs.ensureDirectory p).1 ∧
      SameBut loc (fs.ensureDirectory p).2 (fs'.ensureDirectory p).2 := by
  rcases h.makeDirectory p with ⟨made, made', hmade, hmade', hsame⟩ | ⟨f, hf, hf'⟩
  · rw [FileSystem.ensureDirectory, FileSystem.ensureDirectory, hmade, hmade']
    exact ⟨rfl, hsame⟩
  · have haccept : fs'.acceptDirectory p f = fs.acceptDirectory p f := by
      rw [acceptDirectory, acceptDirectory, h.isDirectoryAt]
    rw [FileSystem.ensureDirectory, FileSystem.ensureDirectory, hf, hf']
    cases f with
    | nullCharacter => exact ⟨rfl, h⟩
    | refused reason target =>
      cases reason with
      | notFound => exact ⟨rfl, h⟩
      | _ => exact ⟨haccept, h⟩

/-- By recursion up to the first directory that is there: they are made on both or on neither. -/
theorem ensureDirectories (h : SameBut loc fs fs') (p : FilePath) :
    (fs'.ensureDirectories p).1 = (fs.ensureDirectories p).1 ∧
      SameBut loc (fs.ensureDirectories p).2 (fs'.ensureDirectories p).2 := by
  obtain ⟨hmade, hsame⟩ := h.ensureDirectory p
  -- The induction goes up the path; on either side the same directories are missing.
  induction p using ensureDirectories.induct fs with
  | case1 p target r hr hp =>
    rw [hr] at hmade
    rw [ensureDirectories_of_noSteps hmade hp, ensureDirectories_of_noSteps (congrArg Prod.fst hr) hp]
    exact ⟨rfl, h⟩
  | case2 p target r hr hp f made hup ih =>
    obtain ⟨hparent, hfiles⟩ := ih (h.ensureDirectory p.parent).1 (h.ensureDirectory p.parent).2
    rw [hr] at hmade
    rw [hup] at hparent
    rw [ensureDirectories_of_stopped hmade hp hparent,
      ensureDirectories_of_stopped (congrArg Prod.fst hr) hp (congrArg Prod.fst hup)]
    exact ⟨hparent.trans (congrArg Prod.fst hup).symm, hfiles⟩
  | case3 p target r hr hp made hup ih =>
    obtain ⟨hparent, hfiles⟩ := ih (h.ensureDirectory p.parent).1 (h.ensureDirectory p.parent).2
    rw [hr] at hmade
    rw [hup] at hparent
    rw [ensureDirectories_of_parent hmade hp hparent,
      ensureDirectories_of_parent (congrArg Prod.fst hr) hp (congrArg Prod.fst hup)]
    exact hfiles.ensureDirectory p
  | case4 p hr =>
    have hfound : ∀ target, (fs.ensureDirectory p).1 ≠ .error (.refused .notFound target) :=
      fun target he => hr target (fs.ensureDirectory p).2 (Prod.ext he rfl)
    have hfound' : ∀ target, (fs'.ensureDirectory p).1 ≠ .error (.refused .notFound target) := by
      rwa [hmade]
    rw [ensureDirectories_of_found hfound', ensureDirectories_of_found hfound]
    exact ⟨hmade, hsame⟩

end SameBut

end FileSystem

namespace FileSystem.SameBut

variable {loc : Location} {h h' : Host} {source output : FilePath} {cap : Option Int}

/-- Writing a text goes the same way on both. -/
theorem writeText (hsame : SameBut loc h.files h'.files) (file : FilePath) (t : Text) :
    (Shorthand.writeText file t h').1 = (Shorthand.writeText file t h).1 ∧
      SameBut loc (Shorthand.writeText file t h).2.files (Shorthand.writeText file t h').2.files := by
  obtain ⟨hmade, hfiles⟩ := hsame.ensureDirectories file.parent
  rcases hrun : h.files.ensureDirectories file.parent with ⟨made, files⟩
  rcases hrun' : h'.files.ensureDirectories file.parent with ⟨made', files'⟩
  rw [hrun, hrun'] at hmade hfiles
  obtain rfl : made' = made := hmade
  rw [Shorthand.writeText, bind_apply, bind_apply, get_apply, get_apply]
  simp only [hrun, hrun']
  rw [bind_apply, bind_apply, setFiles_apply, setFiles_apply]
  dsimp only
  rw [bind_apply, bind_apply, attempt_apply, attempt_apply]
  cases made' with
  | error f => exact ⟨rfl, hfiles⟩
  | ok done =>
    dsimp only
    rw [change_apply, change_apply]
    rcases hfiles.write file (Utf8.encode t) with ⟨written, written', hw, hw', hwritten⟩ | ⟨f, hf, hf'⟩
    · dsimp only at hw hw' ⊢
      rw [hw, hw']
      exact ⟨rfl, hwritten⟩
    · dsimp only at hf hf' ⊢
      rw [hf, hf']
      exact ⟨rfl, hfiles⟩

/-- Where the source expands to the same, the expansion has the same outcome, and all files but that one are
the same behind it. -/
theorem expandFile (h h' : Host) (hsame : SameBut loc h.files h'.files)
    (he : h'.files.expansionAt source cap = h.files.expansionAt source cap) (output : FilePath) :
    (Shorthand.expandFile source output cap h').1 = (Shorthand.expandFile source output cap h).1 ∧
      SameBut loc (Shorthand.expandFile source output cap h).2.files
        (Shorthand.expandFile source output cap h').2.files := by
  obtain ⟨h₁, hfiles, hrun⟩ := expandFile_apply source output cap h
  obtain ⟨h₁', hfiles', hrun'⟩ := expandFile_apply source output cap h'
  have hbefore : SameBut loc h₁.files h₁'.files := by rwa [hfiles, hfiles']
  rw [he] at hrun'
  rw [hrun, hrun']
  cases h.files.expansionAt source cap with
  | error f => exact ⟨rfl, hbefore⟩
  | ok t =>
    obtain ⟨hmade, hwritten⟩ := hbefore.writeText output t
    dsimp only
    rw [bind_apply, bind_apply]
    rcases hw : Shorthand.writeText output t h₁ with ⟨made, h₂⟩
    rcases hw' : Shorthand.writeText output t h₁' with ⟨made', h₂'⟩
    rw [hw, hw'] at hmade hwritten
    obtain rfl : made' = made := hmade
    cases made' with
    | error f => exact ⟨rfl, hwritten⟩
    | ok done => exact ⟨rfl, hwritten⟩

end FileSystem.SameBut

/-- Where the output stands in a directory that is there, the expansion succeeds on either if it does on
one. -/
theorem FileSystem.SameAround.expandFile {loc : Location} {source output : FilePath} {cap : Option Int}
    {t : Text} (h h' : Host) (hsame : SameAround loc h.files h'.files)
    (hp : h.files.locate source ≠ .ok loc)
    (hparent : h.files.entryAt output.parent = .ok (some .directory))
    (hr : (Shorthand.expandFile source output cap h).1 = .ok t) :
    (Shorthand.expandFile source output cap h').1 = .ok t := by
  obtain ⟨h₁, hfiles, hrun⟩ := expandFile_apply source output cap h
  obtain ⟨h₁', hfiles', hrun'⟩ := expandFile_apply source output cap h'
  cases he : h.files.expansionAt source cap with
  | error f =>
    rw [hrun, he] at hr
    cases hr
  | ok text =>
    rw [hrun, he] at hr
    rw [hrun', hsame.expansionAt hp he]
    have hparent' : h₁'.files.entryAt output.parent = .ok (some .directory) :=
      hfiles' ▸ hsame.entryAt_directory hparent
    rw [← hfiles] at hparent
    dsimp only at hr ⊢
    rw [bind_apply, writeText_of_directory hparent, change_apply] at hr
    rw [bind_apply, writeText_of_directory hparent', change_apply]
    cases hw : h₁.files.write output (Utf8.encode text) with
    | error f =>
      rw [hw] at hr
      cases hr
    | ok written =>
      obtain ⟨written', hw'⟩ := hsame.write (hfiles ▸ hw)
      rw [hw] at hr
      rw [hfiles', hw']
      exact hr

end Shorthand
