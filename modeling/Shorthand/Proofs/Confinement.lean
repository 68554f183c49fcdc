import Shorthand.Proofs.Atomicity
import Shorthand.Proofs.DerivedName

/-! Changes at one place. Removing a file changes nothing but its place, and so does writing one whose
directory is there; hence an expansion to a derived output touches that output alone. Main statements:
`removeFile_of_read` and `expandFile_confined`. -/
namespace Shorthand

namespace FileSystem

variable {fs fs' fs'' : FileSystem} {p q : FilePath} {loc : Location} {bytes : List UInt8} {e : Entry}

/-- There is an entry at a path exactly if the path leads to a location that has it. -/
theorem entryAt_eq_some_iff :
    fs.entryAt p = .ok (some e) ↔ ∃ loc, fs.locate p = .ok loc ∧ fs.find? loc = some e := by
  constructor
  · intro h
    cases hloc : fs.locate p with
    | error f =>
      rw [entryAt, hloc] at h
      cases h
    | ok loc =>
      rw [entryAt_of_locate hloc] at h
      exact ⟨loc, rfl, Except.ok.inj h⟩
  · rintro ⟨loc, hloc, he⟩
    rw [entryAt_of_locate hloc, he]

/-- `fs'` differs from `fs` at most at the place to which `p` leads. -/
structure Confined (fs : FileSystem) (p : FilePath) (fs' : FileSystem) : Prop
    extends KeepsDirectories fs fs' where
  elsewhere : ∀ loc, fs.locate p ≠ .ok loc → fs'.find? loc = fs.find? loc

namespace Confined

theorem refl (fs : FileSystem) (p : FilePath) : Confined fs p fs :=
  ⟨⟨rfl, fun _ hd => hd⟩, fun _ _ => rfl⟩

/-- Two changes at one place are a change at that place. -/
theorem trans (h : Confined fs p fs') (h' : Confined fs' p fs'') : Confined fs p fs'' := by
  refine ⟨⟨h'.current.trans h.current, fun loc hd => h'.directory loc (h.directory loc hd)⟩, ?_⟩
  intro loc hne
  have hne' : fs'.locate p ≠ .ok loc := by
    intro hloc'
    cases hloc : fs.locate p with
    | ok there =>
      rw [h.toKeepsDirectories.locate hloc] at hloc'
      exact hne (hloc.trans hloc')
    | error f =>
      have hback : KeepsDirectories fs' fs := by
        refine ⟨h.current.symm, fun other hd => ?_⟩
        rwa [h.elsewhere other (by rw [hloc]; exact nofun)] at hd
      rw [hback.locate hloc'] at hloc
      cases hloc
  rw [h'.elsewhere loc hne', h.elsewhere loc hne]

/-- What there is at a path is still there, unless the path leads to the place of the change. -/
theorem entryAt (h : Confined fs p fs') (he : fs.entryAt q = .ok (some e)) :
    fs'.entryAt q = .ok (some e) ∨ fs.locate q = fs.locate p := by
  obtain ⟨loc, hloc, he⟩ := entryAt_eq_some_iff.mp he
  by_cases hp : fs.locate p = .ok loc
  · exact .inr (hloc.trans hp.symm)
  · have hthere := h.toKeepsDirectories.locate hloc
    exact .inl (entryAt_eq_some_iff.mpr ⟨loc, hthere, (h.elsewhere loc hp).trans he⟩)

end Confined

/-- Putting an entry where there is no directory changes that place alone. -/
theorem confined_set (hloc : fs.locate p = .ok loc) (h : fs.find? loc ≠ some .directory) (e : Entry) :
    Confined fs p (fs.set loc e) where
  toKeepsDirectories := keepsDirectories_set h e
  elsewhere other hother := by
    have hne : other ≠ loc := fun he => hother (he ▸ hloc)
    rw [find?_set_of_ne fs hne]

/-- Removing what is no directory changes that place alone. -/
theorem confined_erase (hloc : fs.locate p = .ok loc) (h : fs.find? loc ≠ some .directory) :
    Confined fs p (fs.erase loc) where
  current := rfl
  directory other hd := by
    have hne : other ≠ loc := fun he => h (he ▸ hd)
    rw [find?_erase_of_ne fs hne, hd]
  elsewhere other hother := by
    have hne : other ≠ loc := fun he => hother (he ▸ hloc)
    rw [find?_erase_of_ne fs hne]

theorem write_confined (h : fs.write p bytes = .ok fs') : Confined fs p fs' := by
  obtain ⟨loc, hloc, hfree, rfl⟩ := write_eq_ok_iff.mp h
  exact confined_set hloc hfree _

/-- A directory that is there need not be made. -/
theorem ensureDirectories_of_directory (h : fs.entryAt p = .ok (some .directory)) :
    fs.ensureDirectories p = (.ok (), fs) := by
  obtain ⟨loc, hloc, hd⟩ := entryAt_eq_some_iff.mp h
  have hmake : fs.makeDirectory p = .error (Refusal.exists.at p) := by
    rw [makeDirectory_of_locate hloc, hd]
    rfl
  have haccept : fs.acceptDirectory p (Refusal.exists.at p) = .ok () := by
    rw [acceptDirectory, isDirectoryAt, ask, h]
    rfl
  have hensure : fs.ensureDirectory p = (.ok (), fs) := by
    rw [ensureDirectory, hmake]
    exact congrArg (·, fs) haccept
  rw [ensureDirectories, hensure]

/-- `fs'` is `fs` without the file at `p`. -/
structure Removed (fs : FileSystem) (p : FilePath) (fs' : FileSystem) : Prop
    extends Confined fs p fs' where
  gone : fs'.Missing p

theorem Removed.existsAt (h : Removed fs p fs') (hloc : fs.locate p = .ok loc) :
    fs'.existsAt p = .ok false := by
  have hthere := h.toKeepsDirectories.locate hloc
  rw [FileSystem.existsAt, ask, entryAt_of_locate hthere, h.gone loc hthere]
  rfl

/-- A file that can be read can be removed, and nothing else goes with it. -/
theorem unlink_of_read (h : fs.read p = .ok bytes) :
    ∃ fs', fs.unlink p = .ok fs' ∧ Removed fs p fs' := by
  obtain ⟨loc, hloc, he⟩ := read_eq_ok_iff.1 h
  have hfile : fs.find? loc ≠ some .directory := by
    rw [he]
    exact nofun
  have hc := confined_erase hloc hfile
  refine ⟨fs.erase loc, ?_, hc, ?_⟩
  · rw [unlink, hloc]
    simp only [bind, Except.bind, he]
  · intro there hthere
    rw [hc.toKeepsDirectories.locate hloc] at hthere
    cases hthere
    exact find?_erase_self fs (ne_root_of_not_directory hfile)

end FileSystem

open HostM

variable {file source output : FilePath} {cap : Option Int} {t suffix : Text} {startedAt : Int} {h : Host}

/-- A file that can be read is removed. -/
theorem removeFile_of_read {bytes : List UInt8} (hb : h.files.read file = .ok bytes) :
    ∃ files events, h.files.Removed file files ∧
      removeFile file h = (.ok true, { h with files := files, events := events }) := by
  obtain ⟨files, hunlink, hremoved⟩ := FileSystem.unlink_of_read hb
  refine ⟨files, .deleted file :: h.events, hremoved, ?_⟩
  rw [removeFile, bind_apply, inspect_apply, FileSystem.existsAt_of_read hb]
  dsimp only
  rw [if_pos rfl, bind_apply, change_apply, hunlink]
  rfl

/-- Where the directory of a file is there, nothing but the file is written. -/
theorem writeText_of_directory (hparent : h.files.entryAt file.parent = .ok (some .directory)) (t : Text) :
    writeText file t h = change (·.write file (Utf8.encode t)) h := by
  rw [writeText, bind_apply, get_apply]
  simp only [FileSystem.ensureDirectories_of_directory hparent]
  rw [bind_apply, setFiles_apply]
  dsimp only
  rw [bind_apply, attempt_apply]

/-- Where the directory of a file is there, writing it touches the file alone, also if that fails. -/
theorem writeText_confined (hparent : h.files.entryAt file.parent = .ok (some .directory)) (t : Text) :
    h.files.Confined file (writeText file t h).2.files := by
  rw [writeText_of_directory hparent, change_apply]
  cases hw : h.files.write file (Utf8.encode t) with
  | error f => exact .refl _ _
  | ok files => exact FileSystem.write_confined hw

/-- Only a text that expands is written, and then the directory of a derived output is there. -/
theorem expandFile_confined {source : Text}
    (hn : outputPath (.ofText source) startedAt suffix = .ok output) (cap : Option Int) (h : Host) :
    h.files.Confined output (expandFile (.ofText source) output cap h).2.files := by
  obtain ⟨h₁, hfiles, hrun⟩ := expandFile_apply (.ofText source) output cap h
  rw [hrun, ← hfiles]
  cases he : h₁.files.expansionAt (.ofText source) cap with
  | error f => exact .refl _ _
  | ok expanded =>
    obtain ⟨written, hb, -⟩ := FileSystem.expansionAt_eq_ok he
    obtain ⟨loc, hloc, -⟩ := FileSystem.read_eq_ok_iff.1 hb
    have hwrite := writeText_confined (entryAt_parent_of_derived hn hloc) expanded
    dsimp only
    rw [bind_apply]
    rcases hw : writeText output expanded h₁ with ⟨_ | _, h₂⟩ <;> rw [hw] at hwrite <;> exact hwrite

end Shorthand
