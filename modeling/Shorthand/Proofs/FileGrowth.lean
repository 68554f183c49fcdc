import Shorthand.Files

/-! File systems that grow. Making directories, and writing a file where there is no directory, keeps
every directory where it is, so a path that led somewhere still leads there. Main statements:
`ensureDirectories_grown` and `Grown.written`. -/
namespace Shorthand

namespace FilePath

/-- `a` is `p` or names one of the directories on the way to it. -/
def LeadsTo (a p : FilePath) : Prop := a.anchor = p.anchor ∧ a.steps <+: p.steps

theorem LeadsTo.refl (p : FilePath) : p.LeadsTo p := ⟨rfl, List.prefix_rfl⟩

theorem LeadsTo.of_parent {a p : FilePath} (h : a.LeadsTo p.parent) : a.LeadsTo p :=
  ⟨h.1, h.2.trans (List.dropLast_prefix p.steps)⟩

/-- No path and no name in a path is this long. -/
def Overlong (p : FilePath) : Prop :=
  FileSystem.maxPathLength < (Utf8.encode p.toText).length ∨
    ∃ step ∈ Text.cut '/' p.toText, FileSystem.maxNameLength < (Utf8.encode step).length

end FilePath

namespace FileSystem

variable {fs fs' fs'' : FileSystem} {p q : FilePath} {loc there : Location} {steps : List Text}
  {bytes : List UInt8}

/-- There is nothing at a path. -/
def Missing (fs : FileSystem) (p : FilePath) : Prop := ∀ loc, fs.locate p = .ok loc → fs.find? loc = none

/-- One step from a directory: it stays, it goes up, or it goes down by a name that is not too long. -/
theorem follow_cons_of_directory {step : Text} (h : fs.find? loc = some .directory) :
    fs.follow loc (step :: steps) =
      if step = [] ∨ step = ['.'] then fs.follow loc steps
      else if step = ['.', '.'] then fs.follow loc.dropLast steps
      else if maxNameLength < (Utf8.encode step).length then .error .nameTooLong
      else fs.follow (loc ++ [step]) steps := by
  rw [follow, h]

theorem follow_cons_eq_ok {step : Text} (h : fs.follow loc (step :: steps) = .ok there) :
    fs.find? loc = some .directory := by
  rw [follow] at h
  split at h
  · cases h
  · cases h
  · assumption

/-- Steps lead nowhere because something is missing, is no directory, or has a name that is too long. -/
theorem follow_eq_error {r : Refusal} (h : fs.follow loc steps = .error r) :
    r = .notFound ∨ r = .notDirectory ∨
      (r = .nameTooLong ∧ ∃ step ∈ steps, maxNameLength < (Utf8.encode step).length) := by
  induction steps generalizing loc with
  | nil => cases h
  | cons step steps ih =>
    have hlater : ∀ {loc}, fs.follow loc steps = .error r → r = .notFound ∨ r = .notDirectory ∨
        (r = .nameTooLong ∧ ∃ s ∈ step :: steps, maxNameLength < (Utf8.encode s).length) := by
      intro loc h
      rcases ih h with h | h | ⟨h, s, hs, hlong⟩
      · exact .inl h
      · exact .inr (.inl h)
      · exact .inr (.inr ⟨h, s, List.mem_cons_of_mem _ hs, hlong⟩)
    rw [follow] at h
    split at h
    · exact .inl (Except.error.inj h).symm
    · exact .inr (.inl (Except.error.inj h).symm)
    split at h
    · exact hlater h
    split at h
    · exact hlater h
    split at h
    · rename_i hlong
      exact .inr (.inr ⟨(Except.error.inj h).symm, step, List.mem_cons_self, hlong⟩)
    · exact hlater h

theorem length_le_of_follow_eq_ok (h : fs.follow loc steps = .ok there) :
    ∀ step ∈ steps, (Utf8.encode step).length ≤ maxNameLength := by
  induction steps generalizing loc with
  | nil => intro step hs; cases hs
  | cons step steps ih =>
    rw [follow_cons_of_directory (follow_cons_eq_ok h)] at h
    intro s hs
    rcases List.mem_cons.1 hs with rfl | hs
    · -- A name that is too long is refused, and no step that is not a name is as long.
      refine Nat.le_of_not_lt fun hlong => ?_
      have hdots : ¬ (s = [] ∨ s = ['.']) ∧ s ≠ ['.', '.'] := by
        refine ⟨?_, ?_⟩
        · rintro (rfl | rfl) <;> exact absurd hlong (by decide)
        · rintro rfl
          exact absurd hlong (by decide)
      rw [if_neg hdots.1, if_neg hdots.2, if_pos hlong] at h
      cases h
    · split at h
      · exact ih h s hs
      split at h
      · exact ih h s hs
      split at h
      · cases h
      · exact ih h s hs

/-- No path that leads anywhere is too long. -/
theorem missing_of_overlong (h : p.Overlong) : fs.Missing p := by
  intro loc hloc
  rw [locate] at hloc
  split at hloc
  · cases hloc
  split at hloc
  · cases hloc
  rename_i hshort
  rcases h with hlong | ⟨step, hs, hlong⟩
  · exact absurd hlong hshort
  cases hf : fs.follow (if p.isAbsolute then [] else fs.current) (Text.cut '/' p.toText) with
  | error r => rw [hf] at hloc; cases hloc
  | ok there => exact absurd hlong (Nat.not_lt.2 (length_le_of_follow_eq_ok hf step hs))

theorem entryAt_of_locate (h : fs.locate p = .ok loc) : fs.entryAt p = .ok (fs.find? loc) := by
  rw [entryAt, h]
  rfl

theorem makeDirectory_of_locate (h : fs.locate p = .ok loc) : fs.makeDirectory p =
    if (fs.find? loc).isSome then .error (Refusal.exists.at p) else .ok (fs.set loc .directory) := by
  rw [makeDirectory, h]
  rfl

theorem write_of_locate (h : fs.locate p = .ok loc) (bytes : List UInt8) : fs.write p bytes =
    if fs.find? loc = some .directory then .error (Refusal.isDirectory.at p)
    else .ok (fs.set loc (.file bytes)) := by
  rw [write, h]
  rfl

/-- A directory is made where there is nothing. -/
theorem makeDirectory_eq_ok_iff : fs.makeDirectory p = .ok fs' ↔
    ∃ loc, fs.locate p = .ok loc ∧ fs.find? loc = none ∧ fs' = fs.set loc .directory := by
  cases hloc : fs.locate p with
  | error f =>
    have hmake : fs.makeDirectory p = .error f := by
      rw [makeDirectory, hloc]
      rfl
    simp [hmake]
  | ok loc =>
    rw [makeDirectory_of_locate hloc]
    cases hfound : fs.find? loc with
    | none => simp [hfound, eq_comm]
    | some e => simp [hfound]

/-- A file is written where there is no directory. -/
theorem write_eq_ok_iff : fs.write p bytes = .ok fs' ↔
    ∃ loc, fs.locate p = .ok loc ∧ fs.find? loc ≠ some .directory ∧ fs' = fs.set loc (.file bytes) := by
  cases hloc : fs.locate p with
  | error f =>
    have hwrite : fs.write p bytes = .error f := by
      rw [write, hloc]
      rfl
    simp [hwrite]
  | ok loc =>
    rw [write_of_locate hloc]
    by_cases hfound : fs.find? loc = some .directory
    · simp [hfound]
    · rw [if_neg hfound]
      constructor
      · intro h
        exact ⟨loc, rfl, hfound, (Except.ok.inj h).symm⟩
      · rintro ⟨there, hthere, -, rfl⟩
        obtain rfl := Except.ok.inj hthere
        rfl

/-- Whether a missing path leads to something is answered, or the path is too long for the question. -/
theorem existsAt_of_missing (h : fs.Missing p) :
    fs.existsAt p = .ok false ∨ (p.Overlong ∧ fs.existsAt p = .error (Refusal.nameTooLong.at p)) := by
  cases hl : fs.locate p with
  | ok loc =>
    left
    rw [existsAt, ask, entryAt_of_locate hl, h loc hl]
    rfl
  | error f =>
    rw [existsAt, ask, entryAt, hl]
    rw [locate] at hl
    split at hl
    · cases hl
      exact .inl rfl
    split at hl
    · cases hl
      exact .inr ⟨.inl ‹_›, rfl⟩
    cases hf : fs.follow (if p.isAbsolute then [] else fs.current) (Text.cut '/' p.toText) with
    | ok there => rw [hf] at hl; cases hl
    | error r =>
      rw [hf] at hl
      cases hl
      rcases follow_eq_error hf with rfl | rfl | ⟨rfl, hlong⟩
      · exact .inl rfl
      · exact .inl rfl
      · exact .inr ⟨.inr hlong, rfl⟩

/-- A file is read exactly if the path leads to a location that has it. -/
theorem read_eq_ok_iff :
    fs.read p = .ok bytes ↔ ∃ loc, fs.locate p = .ok loc ∧ fs.find? loc = some (.file bytes) := by
  cases hl : fs.locate p with
  | error f =>
    have hread : fs.read p = .error f := by
      rw [read, entryAt, hl]
      rfl
    simp [hread]
  | ok loc =>
    cases he : fs.find? loc with
    | none =>
      have hread : fs.read p = .error (Refusal.notFound.at p) := by
        rw [read, entryAt_of_locate hl, he]
        rfl
      simp [hread, he]
    | some e =>
      cases e with
      | directory =>
        have hread : fs.read p = .error (Refusal.isDirectory.at p) := by
          rw [read, entryAt_of_locate hl, he]
          rfl
        simp [hread, he]
      | file content =>
        have hread : fs.read p = .ok content := by
          rw [read, entryAt_of_locate hl, he]
          rfl
        simp [hread, he]

theorem existsAt_of_read (h : fs.read p = .ok bytes) : fs.existsAt p = .ok true := by
  obtain ⟨loc, hloc, he⟩ := read_eq_ok_iff.1 h
  rw [existsAt, ask, entryAt_of_locate hloc, he]
  rfl

structure KeepsDirectories (fs fs' : FileSystem) : Prop where
  current : fs'.current = fs.current
  directory : ∀ loc, fs.find? loc = some .directory → fs'.find? loc = some .directory

/-- Where directories are kept, steps lead where they led. -/
theorem KeepsDirectories.follow (hk : KeepsDirectories fs fs') (h : fs.follow loc steps = .ok there) :
    fs'.follow loc steps = .ok there := by
  -- Every step starts in a directory, and that directory is still there.
  induction steps generalizing loc with
  | nil => exact h
  | cons step steps ih =>
    have hd := follow_cons_eq_ok h
    rw [follow_cons_of_directory hd] at h
    rw [follow_cons_of_directory (hk.directory loc hd)]
    by_cases h0 : step = [] ∨ step = ['.']
    · rw [if_pos h0] at h ⊢
      exact ih h
    rw [if_neg h0] at h ⊢
    by_cases h2 : step = ['.', '.']
    · rw [if_pos h2] at h ⊢
      exact ih h
    rw [if_neg h2] at h ⊢
    by_cases hlong : maxNameLength < (Utf8.encode step).length
    · rw [if_pos hlong] at h
      cases h
    rw [if_neg hlong] at h ⊢
    exact ih h

/-- Where directories are kept, paths lead where they led. -/
theorem KeepsDirectories.locate (hk : KeepsDirectories fs fs') (h : fs.locate p = .ok loc) :
    fs'.locate p = .ok loc := by
  rw [FileSystem.locate] at h ⊢
  by_cases h0 : '\x00' ∈ p.toText
  · rw [if_pos h0] at h
    cases h
  rw [if_neg h0] at h ⊢
  by_cases hlong : maxPathLength < (Utf8.encode p.toText).length
  · rw [if_pos hlong] at h
    cases h
  rw [if_neg hlong, hk.current]
  rw [if_neg hlong] at h
  cases hf : fs.follow (if p.isAbsolute then [] else fs.current) (Text.cut '/' p.toText) with
  | error r => rw [hf] at h; cases h
  | ok there =>
    rw [hf] at h
    rw [hk.follow hf]
    exact h

theorem ne_root_of_not_directory (h : fs.find? loc ≠ some .directory) : loc ≠ [] := by
  rintro rfl
  exact h (find?_root fs)

/-- Putting an entry where there is no directory keeps all directories. -/
theorem keepsDirectories_set (h : fs.find? loc ≠ some .directory) (e : Entry) :
    KeepsDirectories fs (fs.set loc e) where
  current := rfl
  directory other hd := by
    have hne : other ≠ loc := fun he => h (he ▸ hd)
    rw [find?_set_of_ne fs hne, hd]

/-- `fs'` has what `fs` has and, where there was nothing, perhaps a directory that leads to `p`. -/
structure Grown (fs : FileSystem) (p : FilePath) (fs' : FileSystem) : Prop where
  current : fs'.current = fs.current
  entry : ∀ loc, fs'.find? loc = fs.find? loc ∨
    (fs.find? loc = none ∧ fs'.find? loc = some .directory ∧
      ∃ a : FilePath, a.LeadsTo p ∧ fs'.locate a = .ok loc)

namespace Grown

theorem refl (fs : FileSystem) (p : FilePath) : Grown fs p fs := ⟨rfl, fun _ => .inl rfl⟩

theorem keepsDirectories (h : Grown fs p fs') : KeepsDirectories fs fs' where
  current := h.current
  directory loc hd := by
    rcases h.entry loc with he | ⟨hn, -, -⟩
    · rw [he, hd]
    · rw [hn] at hd
      cases hd

/-- What has grown twice towards one path has grown towards it. -/
theorem trans (h : Grown fs p fs') (h' : Grown fs' p fs'') : Grown fs p fs'' where
  current := h'.current.trans h.current
  entry loc := by
    -- What the second growth finds missing was missing before the first, which made nothing there.
    rcases h'.entry loc with he' | ⟨hn', hd', ha'⟩
    · rcases h.entry loc with he | ⟨hn, hd, a, ha, hloc⟩
      · exact .inl (he'.trans he)
      · exact .inr ⟨hn, he'.trans hd, a, ha, h'.keepsDirectories.locate hloc⟩
    · rcases h.entry loc with he | ⟨-, hd, -⟩
      · exact .inr ⟨he ▸ hn', hd', ha'⟩
      · rw [hd] at hn'
        cases hn'

theorem of_parent (h : Grown fs p.parent fs') : Grown fs p fs' where
  current := h.current
  entry loc := by
    rcases h.entry loc with he | ⟨hn, hd, a, ha, hloc⟩
    · exact .inl he
    · exact .inr ⟨hn, hd, a, ha.of_parent, hloc⟩

end Grown

/-- Making a directory makes nothing else. -/
theorem makeDirectory_grown (h : fs.makeDirectory p = .ok fs') : Grown fs p fs' := by
  obtain ⟨loc, hloc, hn, rfl⟩ := makeDirectory_eq_ok_iff.mp h
  have hnd : fs.find? loc ≠ some .directory := hn ▸ (Option.some_ne_none _).symm
  refine ⟨rfl, fun other => ?_⟩
  by_cases he : other = loc
  · subst he
    exact .inr ⟨hn, find?_set_self fs (ne_root_of_not_directory hnd) _, p, .refl p,
      (keepsDirectories_set hnd _).locate hloc⟩
  · exact .inl (find?_set_of_ne fs he _)

/-- Whether it succeeds or fails, nothing is made but the directory itself. -/
theorem ensureDirectory_grown (fs : FileSystem) (p : FilePath) : Grown fs p (fs.ensureDirectory p).2 := by
  rw [ensureDirectory]
  split
  · exact makeDirectory_grown ‹_›
  all_goals exact .refl fs p

/-- Nothing but directories on the way to `p` is made, also where that fails in the end. -/
theorem ensureDirectories_grown (fs : FileSystem) (p : FilePath) :
    Grown fs p (fs.ensureDirectories p).2 := by
  -- The induction goes up the path: where a directory is not found, its parent is made first.
  induction p using ensureDirectories.induct fs with
  | case1 p target r hr hp =>
    rw [ensureDirectories, hr]
    simp only [hp, dite_true]
    exact .refl fs p
  | case2 p target r hr hp f fs' hup ih =>
    rw [ensureDirectories, hr]
    simp only [hp, dite_false, hup]
    rw [hup] at ih
    exact ih.of_parent
  | case3 p target r hr hp fs' hup ih =>
    rw [ensureDirectories, hr]
    simp only [hp, dite_false, hup]
    rw [hup] at ih
    exact ih.of_parent.trans (ensureDirectory_grown fs' p)
  | case4 p hr =>
    rw [ensureDirectories]
    split
    · exact absurd ‹_› (hr _ _)
    · exact ensureDirectory_grown fs p

/-- `fs'` is `fs` with a file written at `p`, and with directories on the way to it where there was
nothing. -/
structure Written (fs : FileSystem) (p : FilePath) (bytes : List UInt8) (fs' : FileSystem) : Prop
    extends KeepsDirectories fs fs' where
  content : fs'.read p = .ok bytes
  elsewhere : ∀ loc, fs'.find? loc ≠ fs.find? loc → fs'.locate p = .ok loc ∨
    (fs.find? loc = none ∧ fs'.find? loc = some .directory ∧
      ∃ a : FilePath, a.LeadsTo p.parent ∧ fs'.locate a = .ok loc)

/-- Directories made on the way and a file written behind them change nothing else. -/
theorem Grown.written (hg : Grown fs p.parent fs') (hw : fs'.write p bytes = .ok fs'') :
    Written fs p bytes fs'' := by
  obtain ⟨loc, hloc, hnd, rfl⟩ := write_eq_ok_iff.mp hw
  have hk := keepsDirectories_set hnd (.file bytes)
  refine ⟨⟨hg.current, fun other hd => hk.directory other (hg.keepsDirectories.directory other hd)⟩, ?_, ?_⟩
  · exact read_eq_ok_iff.2 ⟨loc, hk.locate hloc, find?_set_self fs' (ne_root_of_not_directory hnd) _⟩
  intro other hne
  by_cases he : other = loc
  · exact .inl (he ▸ hk.locate hloc)
  rw [find?_set_of_ne fs' he] at hne ⊢
  rcases hg.entry other with hsame | ⟨hn, hd, a, ha, hthere⟩
  · exact absurd hsame hne
  · exact .inr ⟨hn, hd, a, ha, hk.locate hthere⟩

/-- A file elsewhere stays as it is. -/
theorem Written.read_eq (h : Written fs p bytes fs') {old : List UInt8} (hq : fs.read q = .ok old)
    (hne : fs'.locate q ≠ fs'.locate p) : fs'.read q = .ok old := by
  obtain ⟨loc, hloc, he⟩ := read_eq_ok_iff.1 hq
  have hloc' := h.toKeepsDirectories.locate hloc
  refine read_eq_ok_iff.2 ⟨loc, hloc', ?_⟩
  by_cases hsame : fs'.find? loc = fs.find? loc
  · rw [hsame, he]
  rcases h.elsewhere loc hsame with hp | ⟨hn, -, -⟩
  · exact absurd (hloc'.trans hp.symm) hne
  · rw [hn] at he
    cases he

end FileSystem

end Shorthand
