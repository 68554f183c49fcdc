import Shorthand.Proofs.Invocation

/-! Deletion of the output. Whatever a run does with its output and however that ends, an output that is to
be deleted is gone behind the run. Only arguments that do not split into words end a run before it cares for
its output, and then the output stays. Main statement: `run_deletes`. -/
namespace Shorthand.CommandLine

variable {s : Surroundings} {launch : List Text → Action Int} {line : List Text} {args : List Argument}
  {source : Text} {extra : List Text} {files behind : FileSystem} {settings : Settings}
  {output : FilePath} {text : Text} {words : List Text}

/-- Behind a run that has expanded its source and is to delete the output, there is nothing at the output,
whatever is started and however that ends, provided that it leaves the files alone. The one exception are
arguments that are given and do not split into words: then the output stays with the whole expansion. -/
theorem run_deletes (hline : Invokes line args source extra)
    (hkeeps : ∀ command h, (launch command h).2.files = h.files)
    (hprepared : Prepares s.startedAt args source files settings output text behind)
    (hforce : has args .delete = true ∨ settings.delete = true) :
    let left := (run s launch line files).files
    ((∀ given, value? args .args = some given → ∃ words, ShellWords.split given = .ok words) →
      left.Missing output ∧ left.existsAt output = .ok false) ∧
    (∀ given fault, value? args .args = some given → ShellWords.split given = .error fault →
      left = behind ∧ left.read output = .ok (Utf8.encode text)) := by
  intro left
  have hleft : left = (performed s launch args source extra files).2.files := files_run hline
  have hcontent := hprepared.written.2.content
  refine ⟨fun hsplits => ?_, fun given fault hgiven hsplit => ?_⟩
  · have hpasses : ∃ words, Passes args settings words := by
      cases hargs : value? args .args with
      | none => exact ⟨_, .settled hargs⟩
      | some given =>
        obtain ⟨words, hwords⟩ := hsplits given hargs
        exact ⟨words, .given hargs hwords⟩
    obtain ⟨words, hpasses⟩ := hpasses
    have hremoved := (hprepared.clears hkeeps hpasses extra).removed hforce
    obtain ⟨loc, hloc, -⟩ := FileSystem.read_eq_ok_iff.1 hcontent
    rw [hleft]
    exact ⟨hremoved.gone, hremoved.existsAt hloc⟩
  · have hpasses : ¬ ∃ words, Passes args settings words := by
      rintro ⟨words, hpasses⟩
      cases hpasses with
      | given other splits =>
        obtain rfl := Option.some.inj (hgiven.symm.trans other)
        rw [hsplit] at splits
        cases splits
      | settled absent =>
        rw [hgiven] at absent
        cases absent
    obtain ⟨reason, h₁, hfiles, -, hrun⟩ := hprepared.escapes launch extra hpasses
    rw [hleft, hrun, hfiles]
    exact ⟨rfl, hcontent⟩

/-- An output is deleted although the interpreter is not found. -/
theorem run_deletes_unstarted :
    let s : Surroundings := { startedAt := 5, release := [], language := [], platform := [] }
    let launch : List Text → Action Int := fun _ => throw (.notStarted "none".toList)
    let line := ["p".toList, "-ed".toList, "-I".toList, "none".toList]
    let files : FileSystem := ⟨[(["p".toList], .file (Utf8.encode "(.a)".toList))], []⟩
    let output : FilePath := .ofText "p5.rb".toList
    (expandFile (.ofText "p".toList) output none { files }).1 = .ok "\x7b|it|it.a\x7d".toList ∧
      (run s launch line files).files.existsAt output = .ok false := by
  intro s launch line files output
  let args : List Argument :=
    [.input "p".toList, .flag .evaluate, .flag .delete, .parameter .interpreter "none".toList]
  have hline : Invokes line args "p".toList [] := ⟨by decide, by decide, by decide, by decide⟩
  have hexpanded : (expandFile (.ofText "p".toList) output none { files }).1 =
      .ok "\x7b|it|it.a\x7d".toList := HostM.eq_ok_of_toOption (by decide +kernel)
  have hprepared : Prepares s.startedAt args "p".toList files {} output "\x7b|it|it.a\x7d".toList _ :=
    ⟨rfl, .derived (by decide) (HostM.eq_ok_of_toOption (by decide +kernel)), hexpanded, rfl⟩
  have hkeeps : ∀ command h, (launch command h).2.files = h.files := fun _ _ => rfl
  have hdeleted := run_deletes hline hkeeps hprepared (.inl (by decide))
  exact ⟨hexpanded, (hdeleted.1 nofun).2⟩

/-- A single quote for arguments keeps an output that is to be deleted. -/
theorem not_deletes_of_openQuote : ¬ ∀ (s : Surroundings) (launch : List Text → Action Int)
    (line : List Text) (args : List Argument) (source : Text) (extra : List Text)
    (files : FileSystem) (settings : Settings) (output : FilePath) (text : Text) (behind : FileSystem),
    Invokes line args source extra → (∀ command h, (launch command h).2.files = h.files) →
    Prepares s.startedAt args source files settings output text behind →
    has args .delete = true ∨ settings.delete = true →
    (run s launch line files).files.existsAt output = .ok false := by
  intro hall
  let s : Surroundings := { startedAt := 5, release := [], language := [], platform := [] }
  let launch : List Text → Action Int := fun _ => pure 0
  let line := ["p".toList, "-d".toList, "-a".toList, "'".toList]
  let args : List Argument := [.input "p".toList, .flag .delete, .parameter .args "'".toList]
  let files : FileSystem := ⟨[(["p".toList], .file (Utf8.encode "a".toList))], []⟩
  let output : FilePath := .ofText "p5.rb".toList
  have hline : Invokes line args "p".toList [] := ⟨by decide, by decide, by decide, by decide⟩
  have hexpanded : (expandFile (.ofText "p".toList) output none { files }).1 = .ok "a".toList :=
    HostM.eq_ok_of_toOption (by decide +kernel)
  have hprepared : Prepares s.startedAt args "p".toList files {} output "a".toList _ :=
    ⟨rfl, .derived (by decide) (HostM.eq_ok_of_toOption (by decide +kernel)), hexpanded, rfl⟩
  have hgone := hall s launch line args "p".toList [] files {} output _ _ hline (fun _ _ => rfl)
    hprepared (.inl (by decide))
  have hthere : ((run s launch line files).files.existsAt output).toOption = some true := by
    decide +kernel
  rw [hgone] at hthere
  cases hthere

end Shorthand.CommandLine
