import Shorthand.Operations

/-! Runs of actions on a host, step by step: what each step gives and which host it leaves. Most actions
need nothing of the host but its files, so what they give on any host is what they give on one that has
nothing else. A command that is started leaves the files as they are if the programs do. -/
namespace Shorthand

namespace HostM

variable {ε α β : Type}

/-- A failure ends the run and keeps the host that it leaves. -/
theorem bind_apply (x : HostM ε α) (f : α → HostM ε β) (h : Host) :
    (x >>= f) h = match x h with
      | (.ok a, h') => f a h'
      | (.error e, h') => (.error e, h') := by
  show (match x h with | (r, h') => ExceptT.bindCont f r h') = _
  rcases x h with ⟨_ | a, h'⟩ <;> rfl

theorem eq_ok_of_toOption {r : Except ε α} {a : α} (h : r.toOption = some a) : r = .ok a := by
  cases r with
  | error e => cases h
  | ok b => exact congrArg Except.ok (Option.some.inj h)

theorem pure_apply (a : α) (h : Host) : (pure a : HostM ε α) h = (.ok a, h) := rfl

theorem get_apply (h : Host) : (get : HostM ε Host) h = (.ok h, h) := rfl

theorem log_apply (e : Event) (h : Host) :
    (log e : HostM ε Unit) h = (.ok (), { h with events := e :: h.events }) := rfl

theorem setFiles_apply (fs : FileSystem) (h : Host) :
    (setFiles fs : HostM ε Unit) h = (.ok (), { h with files := fs }) := rfl

theorem attempt_apply {δ : Type} (cause : δ → ε) (r : Except δ α) (h : Host) :
    attempt cause r h = match r with
      | .ok a => (.ok a, h)
      | .error d => (.error (cause d), h) := by cases r <;> rfl

theorem inspect_apply (question : FileSystem → Except AccessFault α) (h : Host) :
    inspect question h = match question h.files with
      | .ok a => (.ok a, h)
      | .error f => (.error (.access f), h) := by
  rw [inspect, bind_apply, get_apply]
  dsimp only
  rw [attempt_apply]
  cases question h.files <;> rfl

/-- A change that fails leaves the files alone. -/
theorem change_apply (step : FileSystem → Except AccessFault FileSystem) (h : Host) :
    change step h = match step h.files with
      | .ok fs => (.ok (), { h with files := fs })
      | .error f => (.error (.access f), h) := by
  rw [change, bind_apply, get_apply]
  dsimp only
  rw [bind_apply, attempt_apply]
  cases step h.files <;> rfl

/-- An action that looks at nothing of the host but its files, and that changes nothing else but the log. -/
def OnFiles (a : HostM ε α) : Prop :=
  ∀ h, ∃ events, a h = ((a { files := h.files }).1,
    { h with files := (a { files := h.files }).2.files, events := events })

theorem onFiles_pure (a : α) : OnFiles (pure a : HostM ε α) := fun h => ⟨h.events, rfl⟩

theorem onFiles_throw (e : ε) : OnFiles (throw e : HostM ε α) := fun h => ⟨h.events, rfl⟩

theorem onFiles_log (e : Event) : OnFiles (log e : HostM ε Unit) := fun h => ⟨e :: h.events, rfl⟩

theorem onFiles_setFiles (fs : FileSystem) : OnFiles (setFiles fs : HostM ε Unit) :=
  fun h => ⟨h.events, rfl⟩

theorem onFiles_attempt {δ : Type} (cause : δ → ε) (r : Except δ α) : OnFiles (attempt cause r) := by
  intro h
  cases r <;> exact ⟨h.events, rfl⟩

theorem onFiles_inspect (question : FileSystem → Except AccessFault α) : OnFiles (inspect question) := by
  intro h
  rw [inspect_apply, inspect_apply]
  cases question h.files <;> exact ⟨h.events, rfl⟩

theorem onFiles_change (step : FileSystem → Except AccessFault FileSystem) : OnFiles (change step) := by
  intro h
  rw [change_apply, change_apply]
  cases step h.files <;> exact ⟨h.events, rfl⟩

/-- Looking at the host is looking at its files, if what follows looks at nothing else. -/
theorem onFiles_get {f : Host → HostM ε α} (hfiles : ∀ h, f h = f { files := h.files })
    (hf : ∀ h, OnFiles (f h)) : OnFiles (get >>= f) := by
  intro h
  rw [bind_apply, bind_apply, get_apply, get_apply]
  dsimp only
  rw [hfiles h]
  exact hf _ h

theorem onFiles_bind {x : HostM ε α} {f : α → HostM ε β} (hx : OnFiles x) (hf : ∀ a, OnFiles (f a)) :
    OnFiles (x >>= f) := by
  intro h
  obtain ⟨events, hrun⟩ := hx h
  rw [bind_apply, bind_apply, hrun]
  rcases x { files := h.files } with ⟨_ | a, bare⟩
  · exact ⟨events, rfl⟩
  · -- Both hosts have the same files now, so what follows goes the same way on either.
    obtain ⟨later, hlater⟩ := hf a { h with files := bare.files, events := events }
    obtain ⟨others, hbare⟩ := hf a bare
    dsimp only
    rw [hlater, hbare]
    exact ⟨later, rfl⟩

end HostM

namespace Programs

open HostM

variable {programs : Programs} {command : List Text} {directory : Option FilePath} {h : Host}

/-- The programs leave the files as they are. -/
def KeepFiles (programs : Programs) : Prop :=
  ∀ fs name args status left, programs fs name args = .ok (status, left) → left.entries = fs.entries

/-- Entering a directory changes no entry. -/
theorem entries_enter {fs inside : FileSystem} {name : Text} (hinside : enter fs name directory = .ok inside) :
    inside.entries = fs.entries := by
  cases directory with
  | none => rw [← Except.ok.inj hinside]
  | some p =>
    rw [enter, FileSystem.enter] at hinside
    cases hlocated : fs.locate p with
    | error f => rw [hlocated] at hinside; cases hinside
    | ok loc =>
      rw [hlocated] at hinside
      simp only [bind, Except.bind] at hinside
      split at hinside
      · cases hinside
      · cases hinside
      · rw [← Except.ok.inj hinside]

theorem launch_nil : programs.launch [] directory h =
    (.error .emptyCommand, { h with events := .running [] :: h.events }) := rfl

theorem launch_of_null {name : Text} {args : List Text} (hnull : ∃ word ∈ name :: args, '\x00' ∈ word) :
    programs.launch (name :: args) directory h =
      (.error (.access .nullCharacter), { h with events := .running (name :: args) :: h.events }) := by
  have hany : (name :: args).any (fun word => decide ('\x00' ∈ word)) = true := by
    simpa only [List.any_eq_true, decide_eq_true_eq] using hnull
  rw [launch, bind_apply, log_apply]
  dsimp only
  rw [hany, if_pos rfl]
  rfl

/-- A command without null characters: the directory is entered, then the program runs or is refused; the
current directory is what it was. -/
theorem launch_cons {name : Text} {args : List Text} (hnull : ∀ word ∈ name :: args, '\x00' ∉ word) :
    programs.launch (name :: args) directory h =
      let logged : Host := { h with events := .running (name :: args) :: h.events }
      match enter h.files name directory with
      | .error f => (.error f, logged)
      | .ok inside =>
        match programs inside name args with
        | .error reason => (.error (fault name reason), logged)
        | .ok (status, left) =>
          (.ok status, { logged with files := { left with current := h.files.current } }) := by
  have hany : (name :: args).any (fun word => decide ('\x00' ∈ word)) = false := by
    simpa only [List.any_eq_false, decide_eq_true_eq] using hnull
  rw [launch, bind_apply, log_apply]
  dsimp only
  rw [hany, if_neg Bool.false_ne_true, bind_apply, get_apply]
  dsimp only
  rw [bind_apply, attempt_apply]
  cases enter h.files name directory with
  | error f => rfl
  | ok inside =>
    dsimp only
    rw [bind_apply, attempt_apply]
    cases programs inside name args with
    | error reason => rfl
    | ok result => rfl

/-- A command leaves the files and the current directory as they are if the programs leave the files. -/
theorem files_launch (hkeeps : programs.KeepFiles) (command : List Text) (directory : Option FilePath)
    (h : Host) : (programs.launch command directory h).2.files = h.files := by
  cases command with
  | nil => rfl
  | cons name args =>
    by_cases hnull : ∃ word ∈ name :: args, '\x00' ∈ word
    · rw [launch_of_null hnull]
    · rw [launch_cons fun word hword hmem => hnull ⟨word, hword, hmem⟩]
      dsimp only
      cases hinside : enter h.files name directory with
      | error f => rfl
      | ok inside =>
        dsimp only
        cases hrun : programs inside name args with
        | error reason => rfl
        | ok result =>
          have hentries := (hkeeps inside name args _ _ hrun).trans (entries_enter hinside)
          dsimp only
          rw [hentries]

/-- Of the reasons why a program does not run, only that it is missing is reported. -/
theorem isRefusal_fault {name : Text} {reason : Refusal} :
    (fault name reason).isRefusal = true ↔ reason = .notFound := by
  cases reason <;> simp [fault, Failure.isRefusal]

theorem isRefusal_enter {fs : FileSystem} {name : Text} {f : Failure}
    (hentered : enter fs name directory = .error f) : f.isRefusal = true ↔ f = .notStarted name := by
  cases directory with
  | none => cases hentered
  | some p =>
    rw [enter] at hentered
    cases hfailed : fs.enter p with
    | ok inside => rw [hfailed] at hentered; cases hentered
    | error fault =>
      rw [hfailed] at hentered
      obtain rfl := Except.error.inj hentered
      cases fault with
      | nullCharacter => simp [Failure.isRefusal]
      | refused reason target => cases reason <;> simp [Failure.isRefusal]

/-- Of the commands that cannot be started, those are reported whose program or directory is not found; the
others end the run with a failure of their own. -/
theorem launch_reported_iff : (∃ f, (programs.launch command directory h).1 = .error f ∧ f.isRefusal = true) ↔
    ∃ name args, command = name :: args ∧ (∀ word ∈ command, '\x00' ∉ word) ∧
      (enter h.files name directory = .error (.notStarted name) ∨
        ∃ inside, enter h.files name directory = .ok inside ∧
          programs inside name args = .error .notFound) := by
  cases command with
  | nil => simp [launch_nil, Failure.isRefusal]
  | cons name args =>
    by_cases hnull : ∃ word ∈ name :: args, '\x00' ∈ word
    · rw [launch_of_null hnull]
      constructor
      · rintro ⟨f, hf, hreported⟩
        obtain rfl := Except.error.inj hf
        cases hreported
      · rintro ⟨_, _, _, hclean, _⟩
        obtain ⟨word, hword, hmem⟩ := hnull
        exact absurd hmem (hclean word hword)
    · have hclean : ∀ word ∈ name :: args, '\x00' ∉ word := fun word hword hmem => hnull ⟨word, hword, hmem⟩
      rw [launch_cons hclean]
      dsimp only
      constructor
      · rintro ⟨f, hf, hreported⟩
        refine ⟨name, args, rfl, hclean, ?_⟩
        cases hinside : enter h.files name directory with
        | error g =>
          rw [hinside] at hf
          obtain rfl := Except.error.inj hf
          exact .inl (congrArg Except.error ((isRefusal_enter hinside).mp hreported))
        | ok inside =>
          rw [hinside] at hf
          dsimp only at hf
          refine .inr ⟨inside, rfl, ?_⟩
          cases hrun : programs inside name args with
          | ok result => rw [hrun] at hf; cases hf
          | error reason =>
            rw [hrun] at hf
            obtain rfl := Except.error.inj hf
            exact congrArg Except.error (isRefusal_fault.mp hreported)
      · rintro ⟨_, _, hcommand, _, hmissing⟩
        obtain ⟨rfl, rfl⟩ := List.cons.inj hcommand
        rcases hmissing with hentered | ⟨inside, hentered, hrun⟩
        · exact ⟨_, by rw [hentered], rfl⟩
        · exact ⟨_, by rw [hentered]; dsimp only; rw [hrun], rfl⟩

end Programs

end Shorthand
