import Shorthand.Proofs.Invocation

/-! Starting of commands. A run starts at most one command, and only on an output that holds the whole
expansion. What the command is depends on the line, on the surroundings and on the settings, in this order.
Main statement: `run_starts`. -/
namespace Shorthand.CommandLine

/-- Starting a command gives what `child` says of the command and of the files that it finds; the files stay
as they are, and no other command is recorded. -/
structure Launches (launch : List Text → Action Int)
    (child : List Text → FileSystem → Except Failure Int) : Prop where
  outcome : ∀ command h, (launch command h).1 = child command h.files
  files : ∀ command h, (launch command h).2.files = h.files
  commands : ∀ command h, (launch command h).2.commands = h.commands

/-- The interpreter: the one that is given, unless its name is empty; where none is given, the one of the
surroundings, unless that is empty; else the one of the settings. -/
inductive Interprets (s : Surroundings) (args : List Argument) (settings : Settings) : Text → Prop where
  | given {name : Text} (given : value? args .interpreter = some name) (nonempty : name ≠ []) :
      Interprets s args settings name
  | surrounding {name : Text} (absent : value? args .interpreter = none)
      (named : s.interpreter = some name) (nonempty : name ≠ []) : Interprets s args settings name
  | settledEmpty (given : value? args .interpreter = some []) :
      Interprets s args settings settings.interpreter
  | settled (absent : value? args .interpreter = none)
      (unnamed : s.interpreter = none ∨ s.interpreter = some []) :
      Interprets s args settings settings.interpreter

/-- The command that an invocation asks for. An interactive session goes before evaluation. -/
inductive Asks (s : Surroundings) (args : List Argument) (extra : List Text) (settings : Settings)
    (output : FilePath) : List Text → Prop where
  | session {words passed : List Text} (asked : has args .interactive = true)
      (splits : ShellWords.split settings.repl = .ok words) (passes : Passes args settings passed) :
      Asks s args extra settings output
        (words ++ ["-r".toList, if output.isAbsolute then output.toText else "./".toList ++ output.toText] ++
          passed)
  | evaluation {name : Text} {words passed : List Text} (asked : has args .evaluate = true)
      (alone : has args .interactive = false) (interprets : Interprets s args settings name)
      (splits : ShellWords.split name = .ok words) (passes : Passes args settings passed) :
      Asks s args extra settings output
        (words ++ [output.toText] ++ extra.map (fun path => (FilePath.ofText path).toText) ++ passed)

variable {s : Surroundings} {launch : List Text → Action Int}
  {child : List Text → FileSystem → Except Failure Int} {line : List Text} {args : List Argument}
  {source : Text} {extra : List Text} {files behind : FileSystem} {settings : Settings}
  {output : FilePath} {text name : Text} {words passed command : List Text}

/-- The interpreter of the task is the first that is named: on the line, around the run, in the settings. -/
theorem interprets_iff : Interprets s args settings name ↔
    (taskOf s args source extra).interpreterName settings = name := by
  have hname : (taskOf s args source extra).interpreter =
      (value? args .interpreter).or (s.interpreter.filter fun name => name ≠ []) := rfl
  rw [Task.interpreterName, hname]
  constructor
  · intro h
    cases h with
    | given given nonempty =>
      obtain ⟨c, rest, rfl⟩ := List.exists_cons_of_ne_nil nonempty
      rw [given]
      rfl
    | surrounding absent named nonempty =>
      obtain ⟨c, rest, rfl⟩ := List.exists_cons_of_ne_nil nonempty
      rw [absent, named]
      rfl
    | settledEmpty given => rw [given]; rfl
    | settled absent unnamed => rcases unnamed with hn | hn <;> rw [absent, hn] <;> rfl
  · intro h
    cases hgiven : value? args .interpreter with
    | some given =>
      rw [hgiven, Option.some_or] at h
      cases given with
      | nil =>
        obtain rfl : settings.interpreter = name := h
        exact .settledEmpty hgiven
      | cons c rest =>
        obtain rfl : c :: rest = name := h
        exact .given hgiven (List.cons_ne_nil c rest)
    | none =>
      rw [hgiven, Option.none_or] at h
      cases hnamed : s.interpreter with
      | none =>
        rw [hnamed] at h
        obtain rfl : settings.interpreter = name := h
        exact .settled hgiven (.inl hnamed)
      | some found =>
        rw [hnamed] at h
        cases found with
        | nil =>
          obtain rfl : settings.interpreter = name := h
          exact .settled hgiven (.inr hnamed)
        | cons c rest =>
          obtain rfl : c :: rest = name := h
          exact .surrounding hgiven hnamed (List.cons_ne_nil c rest)

/-- The words of an interactive session. -/
theorem interactive_eq_ok_iff : Command.interactive settings.repl output (.list passed) = .ok command ↔
    ∃ words, ShellWords.split settings.repl = .ok words ∧ command = words ++ ["-r".toList,
      if output.isAbsolute then output.toText else "./".toList ++ output.toText] ++ passed := by
  rw [Command.interactive]
  cases ShellWords.split settings.repl with
  | error fault => exact ⟨nofun, fun ⟨_, h, _⟩ => nomatch h⟩
  | ok words =>
    constructor
    · intro h
      exact ⟨words, rfl, (Except.ok.inj h).symm⟩
    · rintro ⟨words', hw, rfl⟩
      obtain rfl := Except.ok.inj hw
      rfl

/-- The words of an evaluation. -/
theorem eval_eq_ok_iff {extra : List FilePath} :
    Command.eval name output extra (.list passed) = .ok command ↔
      ∃ words, ShellWords.split name = .ok words ∧
        command = words ++ [output.toText] ++ extra.map FilePath.toText ++ passed := by
  rw [Command.eval]
  cases ShellWords.split name with
  | error fault => exact ⟨nofun, fun ⟨_, h, _⟩ => nomatch h⟩
  | ok words =>
    have hshape : words ++ [output.toText] ++ extra.map FilePath.toText ++ passed =
        words ++ output.toText :: extra.map FilePath.toText ++ passed := by simp
    constructor
    · intro h
      exact ⟨words, rfl, by rw [hshape]; exact (Except.ok.inj h).symm⟩
    · rintro ⟨words', hw, rfl⟩
      obtain rfl := Except.ok.inj hw
      rw [hshape]
      rfl

theorem command?_taskOf : (taskOf s args source extra).command? settings output passed =
    if has args .interactive then some (Command.interactive settings.repl output (.list passed))
    else if has args .evaluate then
      some (Command.eval ((taskOf s args source extra).interpreterName settings) output
        (extra.map FilePath.ofText) (.list passed))
    else none := rfl

/-- The command of a task is the one that its invocation asks for. -/
theorem asks_iff : Asks s args extra settings output command ↔ ∃ passed, Passes args settings passed ∧
    (taskOf s args source extra).command? settings output passed = some (.ok command) := by
  simp only [command?_taskOf]
  constructor
  · intro h
    cases h with
    | session asked splits passes =>
      refine ⟨_, passes, ?_⟩
      rw [if_pos asked, interactive_eq_ok_iff.mpr ⟨_, splits, rfl⟩]
    | evaluation asked alone interprets splits passes =>
      refine ⟨_, passes, ?_⟩
      rw [if_neg (by simp [alone]), if_pos asked, interprets_iff.mp interprets,
        eval_eq_ok_iff.mpr ⟨_, splits, rfl⟩, List.map_map]
      rfl
  · rintro ⟨passed, hpasses, h⟩
    split at h
    · obtain ⟨words, hsplit, rfl⟩ := interactive_eq_ok_iff.mp (Option.some.inj h)
      exact .session ‹_› hsplit hpasses
    split at h
    · obtain ⟨words, hsplit, rfl⟩ := eval_eq_ok_iff.mp (Option.some.inj h)
      rw [List.map_map]
      exact .evaluation ‹_› (by simpa using ‹¬ has args .interactive = true›) (interprets_iff.mpr rfl)
        hsplit hpasses
    · cases h

/-- There is no command exactly if none is asked for. -/
theorem command?_eq_none_iff : (taskOf s args source extra).command? settings output passed = none ↔
    has args .interactive = false ∧ has args .evaluate = false := by
  rw [command?_taskOf]
  split
  · simp [*]
  split <;> simp [*]

/-- A run that has prepared its output puts it to use, if the words for the interpreter are known. -/
theorem Prepares.uses (h : Prepares s.startedAt args source files settings output text behind)
    (hkeeps : ∀ command h, (launch command h).2.files = h.files) (hpasses : Passes args settings passed)
    (extra : List Text) : ∃ h₁ : Host, h₁.files = behind ∧ h₁.commands = [] ∧
      let used := reporting Failure.isRefusal
        ((taskOf s args source extra).use launch settings output passed) h₁
      (performed s launch args source extra files).1 = used.1 ∧
        (performed s launch args source extra files).2.commands = used.2.commands := by
  obtain ⟨h₁, hfiles, hcommands, hrun⟩ := h.concludes launch extra
  have hcontent : h₁.files.read output = .ok (Utf8.encode text) := hfiles ▸ h.written.2.content
  obtain ⟨hresult, hstarted, -⟩ :=
    Task.conclude_of_words (passes_iff.mp hpasses) hcontent hkeeps (t := taskOf s args source extra)
  exact ⟨h₁, hfiles, hcommands, by rw [hrun, hresult], by rw [hrun, hstarted]⟩

/-- A command that is asked for is started on the prepared output, and its status is that of the run. -/
theorem Prepares.starts (h : Prepares s.startedAt args source files settings output text behind)
    (hchild : Launches launch child) (hasks : Asks s args extra settings output command) :
    (performed s launch args source extra files).2.commands = [command] ∧
      ∀ status, (performed s launch args source extra files).1 = .ok status ↔
        child command behind = .ok status := by
  obtain ⟨passed, hpasses, hcommand⟩ : ∃ passed, Passes args settings passed ∧
    (taskOf s args source extra).command? settings output passed = some (.ok command) := asks_iff.mp hasks
  obtain ⟨h₁, hfiles, hcommands, hresult, hstarted⟩ := h.uses hchild.files hpasses extra
  obtain ⟨events, huse⟩ := Task.use_of_some hcommand launch h₁
  have hreport := reporting_apply Failure.isRefusal
    ((taskOf s args source extra).use launch settings output passed) h₁
  rw [huse] at hreport
  obtain ⟨-, hrecorded, hok, hfails⟩ := hreport
  rw [hchild.outcome] at hok hfails
  rw [hchild.commands] at hrecorded
  rw [hresult, hstarted, hrecorded, hcommands]
  refine ⟨rfl, fun status => ⟨fun hs => ?_, fun hs => hok status (hfiles ▸ hs)⟩⟩
  -- Reporting makes no status out of a failure, so a status of the run is one of the child.
  cases hout : child command h₁.files with
  | ok other =>
    rw [hok other hout, Except.ok.injEq] at hs
    rw [← hfiles, hout, hs]
  | error f =>
    obtain ⟨stop, hstop⟩ := hfails f hout
    rw [hstop] at hs
    cases hs

/-- Where no command is asked for, none is started, and the run succeeds exactly if its words for the
interpreter are known and it is to start nothing. -/
theorem Prepares.idles (h : Prepares s.startedAt args source files settings output text behind)
    (hchild : Launches launch child) (hasks : ¬ ∃ command, Asks s args extra settings output command) :
    (performed s launch args source extra files).2.commands = [] ∧
      ∀ status, (performed s launch args source extra files).1 = .ok status ↔ status = 0 ∧
        (∃ passed, Passes args settings passed) ∧ has args .interactive = false ∧
          has args .evaluate = false := by
  by_cases hpasses : ∃ passed, Passes args settings passed
  · obtain ⟨passed, hpasses⟩ := hpasses
    obtain ⟨h₁, -, hcommands, hresult, hstarted⟩ := h.uses hchild.files hpasses extra
    rw [hresult, hstarted]
    cases hcommand : (taskOf s args source extra).command? settings output passed with
    | none =>
      have hflags := command?_eq_none_iff.mp hcommand
      rw [reporting_of_ok (Task.use_of_none hcommand launch h₁)]
      refine ⟨hcommands, fun status => ⟨fun hs => ?_, fun hs => congrArg Except.ok hs.1.symm⟩⟩
      exact ⟨(Except.ok.inj hs).symm, ⟨passed, hpasses⟩, hflags⟩
    | some r =>
      obtain ⟨events, huse⟩ := Task.use_of_some hcommand launch h₁
      cases r with
      | ok command => exact absurd ⟨command, asks_iff.mpr ⟨passed, hpasses, hcommand⟩⟩ hasks
      | error fault =>
        have hends := reporting_of_error Failure.isRefusal huse
        obtain ⟨stop, hstop⟩ := hends.stops
        refine ⟨hends.commands.trans hcommands, fun status => ⟨fun hs => ?_, fun hs => ?_⟩⟩
        · rw [hstop] at hs
          cases hs
        · rw [command?_eq_none_iff.mpr hs.2.2] at hcommand
          cases hcommand
  · obtain ⟨fault, h₁, -, hcommands, hrun⟩ := h.escapes launch extra hpasses
    rw [hrun]
    exact ⟨hcommands, fun status => ⟨nofun, fun hs => absurd hs.2.1 hpasses⟩⟩

/-- A run starts a command exactly if its output is prepared and a command is asked for; it starts no
other, and that one only on the files with the whole expansion in the output. The status of the run is that
of the command. A run that starts nothing fails, unless its output is prepared, its words for the
interpreter are known and it is to start nothing. -/
theorem run_starts (files : FileSystem) (hline : Invokes line args source extra)
    (hchild : Launches launch child) :
    let left := run s launch line files
    (∀ settings output text behind command,
      Prepares s.startedAt args source files settings output text behind →
      Asks s args extra settings output command →
      files.expansionAt (.ofText source) settings.maxDepth = .ok text ∧
        behind.read output = .ok (Utf8.encode text) ∧ left.commands = [command] ∧
        left.status = match child command behind with
          | .ok status => status
          | .error _ => failureStatus) ∧
    ((¬ ∃ settings output text behind command,
      Prepares s.startedAt args source files settings output text behind ∧
        Asks s args extra settings output command) →
      left.commands = [] ∧ (left.status = 0 ∨ left.status = failureStatus) ∧
        (left.status = 0 ↔ ∃ settings output text behind passed,
          Prepares s.startedAt args source files settings output text behind ∧
            Passes args settings passed ∧ has args .interactive = false ∧
            has args .evaluate = false)) := by
  intro left
  have hcommands : left.commands = _ := commands_run hline
  have hstatus : left.status = _ := status_run hline
  refine ⟨fun settings output text behind command hprepared hasks => ?starts, fun hnone => ?idles⟩
  case starts =>
    obtain ⟨hexpansion, hwritten⟩ := hprepared.written
    obtain ⟨hstarted, hresult⟩ := hprepared.starts hchild hasks
    refine ⟨hexpansion, hwritten.content, by rw [hcommands, hstarted]; rfl, ?_⟩
    rw [hstatus]
    cases hout : child command behind with
    | ok status => rw [(hresult status).mpr hout]
    | error f =>
      cases hrun : (performed s launch args source extra files).1 with
      | error stop => rfl
      | ok status =>
        rw [(hresult status).mp hrun] at hout
        cases hout
  case idles =>
    have hno : ∀ {settings output text behind},
        Prepares s.startedAt args source files settings output text behind →
        ¬ ∃ command, Asks s args extra settings output command :=
      fun hprepared ⟨command, hasks⟩ => hnone ⟨_, _, _, _, command, hprepared, hasks⟩
    have hidle : (∃ settings output text behind passed,
        Prepares s.startedAt args source files settings output text behind ∧
          Passes args settings passed ∧ has args .interactive = false ∧
          has args .evaluate = false) → left.status = 0 := by
      rintro ⟨settings, output, text, behind, passed, hprepared, hpasses, hflags⟩
      have hresult := (hprepared.idles hchild (hno hprepared)).2 0
      rw [hstatus, hresult.mpr ⟨rfl, ⟨passed, hpasses⟩, hflags⟩]
    rcases prepares_or_fails s.startedAt args source files with
      ⟨settings, output, text, behind, hprepared⟩ | ⟨f, reported, behind, hfails⟩
    · obtain ⟨hstarted, hresult⟩ := hprepared.idles hchild (hno hprepared)
      refine ⟨by rw [hcommands, hstarted]; rfl, ?_⟩
      cases hrun : (performed s launch args source extra files).1 with
      | ok status =>
        obtain ⟨rfl, ⟨passed, hpasses⟩, hflags⟩ := (hresult status).mp hrun
        rw [hrun] at hstatus
        exact ⟨.inl hstatus, fun _ => ⟨settings, output, text, behind, passed, hprepared, hpasses, hflags⟩,
          hidle⟩
      | error stop =>
        have hfailure : left.status = failureStatus := by rw [hstatus, hrun]
        exact ⟨.inr hfailure, fun hzero => absurd (hfailure.symm.trans hzero) (by decide), hidle⟩
    · have hends := hfails.endsWith launch extra
      obtain ⟨stop, hstop⟩ := hends.stops
      have hfailure : left.status = failureStatus := by rw [hstatus, hstop]
      refine ⟨by rw [hcommands, hends.commands]; rfl, .inr hfailure, fun hzero => ?_, hidle⟩
      exact absurd (hfailure.symm.trans hzero) (by decide)

/-- An interpreter with an empty name is that of the settings, whatever the surroundings name; the arguments
given come behind the further files. -/
theorem run_starts_given :
    let s : Surroundings :=
      { interpreter := some "jruby".toList, startedAt := 5, release := [], language := [], platform := [] }
    let launch : List Text → Action Int := fun _ => pure 3
    let line := ["p".toList, "q//r".toList, "-e".toList, "--rbi=".toList, "-a".toList, "x 'y z'".toList]
    let files : FileSystem := ⟨[(["p".toList], .file (Utf8.encode "(.a)".toList))], []⟩
    let left := run s launch line files
    left.commands = [["ruby".toList, "p5.rb".toList, "q/r".toList, "x".toList, "y z".toList]] ∧
      left.status = 3 := by
  intro s launch line files left
  let args : List Argument := [.input "p".toList, .input "q//r".toList, .flag .evaluate,
    .parameter .interpreter [], .parameter .args "x 'y z'".toList]
  let output : FilePath := .ofText "p5.rb".toList
  let settings : Settings := {}
  have hline : Invokes line args "p".toList ["q//r".toList] :=
    ⟨by decide, by decide, by decide, by decide⟩
  have hchild : Launches launch fun _ _ => .ok 3 := ⟨fun _ _ => rfl, fun _ _ => rfl, fun _ _ => rfl⟩
  have hexpanded : (expandFile (.ofText "p".toList) output none { files }).1 =
      .ok "\x7b|it|it.a\x7d".toList := HostM.eq_ok_of_toOption (by decide +kernel)
  have hprepared : Prepares s.startedAt args "p".toList files settings output
      "\x7b|it|it.a\x7d".toList _ :=
    ⟨rfl, .derived (by decide) (HostM.eq_ok_of_toOption (by decide +kernel)), hexpanded, rfl⟩
  have hnamed : Interprets s args settings settings.interpreter := .settledEmpty (by decide)
  have hruby : ShellWords.split settings.interpreter = .ok ["ruby".toList] :=
    HostM.eq_ok_of_toOption (by decide +kernel)
  have hsplit : ShellWords.split "x 'y z'".toList = .ok ["x".toList, "y z".toList] :=
    HostM.eq_ok_of_toOption (by decide +kernel)
  have hpasses : Passes args settings ["x".toList, "y z".toList] := .given (by decide) hsplit
  have hasks : Asks s args ["q//r".toList] settings output _ :=
    .evaluation (by decide) (by decide) hnamed hruby hpasses
  obtain ⟨_, _, hcommands, hstatus⟩ := (run_starts files hline hchild).1 _ _ _ _ _ hprepared hasks
  exact ⟨hcommands.trans (by decide), hstatus.trans rfl⟩

end Shorthand.CommandLine
