import Shorthand.CommandLine.Session
import Shorthand.Proofs.Course

/-! Invocations: lines of arguments that ask for a run on inputs. Which settings, which output and which
arguments hold for the run is told by the line first, and by the settings where the line says nothing. A run
that comes to its output has prepared it in full, and any other run starts nothing. -/
namespace Shorthand.CommandLine

open HostM

/-- A line that asks for a run: it obeys the rules, asks nothing about the program, holds no null character
in a path, and has inputs. -/
structure Invokes (line : List Text) (args : List Argument) (source : Text) (extra : List Text) :
    Prop where
  reads : read? line = some args
  asksNothing : inquiry? args = none
  paths : ∀ path ∈ paths args, '\x00' ∉ path
  inputs : inputs args = source :: extra

/-- The settings for an invocation: those in the file that is given, else those in the settings file of the
current directory if there is one, else the defaults. -/
def settingsOf (files : FileSystem) (args : List Argument) : Except Failure Settings :=
  files.settingsFor ⟨.root, files.current⟩ ((value? args .config).map FilePath.ofText)

/-- The output of an invocation: the one that is given, else the one named after the source. -/
inductive Names (startedAt : Int) (args : List Argument) (source : Text) (settings : Settings) :
    FilePath → Prop where
  | given {path : Text} (given : value? args .out = some path) :
      Names startedAt args source settings (.ofText path)
  | derived {output : FilePath} (absent : value? args .out = none)
      (named : outputPath (.ofText source) startedAt settings.suffix = .ok output) :
      Names startedAt args source settings output

/-- The words for the interpreter: those that are given, even if there are none of them, else those of the
settings. -/
inductive Passes (args : List Argument) (settings : Settings) : List Text → Prop where
  | given {text : Text} {words : List Text} (given : value? args .args = some text)
      (splits : ShellWords.split text = .ok words) : Passes args settings words
  | settled (absent : value? args .args = none) : Passes args settings settings.args

/-- What is done before anything is started: the settings are read, the output is named, and the source is
expanded to it as `text`, which leaves the files `behind`. -/
structure Prepares (startedAt : Int) (args : List Argument) (source : Text) (files : FileSystem)
    (settings : Settings) (output : FilePath) (text : Text) (behind : FileSystem) : Prop where
  settled : settingsOf files args = .ok settings
  named : Names startedAt args source settings output
  expanded : (expandFile (.ofText source) output settings.maxDepth { files }).1 = .ok text
  behind : (expandFile (.ofText source) output settings.maxDepth { files }).2.files = behind

def taskOf (s : Surroundings) (args : List Argument) (source : Text) (extra : List Text) : Task where
  source := .ofText source
  extra := extra.map FilePath.ofText
  out := (value? args .out).map FilePath.ofText
  evaluate := has args .evaluate
  interactive := has args .interactive
  args := value? args .args
  delete := has args .delete
  interpreter := interpreter? s args
  config := (value? args .config).map FilePath.ofText
  print := has args .print

variable {s : Surroundings} {launch : List Text → Action Int} {line : List Text} {args : List Argument}
  {source : Text} {extra : List Text} {files behind : FileSystem} {settings : Settings}
  {output : FilePath} {text : Text} {words : List Text}

def performed (s : Surroundings) (launch : List Text → Action Int) (args : List Argument) (source : Text)
    (extra : List Text) (files : FileSystem) : Except Stop Int × Host :=
  (taskOf s args source extra).perform ⟨.root, files.current⟩ s.startedAt launch { files }

/-- A line that asks for a run is answered by the report on its task. -/
theorem run_of_invokes (h : Invokes line args source extra) (s : Surroundings)
    (launch : List Text → Action Int) (files : FileSystem) :
    run s launch line files =
      report s launch (has args .verbose) (taskOf s args source extra) files := by
  have hpaths : ((CommandLine.paths args).any fun path => decide ('\x00' ∈ path)) = false := by
    rw [List.any_eq_false]
    intro path hp
    simpa using h.paths path hp
  have htask : task? s args = some (taskOf s args source extra) := by
    simp only [task?, h.inputs]
    rfl
  simp only [run, h.reads, h.asksNothing, hpaths, htask]
  rfl

theorem files_run (h : Invokes line args source extra) :
    (run s launch line files).files = (performed s launch args source extra files).2.files := by
  rw [run_of_invokes h]
  rfl

theorem commands_run (h : Invokes line args source extra) :
    (run s launch line files).commands =
      (performed s launch args source extra files).2.commands.reverse := by
  rw [run_of_invokes h]
  rfl

theorem status_run (h : Invokes line args source extra) :
    (run s launch line files).status =
      match (performed s launch args source extra files).1 with
      | .ok status => status
      | .error _ => failureStatus := by
  rw [run_of_invokes h]
  rfl

theorem raised_run (h : Invokes line args source extra) :
    (run s launch line files).raised =
      match (performed s launch args source extra files).1 with
      | .error (.escaped f) => some f
      | _ => none := by
  rw [run_of_invokes h]
  rfl

theorem errors_run (h : Invokes line args source extra) :
    (run s launch line files).errors =
      (performed s launch args source extra files).2.errors (has args .verbose) := by
  rw [run_of_invokes h]
  rfl

/-- The output of the task is the one that is given, or derived from source and settings. -/
theorem names_iff : Names s.startedAt args source settings output ↔
    (taskOf s args source extra).output s.startedAt settings = .ok output := by
  have hfield : (taskOf s args source extra).out = (value? args .out).map FilePath.ofText := rfl
  rw [Task.output, hfield]
  constructor
  · intro h
    cases h with
    | given given => rw [given]; rfl
    | derived absent named => rw [absent]; exact named
  · intro h
    cases hout : value? args .out with
    | none =>
      rw [hout] at h
      exact .derived hout h
    | some path =>
      rw [hout] at h
      obtain rfl : FilePath.ofText path = output := Except.ok.inj h
      exact .given hout

/-- The words of the task are those given on the line, or those of the settings. -/
theorem passes_iff : Passes args settings words ↔
    (taskOf s args source extra).arguments settings = .ok words := by
  have hfield : (taskOf s args source extra).args = value? args .args := rfl
  rw [Task.arguments, hfield]
  constructor
  · intro h
    cases h with
    | given given splits => rw [given]; exact splits
    | settled absent => rw [absent]
  · intro h
    cases hargs : value? args .args with
    | none =>
      rw [hargs] at h
      obtain rfl : settings.args = words := Except.ok.inj h
      exact .settled hargs
    | some given =>
      rw [hargs] at h
      exact .given hargs h

namespace Prepares

/-- The text is the expansion of the source, and the output holds it. -/
theorem written (h : Prepares s.startedAt args source files settings output text behind) :
    files.expansionAt (.ofText source) settings.maxDepth = .ok text ∧
      files.Written output (Utf8.encode text) behind :=
  h.behind ▸ written_of_expandFile rfl h.expanded

/-- Behind the preparation only the conclusion is left, and nothing has been started. -/
theorem concludes (h : Prepares s.startedAt args source files settings output text behind)
    (launch : List Text → Action Int) (extra : List Text) : ∃ h₁ : Host, h₁.files = behind ∧
      h₁.commands = [] ∧ performed s launch args source extra files =
        (taskOf s args source extra).conclude launch settings output h₁ := by
  obtain ⟨h₁, hfiles, hcommands, hrun⟩ :=
    (Task.perform_of_expansion (t := taskOf s args source extra) (h := { files }) h.settled
      (names_iff.mp h.named) rfl).2 text h.expanded
  exact ⟨h₁, hfiles.trans h.behind, hcommands, hrun⟩

/-- Where the words for the interpreter are known, the output is cleared away. -/
theorem clears (h : Prepares s.startedAt args source files settings output text behind)
    (hkeeps : ∀ command h, (launch command h).2.files = h.files) (hpasses : Passes args settings words)
    (extra : List Text) : (taskOf s args source extra).Cleared settings output behind
      (performed s launch args source extra files).2.files := by
  obtain ⟨h₁, hfiles, -, hrun⟩ := h.concludes launch extra
  have hcontent : h₁.files.read output = .ok (Utf8.encode text) := hfiles ▸ h.written.2.content
  rw [hrun, ← hfiles]
  exact (Task.conclude_of_words (passes_iff.mp hpasses) hcontent hkeeps).2.2

/-- If the words for the interpreter are not known, the run ends at once and leaves all as it is. -/
theorem escapes (h : Prepares s.startedAt args source files settings output text behind)
    (launch : List Text → Action Int) (extra : List Text)
    (hpasses : ¬ ∃ words, Passes args settings words) : ∃ (fault : ShellWords.Fault) (h₁ : Host),
      h₁.files = behind ∧ h₁.commands = [] ∧
        performed s launch args source extra files = (.error (.escaped (.words fault)), h₁) := by
  obtain ⟨h₁, hfiles, hcommands, hrun⟩ := h.concludes launch extra
  cases hw : (taskOf s args source extra).arguments settings with
  | ok words => exact absurd ⟨words, passes_iff.mpr hw⟩ hpasses
  | error fault =>
    rw [Task.conclude_of_fault hw] at hrun
    exact ⟨fault, h₁, hfiles, hcommands, hrun⟩

end Prepares

/-- The failure of an invocation that does not come to its output, whether it is reported, and the files
that it leaves. -/
inductive Fails (startedAt : Int) (args : List Argument) (source : Text) (files : FileSystem) :
    Failure → Bool → FileSystem → Prop where
  | settings {f : Failure} (unsettled : settingsOf files args = .error f) :
      Fails startedAt args source files f f.isRefusal files
  | naming {settings : Settings} {fault : NameFault} (settled : settingsOf files args = .ok settings)
      (absent : value? args .out = none)
      (nameless : outputPath (.ofText source) startedAt settings.suffix = .error fault) :
      Fails startedAt args source files (.naming fault) false files
  | expansion {settings : Settings} {output : FilePath} {f : Failure}
      (settled : settingsOf files args = .ok settings)
      (named : Names startedAt args source settings output)
      (refused : (expandFile (.ofText source) output settings.maxDepth { files }).1 = .error f) :
      Fails startedAt args source files f (f.isRefusal || f.isSystem)
        (expandFile (.ofText source) output settings.maxDepth { files }).2.files

/-- A run that fails ends with the failure, before any command is started. -/
theorem Fails.endsWith {f : Failure} {reported : Bool}
    (h : Fails s.startedAt args source files f reported behind) (launch : List Text → Action Int)
    (extra : List Text) : EndsWith f reported behind [] (performed s launch args source extra files) := by
  cases h with
  | settings unsettled =>
    exact Task.perform_of_settings (t := taskOf s args source extra) (h := { files }) unsettled
  | naming settled absent nameless =>
    refine Task.perform_of_naming (t := taskOf s args source extra) (h := { files }) settled ?_
    have hfield : (taskOf s args source extra).out = (value? args .out).map FilePath.ofText := rfl
    rw [Task.output, hfield, absent]
    exact nameless
  | expansion settled named refused =>
    exact (Task.perform_of_expansion (t := taskOf s args source extra) (h := { files }) settled
      (names_iff.mp named) rfl).1 f refused

/-- Every invocation comes to its output or fails before. -/
theorem prepares_or_fails (startedAt : Int) (args : List Argument) (source : Text)
    (files : FileSystem) :
    (∃ settings output text behind, Prepares startedAt args source files settings output text behind) ∨
      ∃ f reported behind, Fails startedAt args source files f reported behind := by
  -- The first of settings, name and expansion that fails decides how the invocation fails.
  cases hs : settingsOf files args with
  | error f => exact .inr ⟨f, _, _, .settings hs⟩
  | ok settings =>
    have hnames : (∃ output, Names startedAt args source settings output) ∨
        ∃ fault, value? args .out = none ∧
          outputPath (.ofText source) startedAt settings.suffix = .error fault := by
      cases hout : value? args .out with
      | some path => exact .inl ⟨_, .given hout⟩
      | none =>
        cases hn : outputPath (.ofText source) startedAt settings.suffix with
        | ok output => exact .inl ⟨output, .derived hout hn⟩
        | error fault => exact .inr ⟨fault, rfl, rfl⟩
    rcases hnames with ⟨output, hn⟩ | ⟨fault, hout, hn⟩
    · cases he : (expandFile (.ofText source) output settings.maxDepth { files }).1 with
      | ok text => exact .inl ⟨settings, output, text, _, hs, hn, he, rfl⟩
      | error f => exact .inr ⟨f, _, _, .expansion hs hn he⟩
    · exact .inr ⟨_, _, _, .naming hs hout hn⟩

end Shorthand.CommandLine
