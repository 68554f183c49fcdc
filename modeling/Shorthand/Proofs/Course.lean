import Shorthand.CommandLine.Run
import Shorthand.Proofs.Atomicity
import Shorthand.Proofs.Confinement

/-! The course of a task. Its settings are read, its output is named, its source is expanded, and each of
these may end it before anything is started. Behind them at most one command is started, on the files as
the expansion left them, and the output is removed in the end if that is asked for. -/
namespace Shorthand

open HostM

namespace FileSystem

/-- The settings in the file at a path, or why there are none. -/
def settingsAt (fs : FileSystem) (file : FilePath) : Except Failure Settings :=
  match fs.read file with
  | .error f => .error (f.unreadable file)
  | .ok bytes =>
    (Settings.ofBytes file.name bytes).map fun settings => { settings with path := some file }

/-- The settings for a run: those in the file that is given, else those in the settings file of the
directory if there is one, else the defaults. -/
def settingsFor (fs : FileSystem) (directory : FilePath) (given : Option FilePath) :
    Except Failure Settings :=
  match given with
  | some file => fs.settingsAt file
  | none =>
    match fs.isFileAt (directory.child settingsName) with
    | .ok true => fs.settingsAt (directory.child settingsName)
    | .ok false => .ok {}
    | .error f => .error (.access f)

end FileSystem

section Reading

variable {source output file directory : FilePath} {cap : Option Int} {h : Host} {text : Text}

theorem onFiles_expandLogged (file : FilePath) (t : Text) (cap : Option Int) :
    OnFiles (expandLogged file t cap) := by
  refine onFiles_bind (onFiles_attempt _ _) fun read => ?_
  refine onFiles_bind (onFiles_log _) fun _ => ?_
  refine onFiles_bind (onFiles_attempt _ _) fun fragments => ?_
  exact onFiles_bind (onFiles_log _) fun _ => onFiles_pure _

theorem onFiles_writeText (file : FilePath) (t : Text) : OnFiles (writeText file t) := by
  refine onFiles_get (fun _ => rfl) fun h => ?_
  rcases h.files.ensureDirectories file.parent with ⟨made, files⟩
  refine onFiles_bind (onFiles_setFiles _) fun _ => ?_
  exact onFiles_bind (onFiles_attempt _ _) fun _ => onFiles_change _

/-- Expanding a file looks at nothing of the host but its files. -/
theorem onFiles_expandFile (source output : FilePath) (cap : Option Int) :
    OnFiles (expandFile source output cap) := by
  have hrest : OnFiles (do
      let bytes ← inspect (·.read source)
      let t ← attempt .source (decodeSource source bytes)
      let expanded ← expandLogged source t cap
      writeText output expanded
      log (.wrote output expanded.length)
      return expanded) := by
    refine onFiles_bind (onFiles_inspect _) fun bytes => ?_
    refine onFiles_bind (onFiles_attempt _ _) fun t => ?_
    refine onFiles_bind (onFiles_expandLogged source t cap) fun expanded => ?_
    refine onFiles_bind (onFiles_writeText output expanded) fun _ => ?_
    exact onFiles_bind (onFiles_log _) fun _ => onFiles_pure _
  refine onFiles_bind (onFiles_inspect _) fun found => ?_
  cases found with
  | false => exact onFiles_bind (onFiles_throw _) fun _ => hrest
  | true => exact hrest

/-- An expansion that gives a text has written it. -/
theorem written_of_expandFile {r : Except Failure Text × Host} (hr : expandFile source output cap h = r)
    (hok : r.1 = .ok text) :
    h.files.expansionAt source cap = .ok text ∧ h.files.Written output (Utf8.encode text) r.2.files := by
  obtain ⟨r, h'⟩ := r
  obtain rfl : r = .ok text := hok
  cases he : h.files.expansionAt source cap with
  | error f => cases (expandFile_of_error hr he).2
  | ok expanded =>
    rcases expandFile_of_ok hr he with ⟨f, hf⟩ | ⟨hexpanded, hwritten⟩
    · cases hf
    · obtain rfl : text = expanded := Except.ok.inj hexpanded
      exact ⟨rfl, hwritten⟩

/-- Settings are read without a change to the files. -/
theorem loadSettings_apply (file : FilePath) (h : Host) : ∃ events,
    loadSettings file h = (h.files.settingsAt file, { h with events := events }) := by
  rw [loadSettings, bind_apply, get_apply]
  dsimp only
  rw [bind_apply, attempt_apply, FileSystem.settingsAt]
  cases h.files.read file with
  | error f => exact ⟨h.events, rfl⟩
  | ok bytes =>
    dsimp only
    rw [bind_apply, attempt_apply]
    cases Settings.ofBytes file.name bytes with
    | error f => exact ⟨h.events, rfl⟩
    | ok settings => exact ⟨.loaded file :: h.events, rfl⟩

end Reading

section Ending

variable {α : Type} {reported : Failure → Bool} {a : Action α} {h h' h'' : Host} {f : Failure} {x : α}

/-- How a run ends with a failure before anything is started: the failure is logged if it is to be
reported, and else it escapes. -/
structure EndsWith (f : Failure) (reported : Bool) (files : FileSystem) (commands : List (List Text))
    (r : Except Stop α × Host) : Prop where
  stops : ∃ s, r.1 = .error s
  files : r.2.files = files
  commands : r.2.commands = commands
  shown : reported = true → r.1 = .error .reported ∧ ∃ events, r.2.events = .failed f.message :: events
  escapes : reported = false → r.1 = .error (.escaped f)

theorem reporting_of_ok (ha : a h = (.ok x, h')) : reporting reported a h = (.ok x, h') := by
  simp only [reporting, ha]

/-- A failure is reported if it is one of those to be reported, and escapes otherwise; nothing else changes.
-/
theorem reporting_of_error (reported : Failure → Bool) (ha : a h = (.error f, h')) :
    EndsWith f (reported f) h'.files h'.commands (reporting reported a h) := by
  cases hf : reported f with
  | true =>
    simp only [reporting, ha, hf, if_true]
    exact ⟨⟨_, rfl⟩, rfl, rfl, fun _ => ⟨rfl, _, rfl⟩, nofun⟩
  | false =>
    simp only [reporting, ha, hf]
    exact ⟨⟨_, rfl⟩, rfl, rfl, nofun, fun _ => rfl⟩

/-- Reporting a failure changes neither the files nor the commands, and no success. -/
theorem reporting_apply (reported : Failure → Bool) (a : Action α) (h : Host) :
    (reporting reported a h).2.files = (a h).2.files ∧
      (reporting reported a h).2.commands = (a h).2.commands ∧
      (∀ x, (a h).1 = .ok x → (reporting reported a h).1 = .ok x) ∧
      ∀ f, (a h).1 = .error f → ∃ s, (reporting reported a h).1 = .error s := by
  rcases ha : a h with ⟨f | x, h'⟩
  · have hends := reporting_of_error reported ha
    exact ⟨hends.files, hends.commands, nofun, fun _ _ => hends.stops⟩
  · rw [reporting_of_ok ha]
    exact ⟨rfl, rfl, fun _ hx => by rw [Except.ok.inj hx], nofun⟩

/-- Nothing that comes behind a failure is done. -/
theorem EndsWith.bind {β : Type} {reported : Bool} {files : FileSystem} {commands : List (List Text)}
    {x : HostM Stop α} (hx : EndsWith f reported files commands (x h)) (k : α → HostM Stop β) :
    EndsWith f reported files commands ((x >>= k) h) := by
  obtain ⟨s, hs⟩ := hx.stops
  rw [bind_apply]
  rcases hrun : x h with ⟨r, h'⟩
  rw [hrun] at hx hs
  obtain rfl : r = .error s := hs
  exact ⟨⟨s, rfl⟩, hx.files, hx.commands, fun hr => ⟨by simpa using (hx.shown hr).1, (hx.shown hr).2⟩,
    fun hr => by simpa using hx.escapes hr⟩

theorem ensuring_apply {a : HostM Stop α} {last : HostM Stop Unit} (hl : last (a h).2 = (.ok (), h'')) :
    ensuring a last h = ((a h).1, h'') := by
  rcases hrun : a h with ⟨r, h'⟩
  rw [hrun] at hl
  simp only [ensuring, hrun, hl]

end Ending

namespace Task

variable {t : Task} {directory output : FilePath} {startedAt : Int} {launch : List Text → Action Int}
  {h : Host} {settings : Settings} {words command : List Text} {text : Text} {bytes : List UInt8}

/-- Loading settings changes nothing of the host but its log. -/
theorem loadSettings_apply (t : Task) (directory : FilePath) (h : Host) : ∃ events,
    t.loadSettings directory h =
      (h.files.settingsFor directory t.config, { h with events := events }) := by
  cases hgiven : t.config with
  | some file =>
    rw [loadSettings, hgiven]
    exact Shorthand.loadSettings_apply file h
  | none =>
    rw [loadSettings, hgiven, FileSystem.settingsFor]
    dsimp only
    rw [bind_apply, findSettings, bind_apply, inspect_apply]
    cases h.files.isFileAt (directory.child settingsName) with
    | error f => exact ⟨h.events, rfl⟩
    | ok found =>
      cases found with
      | true => exact Shorthand.loadSettings_apply _ h
      | false => exact ⟨h.events, rfl⟩

/-- The command that a task starts on its output, if it starts any: that of an interactive session goes
before evaluation. -/
def command? (t : Task) (settings : Settings) (output : FilePath) (words : List Text) :
    Option (Except ShellWords.Fault (List Text)) :=
  if t.interactive then some (Command.interactive settings.repl output (.list words))
  else if t.evaluate then
    some (Command.eval (t.interpreterName settings) output t.extra (.list words))
  else none

def conclude (t : Task) (launch : List Text → Action Int) (settings : Settings) (output : FilePath) :
    HostM Stop Int := do
  let words ← attempt (.escaped ∘ .words) (t.arguments settings)
  ensuring (reporting Failure.isRefusal (t.use launch settings output words))
    (reporting (fun _ => false) (t.cleanUp settings output))

theorem announce_apply (t : Task) (output : FilePath) (expanded : Text) (h : Host) : ∃ shown,
    (t.announce output expanded : HostM Stop Unit) h = (.ok (), { h with output := shown }) := by
  rw [announce]
  split
  · exact ⟨_, rfl⟩
  split
  · exact ⟨h.output, rfl⟩
  · exact ⟨_, rfl⟩

/-- A task whose settings cannot be loaded ends before it does anything. -/
theorem perform_of_settings {f : Failure} (hs : h.files.settingsFor directory t.config = .error f) :
    EndsWith f f.isRefusal h.files h.commands (t.perform directory startedAt launch h) := by
  obtain ⟨events, hload⟩ := t.loadSettings_apply directory h
  rw [hs] at hload
  exact (reporting_of_error Failure.isRefusal hload).bind _

/-- With settings, a task goes on in the same way on a host that differs in its log only. -/
theorem perform_settled (hs : h.files.settingsFor directory t.config = .ok settings)
    (startedAt : Int) (launch : List Text → Action Int) : ∃ events,
    t.perform directory startedAt launch h = (do
      let output ← attempt (.escaped ∘ .naming) (t.output startedAt settings)
      let expanded ← reporting (fun f => f.isRefusal || f.isSystem)
        (expandFile t.source output settings.maxDepth)
      t.announce output expanded
      t.conclude launch settings output : HostM Stop Int) { h with events := events } := by
  obtain ⟨events, hload⟩ := t.loadSettings_apply directory h
  rw [hs] at hload
  refine ⟨events, ?_⟩
  rw [perform, bind_apply, reporting_of_ok hload]
  rfl

/-- A task whose output has no name ends before it expands anything. -/
theorem perform_of_naming {fault : NameFault}
    (hs : h.files.settingsFor directory t.config = .ok settings)
    (hn : t.output startedAt settings = .error fault) :
    EndsWith (.naming fault) false h.files h.commands (t.perform directory startedAt launch h) := by
  obtain ⟨events, hrun⟩ := perform_settled hs startedAt launch
  rw [hrun, hn]
  exact ⟨⟨_, rfl⟩, rfl, rfl, nofun, fun _ => rfl⟩

theorem perform_of_expansion {r : Except Failure Text × Host}
    (hs : h.files.settingsFor directory t.config = .ok settings)
    (hn : t.output startedAt settings = .ok output)
    (he : expandFile t.source output settings.maxDepth { files := h.files } = r) :
    (∀ f, r.1 = .error f → EndsWith f (f.isRefusal || f.isSystem) r.2.files h.commands
      (t.perform directory startedAt launch h)) ∧
    ∀ expanded, r.1 = .ok expanded → ∃ h₁, h₁.files = r.2.files ∧ h₁.commands = h.commands ∧
      t.perform directory startedAt launch h = t.conclude launch settings output h₁ := by
  obtain ⟨events, hrun⟩ := perform_settled hs startedAt launch
  -- The expansion sees the files only, so it goes as it does on a host with an empty log.
  obtain ⟨later, hexpand⟩ :=
    onFiles_expandFile t.source output settings.maxDepth { h with events := events }
  rw [he] at hexpand
  rw [hrun, hn, bind_apply, attempt_apply]
  dsimp only
  refine ⟨fun f hf => ?_, fun expanded hok => ?_⟩
  · rw [hf] at hexpand
    exact (reporting_of_error (fun f => f.isRefusal || f.isSystem) hexpand).bind _
  · rw [hok] at hexpand
    obtain ⟨shown, hshown⟩ := t.announce_apply output expanded { h with files := r.2.files, events := later }
    refine ⟨{ h with files := r.2.files, events := later, output := shown }, rfl, rfl, ?_⟩
    rw [bind_apply, reporting_of_ok hexpand]
    dsimp only
    rw [bind_apply, hshown]

/-- Arguments that do not split end a task with its output written and not deleted. -/
theorem conclude_of_fault {fault : ShellWords.Fault} (hw : t.arguments settings = .error fault)
    (launch : List Text → Action Int) (output : FilePath) (h : Host) :
    t.conclude launch settings output h = (.error (.escaped (.words fault)), h) := by
  rw [conclude, hw]
  rfl

theorem use_of_none (hc : t.command? settings output words = none) (launch : List Text → Action Int)
    (h : Host) : t.use launch settings output words h = (.ok 0, h) := by
  rw [command?] at hc
  rw [use]
  split at hc
  · cases hc
  split at hc
  · cases hc
  · rw [if_neg ‹_›, if_neg ‹_›]
    rfl

theorem use_of_some {r : Except ShellWords.Fault (List Text)}
    (hc : t.command? settings output words = some r) (launch : List Text → Action Int) (h : Host) :
    ∃ events, t.use launch settings output words h =
      match r with
      | .error fault => (.error (.words fault), { h with events := events })
      | .ok command => launch command { h with events := events, commands := command :: h.commands } := by
  rw [command?] at hc
  rw [use]
  split at hc
  · obtain rfl := Option.some.inj hc
    rw [if_pos ‹_›]
    by_cases he : t.evaluate = true
    · rw [if_pos he]
      refine ⟨.evaluationIgnored :: h.events, ?_⟩
      cases Command.interactive settings.repl output (.list words) <;> rfl
    · rw [if_neg he]
      refine ⟨h.events, ?_⟩
      cases Command.interactive settings.repl output (.list words) <;> rfl
  split at hc
  · obtain rfl := Option.some.inj hc
    rw [if_neg ‹_›, if_pos ‹_›]
    refine ⟨h.events, ?_⟩
    cases Command.eval (t.interpreterName settings) output t.extra (.list words) <;> rfl
  · cases hc

/-- The files behind a task: its output is removed if that is asked for. -/
structure Cleared (t : Task) (settings : Settings) (output : FilePath) (files files' : FileSystem) :
    Prop where
  removed : t.delete = true ∨ settings.delete = true → files.Removed output files'
  kept : ¬ (t.delete = true ∨ settings.delete = true) → files' = files

/-- Of a file that can be read, the deletion asked for never fails. -/
theorem cleanUp_apply (t : Task) (settings : Settings) (hb : h.files.read output = .ok bytes) :
    ∃ files events, t.Cleared settings output h.files files ∧
      reporting (fun _ => false) (t.cleanUp settings output) h =
        (.ok (), { h with files := files, events := events }) := by
  by_cases hd : (t.delete || settings.delete) = true
  · obtain ⟨files, events, hremoved, hrun⟩ := removeFile_of_read hb
    have hforce : t.delete = true ∨ settings.delete = true := by simpa using hd
    refine ⟨files, events, ⟨fun _ => hremoved, fun hno => absurd hforce hno⟩, reporting_of_ok ?_⟩
    rw [cleanUp, if_pos hd, bind_apply, hrun]
    rfl
  · have hforce : ¬ (t.delete = true ∨ settings.delete = true) := by simpa using hd
    refine ⟨h.files, h.events, ⟨fun hyes => absurd hyes hforce, fun _ => rfl⟩, reporting_of_ok ?_⟩
    rw [cleanUp, if_neg hd]
    rfl

/-- Putting the output to use changes files only as the commands do. -/
theorem files_use (hkeeps : ∀ command h, (launch command h).2.files = h.files) (t : Task)
    (settings : Settings) (output : FilePath) (words : List Text) (h : Host) :
    (t.use launch settings output words h).2.files = h.files := by
  cases hc : t.command? settings output words with
  | none => rw [use_of_none hc]
  | some r =>
    obtain ⟨events, huse⟩ := use_of_some hc launch h
    rw [huse]
    cases r with
    | error fault => rfl
    | ok command => exact hkeeps command _

/-- Where the words for the interpreter are known, the output is put to use and then cleared away, and the
use decides how the task ends. -/
theorem conclude_of_words (hw : t.arguments settings = .ok words) (hb : h.files.read output = .ok bytes)
    (hkeeps : ∀ command h, (launch command h).2.files = h.files) :
    let used := reporting Failure.isRefusal (t.use launch settings output words) h
    let concluded := t.conclude launch settings output h
    concluded.1 = used.1 ∧ concluded.2.commands = used.2.commands ∧
      t.Cleared settings output h.files concluded.2.files := by
  intro used concluded
  have hfiles : used.2.files = h.files :=
    (reporting_apply _ _ h).1.trans (files_use hkeeps t settings output words h)
  have hused : used.2.files.read output = .ok bytes := hfiles ▸ hb
  obtain ⟨files, events, hcleared, hclean⟩ := t.cleanUp_apply settings hused
  have hrun : concluded = (used.1, { used.2 with files := files, events := events }) := by
    change t.conclude launch settings output h = _
    rw [conclude, hw, bind_apply, attempt_apply]
    exact ensuring_apply hclean
  rw [hrun]
  exact ⟨rfl, rfl, hfiles ▸ hcleared⟩

end Task

end Shorthand
