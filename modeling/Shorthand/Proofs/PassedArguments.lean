import Shorthand.Proofs.Dependence
import Shorthand.Proofs.Quoting
import Shorthand.Proofs.Replacement
import Shorthand.Proofs.Starting

/-! Three ways to pass words to the interpreter: as a shell text on the line, as a shell text in a settings
file, and as an array there. Runs that are alike but for the way in which they pass the same words start the
same commands. Main statement: `run_passes`. -/
namespace Shorthand

variable {document document' : Toml.Table} {words : List Text} {p : FilePath} {fs : FileSystem}
  {bytes : List UInt8}

namespace Toml.Table

/-- A document gives words as arguments: item by item, or as a text that they are quoted and joined to. -/
inductive GivesWords (document : Table) (words : List Text) : Prop where
  | array (given : document.given? .args = some (.array (words.map .string)))
  | text (given : document.given? .args = some (.string (ShellWords.join words)))

theorem allWritable_strings (words : List Text) : Value.allWritable (words.map .string) = true := by
  induction words with
  | nil => rfl
  | cons word words ih => exact ih

theorem plain_strings (words : List Text) : (words.map Value.string).map Value.plain = words := by
  rw [List.map_map]
  exact List.map_id words

/-- In either way, the document has the words for the setting. -/
theorem GivesWords.gives (h : document.GivesWords words) : document.Gives .args words := by
  cases h with
  | array given =>
    have hreads : Setting.args.Reads (.array (words.map .string)) _ := .items (words.map .string)
    rw [plain_strings] at hreads
    refine .given given hreads fun items he => ?_
    obtain rfl := Value.array.inj he
    exact allWritable_strings words
  | text given => exact .given given (.words (ShellWords.split_join words)) nofun

end Toml.Table

/-- It makes no difference in which of the two ways a document gives words, if it gives the same otherwise. -/
theorem Settings.ofDocument_of_givesWords (h : document.Sectioned) (h' : document'.Sectioned)
    (hwords : document.GivesWords words) (hwords' : document'.GivesWords words)
    (hrest : ∀ k, k ≠ .args → document'.given? k = document.given? k) :
    ofDocument document' = ofDocument document := by
  refine ofDocument_congr (fun k c hgives => ?_) fun k fault hfails => ?_
  · by_cases hk : k = .args
    · subst hk
      obtain rfl : words = c := hwords.gives.unique hgives
      exact hwords'.gives
    · exact hgives.congr h h' (hrest k hk)
  · by_cases hk : k = .args
    · -- Where there are words the setting does not fail.
      subst hk
      exact absurd ⟨words, hwords.gives⟩ (Setting.not_settles_of_failsAt hfails)
    · exact hfails.congr h (hrest k hk)

section Loading

variable {h h' : Host} {file file' : FilePath}

/-- The words do not stand in the way of the other settings. -/
theorem exists_loadSettings_of_givesWords (hdoc : h.files.Documents file document)
    (hwords : document.GivesWords words) (hrest : ∀ k, k ≠ .args → document.Settles k) :
    ∃ settings, (loadSettings file h).1 = .ok settings := by
  have hall : ∀ k, document.Settles k := by
    intro k
    by_cases hk : k = .args
    · exact hk ▸ ⟨words, hwords.gives⟩
    · exact hrest k hk
  obtain ⟨found, hfound⟩ := Settings.exists_ofDocument_iff.mpr hall
  exact ⟨_, (loadSettings_eq_ok_iff hdoc).mpr ⟨found, hfound, rfl⟩⟩

/-- Two documents that give the same words in either form, and agree on all other settings, load alike. -/
theorem loadSettings_of_givesWords (hdoc : h.files.Documents file document)
    (hdoc' : h'.files.Documents file' document') (hwords : document.GivesWords words)
    (hwords' : document'.GivesWords words) (hsectioned : document.Sectioned)
    (hsectioned' : document'.Sectioned)
    (hrest : ∀ k, k ≠ .args → document'.given? k = document.given? k) :
    (loadSettings file' h').1 =
      (loadSettings file h).1.map fun settings => { settings with path := some file' } := by
  have hfound : Settings.ofDocument document' = Settings.ofDocument document :=
    Settings.ofDocument_of_givesWords hsectioned hsectioned' hwords hwords' hrest
  rw [loadSettings_of_documents hdoc, loadSettings_of_documents hdoc', hfound]
  cases Settings.ofDocument document <;> rfl

end Loading

theorem FileSystem.isFileAt_of_read (h : fs.read p = .ok bytes) : fs.isFileAt p = .ok true := by
  obtain ⟨loc, hloc, hfile⟩ := read_eq_ok_iff.mp h
  rw [isFileAt, ask, entryAt_of_locate hloc, hfile]

namespace CommandLine

/-- The settings file that an invocation reads if it is there. -/
def settingsFile (files : FileSystem) (args : List Argument) : FilePath :=
  ((value? args .config).map FilePath.ofText).getD ((⟨.root, files.current⟩ : FilePath).child settingsName)

/-- Whether an argument gives words for the interpreter. -/
def Argument.passes : Argument → Bool
  | .parameter .args _ => true
  | _ => false

/-- The arguments that do not give words for the interpreter. -/
def others (args : List Argument) : List Argument := args.filter fun a => !a.passes

/-- An invocation passes words to the interpreter: on the line, or in its settings file if the line has
none. -/
inductive Provides (files : FileSystem) (args : List Argument) (words : List Text) : Prop where
  | line (given : value? args .args = some (ShellWords.join words))
  | settings {document : Toml.Table} (absent : value? args .args = none)
      (documents : files.Documents (settingsFile files args) document) (given : document.GivesWords words)

/-- Two invocations ask for the same, but perhaps for the words for the interpreter. -/
structure Alike (files files' : FileSystem) (args args' : List Argument) : Prop where
  line : others args' = others args
  settings : ∀ {settings settings'}, settingsOf files args = .ok settings →
    settingsOf files' args' = .ok settings' → ∀ k, k ≠ .args → settings'.get k = settings.get k

/-- Two file systems differ in one file only, which is not the source: in its content, or in whether it is
there. A file that is there on one side only may stand in the way of new directories, so then an output that
is given stands in a directory that is there. -/
inductive OneFileApart (args : List Argument) (source : Text) (files files' : FileSystem) : Prop where
  | replaced {loc : Location} (apart : files.locate (.ofText source) ≠ .ok loc)
      (same : files.SameBut loc files') : OneFileApart args source files files'
  | added {loc : Location} (apart : files.locate (.ofText source) ≠ .ok loc)
      (same : files.SameAround loc files')
      (placed : ∀ path, value? args .out = some path →
        files.entryAt (FilePath.ofText path).parent = .ok (some .directory)) :
      OneFileApart args source files files'

def Prepared (startedAt : Int) (args : List Argument) (source : Text) (files : FileSystem) : Prop :=
  ∃ settings output text behind, Prepares startedAt args source files settings output text behind

variable {s : Surroundings} {launch : List Text → Action Int}
  {child : List Text → FileSystem → Except Failure Int} {line line' : List Text}
  {args args' : List Argument} {source : Text} {extra : List Text} {files files' behind behind' : FileSystem}
  {settings settings' : Settings} {output output' : FilePath} {text text' : Text} {passed : List Text}

section Others

/-- The flags are among the arguments that pass no words. -/
theorem has_others (args : List Argument) (f : Flag) : has (others args) f = has args f := by
  simp [has, others, Argument.passes]

/-- So are all parameters but the one for words. -/
theorem value?_others (args : List Argument) {q : Parameter} (hq : q ≠ .args) :
    value? (others args) q = value? args q := by
  rw [value?, value?, others, List.filterMap_filter]
  congr 2
  funext a
  cases a with
  | parameter r v =>
    cases r with
    | args => exact (if_neg (Ne.symm hq)).symm
    | _ => rfl
  | _ => rfl

/-- A text on the line is the value of the option in front of it, whatever it looks like. -/
theorem read?_args (word : Text) (line : List Text) :
    read? ("--args".toList :: word :: line) = (read? line).map (.parameter .args word :: ·) := by
  have hgroup : group? "--args".toList = some ⟨[], some (.args, none)⟩ := by decide +kernel
  rw [read?, if_neg (by decide), if_pos (by decide), hgroup]
  rfl

end Others

/-- The task of an invocation with the same line otherwise. -/
theorem taskOf_of_others (h : others args' = others args) (s : Surroundings) (source : Text)
    (extra : List Text) : taskOf s args' source extra =
      { taskOf s args source extra with args := value? args' .args } := by
  have hflag : ∀ f, has args' f = has args f := fun f => by rw [← has_others, h, has_others]
  have hvalue : ∀ q, q ≠ .args → value? args' q = value? args q :=
    fun q hq => by rw [← value?_others args' hq, h, value?_others args hq]
  simp only [taskOf, interpreter?, hflag, hvalue .out (by decide), hvalue .interpreter (by decide),
    hvalue .config (by decide)]

theorem settingsOf_of_documents {document : Toml.Table}
    (hdoc : files.Documents (settingsFile files args) document) :
    settingsOf files args = (loadSettings (settingsFile files args) { files }).1 := by
  obtain ⟨events, hload⟩ := loadSettings_apply (settingsFile files args) { files }
  obtain ⟨t, hread, -⟩ := hdoc
  rw [hload, settingsOf, FileSystem.settingsFor.eq_def]
  rw [settingsFile] at hread ⊢
  cases hconfig : value? args .config with
  | some path => rfl
  | none =>
    rw [hconfig] at hread
    have hfound : files.isFileAt ((⟨.root, files.current⟩ : FilePath).child settingsName) = .ok true :=
      FileSystem.isFileAt_of_read hread
    dsimp only [Option.map_none, Option.getD_none]
    rw [hfound]

/-- In whichever way the words are given, they are what the interpreter gets. -/
theorem Provides.passes (h : Provides files args words) (hs : settingsOf files args = .ok settings) :
    Passes args settings words := by
  cases h with
  | line given => exact .given given (ShellWords.split_join words)
  | settings absent documents given =>
    rw [settingsOf_of_documents documents] at hs
    have hgives := (gives_of_loadSettings documents hs).2 .args
    obtain rfl : words = settings.args := given.gives.unique hgives
    exact .settled absent

namespace Alike

theorem symm (h : Alike files files' args args') : Alike files' files args' args :=
  ⟨h.line.symm, fun hs hs' k hk => (h.settings hs' hs k hk).symm⟩

/-- The output has the same name. -/
theorem names (h : Alike files files' args args') (hs : settingsOf files args = .ok settings)
    (hs' : settingsOf files' args' = .ok settings') (hnames : Names s.startedAt args source settings output) :
    Names s.startedAt args' source settings' output := by
  have hsuffix : settings'.suffix = settings.suffix := h.settings hs hs' .suffix (by decide)
  have hnamed : (taskOf s args source []).output s.startedAt settings = .ok output := names_iff.mp hnames
  have hnamed' : (taskOf s args' source []).output s.startedAt settings' = .ok output := by
    rw [taskOf_of_others h.line, Task.output, hsuffix]
    exact hnamed
  exact names_iff.mpr hnamed'

/-- The command is the same for the same words. -/
theorem command? (h : Alike files files' args args') (hs : settingsOf files args = .ok settings)
    (hs' : settingsOf files' args' = .ok settings') (s : Surroundings) (source : Text) (extra : List Text)
    (output : FilePath) (words : List Text) :
    (taskOf s args' source extra).command? settings' output words =
      (taskOf s args source extra).command? settings output words := by
  have hinterpreter : settings'.interpreter = settings.interpreter :=
    h.settings hs hs' .interpreter (by decide)
  have hrepl : settings'.repl = settings.repl := h.settings hs hs' .repl (by decide)
  rw [taskOf_of_others h.line]
  simp only [Task.command?, Task.interpreterName, hinterpreter, hrepl]

/-- What is asked of one run for the other, the other way round. -/
theorem oneFileApart (h : Alike files files' args args') (hsame : OneFileApart args source files files') :
    OneFileApart args' source files' files := by
  cases hsame with
  | replaced apart same => exact .replaced (mt same.toSameAround.locate.mp apart) same.symm
  | added apart same placed =>
    refine .added (mt same.locate.mp apart) same.symm fun path hpath => ?_
    rw [← value?_others args' (by decide), h.line, value?_others args (by decide)] at hpath
    exact same.entryAt_directory (placed path hpath)

/-- An invocation that comes to its output does so as well where one file is another. -/
theorem prepared (h : Alike files files' args args') (hsame : OneFileApart args source files files')
    (hloads : (∃ settings, settingsOf files args = .ok settings) →
      ∃ settings, settingsOf files' args' = .ok settings)
    (hprepared : Prepared s.startedAt args source files) : Prepared s.startedAt args' source files' := by
  obtain ⟨settings, output, text, behind, hprepared⟩ := hprepared
  obtain ⟨settings', hs'⟩ := hloads ⟨settings, hprepared.settled⟩
  have hdepth : settings'.maxDepth = settings.maxDepth :=
    h.settings hprepared.settled hs' .maxDepth (by decide)
  have hexpanded : (expandFile (.ofText source) output settings'.maxDepth { files := files' }).1 =
      .ok text := by
    rw [hdepth]
    cases hsame with
    | replaced apart same =>
      have hexpansion := same.expansionAt apart settings.maxDepth
      exact (same.expandFile { files } { files := files' } hexpansion output).1.trans hprepared.expanded
    | added apart same placed =>
      have hparent : files.entryAt output.parent = .ok (some .directory) := by
        cases hprepared.named with
        | given given => exact placed _ given
        | derived absent named =>
          obtain ⟨written, hread, -⟩ := FileSystem.expansionAt_eq_ok hprepared.written.1
          obtain ⟨there, hloc, -⟩ := FileSystem.read_eq_ok_iff.mp hread
          exact entryAt_parent_of_derived named hloc
      exact same.expandFile { files } { files := files' } apart hparent hprepared.expanded
  exact ⟨settings', output, text, _, hs', h.names hprepared.settled hs' hprepared.named, hexpanded, rfl⟩

end Alike

theorem Names.unique (h : Names s.startedAt args source settings output)
    (h' : Names s.startedAt args source settings output') : output = output' := by
  have hnamed : (taskOf s args source []).output s.startedAt settings = .ok output := names_iff.mp h
  have hnamed' : (taskOf s args source []).output s.startedAt settings = .ok output' := names_iff.mp h'
  exact Except.ok.inj (hnamed.symm.trans hnamed')

theorem Passes.unique {words words' : List Text} (h : Passes args settings words)
    (h' : Passes args settings words') : words = words' := by
  cases h with
  | given given splits =>
    cases h' with
    | given given' splits' =>
      obtain rfl := Option.some.inj (given.symm.trans given')
      exact Except.ok.inj (splits.symm.trans splits')
    | settled absent => cases given.symm.trans absent
  | settled absent =>
    cases h' with
    | given given' splits' => cases given'.symm.trans absent
    | settled => rfl

/-- A run that comes to its output starts the command that is made of the words, if there is one. -/
theorem Prepares.commands (h : Prepares s.startedAt args source files settings output text behind)
    (hchild : Launches launch child) (hpasses : Passes args settings passed) (extra : List Text) :
    (performed s launch args source extra files).2.commands =
      (((taskOf s args source extra).command? settings output passed).bind Except.toOption).toList := by
  have hasks : ∀ command, Asks s args extra settings output command ↔
      (taskOf s args source extra).command? settings output passed = some (.ok command) := by
    intro command
    rw [asks_iff]
    constructor
    · rintro ⟨words, hwords, hcommand⟩
      obtain rfl := hpasses.unique hwords
      exact hcommand
    · exact fun hcommand => ⟨passed, hpasses, hcommand⟩
  by_cases hsome : ∃ command, Asks s args extra settings output command
  · obtain ⟨command, hcommand⟩ := hsome
    rw [(h.starts hchild hcommand).1, (hasks command).mp hcommand]
    rfl
  · rw [(h.idles hchild hsome).1]
    rcases hcommand : (taskOf s args source extra).command? settings output passed with _ | r
    · rfl
    cases r with
    | error fault => rfl
    | ok command => exact absurd ⟨command, (hasks command).mpr hcommand⟩ hsome

/-- A run that does not come to its output starts no command. -/
theorem commands_of_not_prepared (h : ¬ Prepared s.startedAt args source files)
    (launch : List Text → Action Int) (extra : List Text) :
    (performed s launch args source extra files).2.commands = [] := by
  rcases prepares_or_fails s.startedAt args source files with hprepared | ⟨f, reported, behind, hfails⟩
  · exact absurd hprepared h
  · exact (hfails.endsWith launch extra).commands

/-- Alike runs that pass the same words start the same commands, if both come to their output or neither
does. -/
theorem Alike.commands (h : Alike files files' args args') (hchild : Launches launch child)
    (hwords : Provides files args words) (hwords' : Provides files' args' words)
    (hboth : Prepared s.startedAt args source files ↔ Prepared s.startedAt args' source files')
    (extra : List Text) : (performed s launch args' source extra files').2.commands =
      (performed s launch args source extra files).2.commands := by
  by_cases hprepared : Prepared s.startedAt args source files
  · obtain ⟨settings, output, text, behind, hleft⟩ := hprepared
    obtain ⟨settings', output', text', behind', hright⟩ := hboth.mp ⟨_, _, _, _, hleft⟩
    -- Neither the output nor the command depends on how the words are given.
    obtain rfl : output = output' := (h.names hleft.settled hright.settled hleft.named).unique hright.named
    have hcommand := h.command? hleft.settled hright.settled s source extra output words
    rw [hleft.commands hchild (hwords.passes hleft.settled) extra,
      hright.commands hchild (hwords'.passes hright.settled) extra, hcommand]
  · rw [commands_of_not_prepared hprepared, commands_of_not_prepared (mt hboth.mpr hprepared)]

/-- Words for the interpreter can be given as an array, or quoted and joined to a text, in the settings file
or on the line. They are the same words in each case. Settings are loaded in the same way from either kind of
file, and the words do not stand in the way. Runs that give the same words in any of these ways, and that are
alike otherwise, start the same commands, provided that both come to their output or neither does; that is so
where their file systems differ in one file only and both or neither have settings. A command that is asked
for gets the words and is started. -/
theorem run_passes (words : List Text) :
    (Arguments.list words).split = .ok words ∧
    (Arguments.shell (ShellWords.join words)).split = .ok words ∧
    (∀ (h : Host) (file : FilePath) (document : Toml.Table), h.files.Documents file document →
      document.GivesWords words →
      let loaded := (loadSettings file h).1
      ((∀ k, k ≠ .args → document.Settles k) → ∃ settings, loaded = .ok settings) ∧
      (∀ settings, loaded = .ok settings → settings.args = words) ∧
      ∀ (h' : Host) (file' : FilePath) (document' : Toml.Table), h'.files.Documents file' document' →
        document'.GivesWords words → document.Sectioned → document'.Sectioned →
        (∀ k, k ≠ .args → document'.given? k = document.given? k) →
        (loadSettings file' h').1 = loaded.map fun settings => { settings with path := some file' }) ∧
    (∀ line, read? ("--args".toList :: ShellWords.join words :: line) =
      (read? line).map (.parameter .args (ShellWords.join words) :: ·)) ∧
    ∀ (s : Surroundings) (launch : List Text → Action Int)
      (child : List Text → FileSystem → Except Failure Int) (line line' : List Text)
      (args args' : List Argument) (source : Text) (extra : List Text) (files files' : FileSystem),
      Launches launch child →
      Invokes line args source extra → Invokes line' args' source extra →
      Provides files args words → Provides files' args' words → Alike files files' args args' →
      let commands := (run s launch line files).commands
      ((Prepared s.startedAt args source files ↔ Prepared s.startedAt args' source files') →
        (run s launch line' files').commands = commands) ∧
      (OneFileApart args source files files' →
        ((∃ settings, settingsOf files args = .ok settings) ↔
          ∃ settings, settingsOf files' args' = .ok settings) →
        (Prepared s.startedAt args source files ↔ Prepared s.startedAt args' source files')) ∧
      ∀ settings output text behind command,
        Prepares s.startedAt args source files settings output text behind →
        Asks s args extra settings output command → Passes args settings words ∧ commands = [command] := by
  have hsplit : ShellWords.split (ShellWords.join words) = .ok words := ShellWords.split_join words
  refine ⟨rfl, hsplit, fun h file document hdoc hwords => ⟨?loads, fun settings hloaded => ?args, ?same⟩,
    read?_args _, ?runs⟩
  case loads => exact exists_loadSettings_of_givesWords hdoc hwords
  case args => exact ((gives_of_loadSettings hdoc hloaded).2 .args).unique hwords.gives
  case same =>
    intro h' file' document' hdoc' hwords' hsectioned hsectioned' hrest
    exact loadSettings_of_givesWords hdoc hdoc' hwords hwords' hsectioned hsectioned' hrest
  case runs =>
    intro s launch child line line' args args' source extra files files' hchild hline hline' hwords hwords'
      halike commands
    have hcommands : commands = _ := commands_run hline
    refine ⟨fun hboth => ?commands, fun hsame hloads => ⟨halike.prepared hsame hloads.mp, ?back⟩,
      fun settings output text behind command h hasks => ⟨hwords.passes h.settled, ?starts⟩⟩
    case commands =>
      rw [hcommands, commands_run hline', halike.commands hchild hwords hwords' hboth extra]
    case back => exact halike.symm.prepared (halike.oneFileApart hsame) hloads.mpr
    case starts =>
      rw [hcommands, (h.starts hchild hasks).1]
      rfl

/-- An empty word and one with a quote, on the line of a run without a settings file and in the settings file
of another. -/
theorem run_passes_settings :
    let s : Surroundings := { startedAt := 5, release := [], language := [], platform := [] }
    let launch : List Text → Action Int := fun _ => pure 0
    let words := ["".toList, "a'b".toList]
    let files : FileSystem := ⟨[(["p".toList], .file (Utf8.encode "(.a)".toList))], []⟩
    let settings := "[run]\nargs=['',\"a'b\"]".toList
    let files' : FileSystem := files.set ["geode.toml".toList] (.file (Utf8.encode settings))
    let line := ["--args".toList, ShellWords.join words, "p".toList, "-e".toList]
    (run s launch ["p".toList, "-e".toList] files').commands = (run s launch line files).commands ∧
      (run s launch line files).commands = [["ruby".toList, "p5.rb".toList, "".toList, "a'b".toList]] := by
  have hparse : Toml.parse (Text.unifyLineBreaks "[run]\nargs=['',\"a'b\"]".toList) =
      .ok [("run".toList, .table [("args".toList, .array [.string [], .string "a'b".toList])])] :=
    HostM.eq_ok_of_toOption (by decide +kernel)
  intro s launch words files settings files' line
  let args' : List Argument := [.input "p".toList, .flag .evaluate]
  let args : List Argument := .parameter .args (ShellWords.join words) :: args'
  let document : Toml.Table := [("run".toList, .table [("args".toList, .array (words.map .string))])]
  have hchild : Launches launch fun _ _ => .ok 0 := ⟨fun _ _ => rfl, fun _ _ => rfl, fun _ _ => rfl⟩
  have hline : Invokes line args "p".toList [] := ⟨by decide, by decide, by decide, by decide⟩
  have hline' : Invokes ["p".toList, "-e".toList] args' "p".toList [] :=
    ⟨by decide, by decide, by decide, by decide⟩
  have hroot : ["geode.toml".toList] ≠ ([] : Location) := List.cons_ne_nil _ _
  have hput := FileSystem.find?_set_self files hroot (.file (Utf8.encode settings))
  have hplace : files'.locate (settingsFile files' args') = .ok ["geode.toml".toList] :=
    HostM.eq_ok_of_toOption (by decide +kernel)
  have hdoc : files'.Documents (settingsFile files' args') document :=
    ⟨settings, FileSystem.read_eq_ok_iff.mpr ⟨_, hplace, hput⟩, hparse⟩
  have hsettings : settingsOf files args = .ok {} := rfl
  have hsettings' : settingsOf files' args' = .ok { args := words, path := settingsFile files' args' } := by
    rw [settingsOf_of_documents hdoc, loadSettings_of_documents hdoc]
    rfl
  have halike : Alike files files' args args' := by
    refine ⟨rfl, fun hs hs' k hk => ?_⟩
    obtain rfl := Except.ok.inj (hsettings.symm.trans hs)
    obtain rfl := Except.ok.inj (hsettings'.symm.trans hs')
    cases k with
    | args => exact absurd rfl hk
    | _ => rfl
  have hapart : OneFileApart args "p".toList files files' := by
    have hfree : files'.find? ["geode.toml".toList] ≠ some .directory := by
      intro hd
      cases hput.symm.trans hd
    have hsame : files.SameAround ["geode.toml".toList] files' :=
      ⟨rfl, fun there hthere => FileSystem.find?_set_of_ne files hthere _, by decide, hfree⟩
    refine .added (by decide) hsame fun path hpath => ?_
    cases hpath
  obtain ⟨hcommands, hprepared, -⟩ := (run_passes words).2.2.2.2 s launch _ line _ args args' "p".toList []
    files files' hchild hline hline' (.line rfl) (.settings rfl hdoc (.array rfl)) halike
  refine ⟨hcommands (hprepared hapart ⟨fun _ => ⟨_, hsettings'⟩, fun _ => ⟨_, hsettings⟩⟩), ?_⟩
  decide +kernel

end CommandLine

end Shorthand
