import Shorthand.Proofs.Invocation
import Shorthand.Proofs.Malformed
import Shorthand.Proofs.Raising
import Shorthand.Proofs.SettingChecks

/-! What runs leave alone. A run that is refused starts nothing and leaves the files as they are, whatever is
to be deleted. A run that names its output itself changes nothing that is there but this output, and the
output is never the source. Main statement: `run_spares`. -/
namespace Shorthand

open HostM

variable {source output : FilePath} {cap : Option Int} {h : Host}

/-- An expansion that fails otherwise than by an access fails before anything is written. -/
theorem expansionAt_of_refused {f : Failure} (hr : (expandFile source output cap h).1 = .error f)
    (hf : ∀ fault, f ≠ .access fault) : h.files.expansionAt source cap = .error f ∧
      (expandFile source output cap h).2.files = h.files := by
  rcases hrun : expandFile source output cap h with ⟨r, h'⟩
  rw [hrun] at hr
  obtain rfl : r = .error f := hr
  cases he : h.files.expansionAt source cap with
  | error f' =>
    obtain ⟨hfiles, hsame⟩ := expandFile_of_error hrun he
    exact ⟨hsame.symm, hfiles⟩
  | ok text =>
    rcases expandFile_of_ok hrun he with ⟨fault, hfault⟩ | ⟨hok, -⟩
    · exact absurd (Except.error.inj hfault) (hf fault)
    · cases hok

section Size

variable {bytes : List UInt8} {d : Diagnostic}

/-- Where bytes are malformed is told in numbers no greater than theirs, and no line is shown. -/
theorem raised_of_decodeSource {file : FilePath} (hd : decodeSource file bytes = .error d)
    (hsize : bytes.length < 2 ^ 60) : d.raised = .ok d.message := by
  rw [decodeSource] at hd
  split at hd
  · cases hd
  rename_i m hm
  obtain rfl := Except.error.inj hd
  obtain ⟨t, rest, hbytes, hstart, -⟩ := Utf8.exists_of_decodeFrom_error hm
  have hlength := congrArg List.length hbytes
  rw [List.length_append] at hlength
  have htake := List.length_take_le m.start bytes
  have hfeeds : (bytes.take m.start).count 10 ≤ (bytes.take m.start).length := List.count_le_length
  have hlast : ((bytes.take m.start).reverse.takeWhile (· ≠ 10)).length ≤ (bytes.take m.start).length :=
    (List.takeWhile_sublist _).length_le.trans_eq List.length_reverse
  have hbound := Text.pow_le_numeralBound
  refine Diagnostic.raised_eq_iff.mpr (.text ⟨?offset, ?limit, ?line, ?column⟩ ?marked ?counted)
  case offset =>
    intro offset flaw hfault
    obtain ⟨rfl, -⟩ := Fault.undecodable.inj hfault
    omega
  case limit =>
    intro limit hfault
    cases hfault
  case line =>
    dsimp only [Utf8.Malformed.site]
    omega
  case column =>
    dsimp only [Utf8.Malformed.site]
    omega
  case marked => exact fun i hi => absurd hi (Nat.not_lt_zero i)
  case counted => exact fun i hi => absurd hi (Nat.not_lt_zero i)

/-- The diagnostic of a source that memories can hold is shown, unless the cap cannot be written. -/
theorem raised_of_expansionAt {fs : FileSystem} (he : fs.expansionAt source cap = .error (.source d))
    (hsize : ∀ bytes, fs.read source = .ok bytes → bytes.length < 2 ^ 60)
    (hcap : ∀ limit, cap = some limit → -(Text.numeralBound : Int) < limit) : d.raised = .ok d.message := by
  obtain ⟨bytes, hread, hd | ⟨written, rfl, hx⟩⟩ := FileSystem.expansionAt_eq_source he
  · exact raised_of_decodeSource hd (hsize bytes hread)
  · have hbytes := hsize _ hread
    have hunified := Text.length_unifyLineBreaks_le written
    have hencoded := Utf8.length_le_length_encode written
    exact Diagnostic.raised_of_expand hx (by omega) hcap

end Size

/-- Settings that are read from bytes are those of a document. -/
theorem Settings.exists_ofDocument {name : Text} {bytes : List UInt8} {settings : Settings}
    (h : ofBytes name bytes = .ok settings) :
    ∃ document, ofDocument document = .ok settings := by
  simp only [ofBytes, bind, Except.bind] at h
  split at h
  · cases h
  split at h
  · cases h
  rename_i document _
  cases hd : ofDocument document with
  | error fault =>
    rw [hd] at h
    cases h
  | ok held =>
    rw [hd] at h
    obtain rfl := Except.ok.inj h
    exact ⟨document, hd⟩

namespace CommandLine

/-- An invocation is refused with a failure: its settings are, its source is missing, or its source is not
shorthand. -/
inductive Refused (startedAt : Int) (args : List Argument) (source : Text) (files : FileSystem) :
    Failure → Prop where
  | settings {f : Failure} (unsettled : settingsOf files args = .error f) (reported : f.isRefusal = true) :
      Refused startedAt args source files f
  | missing {settings : Settings} {output path : FilePath} (settled : settingsOf files args = .ok settings)
      (named : Names startedAt args source settings output)
      (refused : (expandFile (.ofText source) output settings.maxDepth { files }).1 =
        .error (.noInput path)) : Refused startedAt args source files (.noInput path)
  | shorthand {settings : Settings} {output : FilePath} {d : Diagnostic}
      (settled : settingsOf files args = .ok settings)
      (named : Names startedAt args source settings output)
      (refused : (expandFile (.ofText source) output settings.maxDepth { files }).1 =
        .error (.source d)) : Refused startedAt args source files (.source d)

variable {s : Surroundings} {launch : List Text → Action Int} {line : List Text} {args : List Argument}
  {source : Text} {extra : List Text} {files behind : FileSystem} {f : Failure}

/-- A refusal is a failure that leaves the files as they are. -/
theorem Refused.fails {startedAt : Int} (h : Refused startedAt args source files f) :
    Fails startedAt args source files f (f.isRefusal || f.isSystem) files := by
  cases h with
  | settings unsettled reported =>
    have hfails : Fails startedAt args source files f f.isRefusal files := .settings unsettled
    rwa [reported] at hfails ⊢
  | missing settled named refused =>
    have hfails := Fails.expansion settled named refused
    rwa [(expansionAt_of_refused refused nofun).2] at hfails
  | shorthand settled named refused =>
    have hfails := Fails.expansion settled named refused
    rwa [(expansionAt_of_refused refused nofun).2] at hfails

/-- A refusal is reported, unless it is a diagnostic that cannot be written. -/
theorem Refused.reported {startedAt : Int} (h : Refused startedAt args source files f)
    (hwritten : ∀ d, f = .source d → ∃ text, d.raised = .ok text) :
    (f.isRefusal || f.isSystem) = true := by
  cases h with
  | settings _ reported => rw [reported, Bool.true_or]
  | missing => rfl
  | shorthand =>
    obtain ⟨text, htext⟩ := hwritten _ rfl
    rw [Failure.isRefusal, htext]
    rfl

/-- A limit on nesting that an invocation has is one at least. -/
theorem one_le_of_settingsOf {settings : Settings} {limit : Int} (hs : settingsOf files args = .ok settings)
    (hlimit : settings.maxDepth = some limit) : 1 ≤ limit := by
  have hloaded : ∀ {file : FilePath}, files.settingsAt file = .ok settings → 1 ≤ limit := by
    intro file hs
    rw [FileSystem.settingsAt] at hs
    split at hs
    · cases hs
    rename_i bytes _
    cases hbytes : Settings.ofBytes file.name bytes with
    | error f =>
      rw [hbytes] at hs
      cases hs
    | ok held =>
      rw [hbytes] at hs
      obtain rfl := Except.ok.inj hs
      obtain ⟨document, hdocument⟩ := Settings.exists_ofDocument hbytes
      exact ((Settings.ofDocument_eq_ok_iff.mp hdocument).1 .maxDepth).one_le hlimit
  rw [settingsOf, FileSystem.settingsFor.eq_def] at hs
  split at hs
  · exact hloaded hs
  split at hs
  · exact hloaded hs
  · obtain rfl := Except.ok.inj hs
    cases hlimit
  · cases hs

/-- The diagnostic of a refusal is shown, if the source is one that memories can hold. -/
theorem Refused.raised {startedAt : Int} {d : Diagnostic} (h : Refused startedAt args source files (.source d))
    (hsize : ∀ bytes, files.read (.ofText source) = .ok bytes → bytes.length < 2 ^ 60) :
    ∃ text, d.raised = .ok text := by
  cases h with
  | settings _ reported =>
    rw [Failure.isRefusal] at reported
    cases hraised : d.raised with
    | ok text => exact ⟨text, rfl⟩
    | error obstacle =>
      rw [hraised] at reported
      cases reported
  | @shorthand settings _ _ settled _ refused =>
    have hcap : ∀ limit, settings.maxDepth = some limit → -(Text.numeralBound : Int) < limit := by
      intro limit hlimit
      have hpositive := one_le_of_settingsOf settled hlimit
      omega
    have hnone : ∀ fault, Failure.source d ≠ .access fault := by
      intro fault hfault
      cases hfault
    exact ⟨d.message, raised_of_expansionAt (expansionAt_of_refused refused hnone).1 hsize hcap⟩

/-- A line that is no invocation leaves the files as they are. -/
theorem files_of_not_invokes (h : ¬ ∃ args source extra, Invokes line args source extra)
    (s : Surroundings) (launch : List Text → Action Int) (files : FileSystem) :
    (run s launch line files).files = files := by
  rw [run]
  split
  · rfl
  rename_i args hreads
  split
  · rfl
  · rfl
  rename_i hasks
  split
  · rfl
  rename_i hpaths
  cases hinputs : inputs args with
  | nil =>
    have htask : task? s args = none := by rw [task?, hinputs]
    rw [htask]
  | cons source extra =>
    refine absurd ⟨args, source, extra, hreads, hasks, fun path hp hnull => hpaths ?_, hinputs⟩ h
    exact List.any_eq_true.mpr ⟨path, hp, decide_eq_true hnull⟩

/-- What is left of a run that ends with a failure before anything is started. -/
theorem run_of_endsWith {reported : Bool} (hline : Invokes line args source extra)
    (hends : EndsWith f reported behind [] (performed s launch args source extra files)) :
    let left := run s launch line files
    left.commands = [] ∧ left.status = failureStatus ∧ left.files = behind ∧
      (reported = true → left.raised = none ∧
        ∃ log, left.errors = log ++ Terminal.shown "Error: ".toList f.message ++ ['\n']) ∧
      (reported = false → left.raised = some f) := by
  intro left
  obtain ⟨stop, hstop⟩ := hends.stops
  have hcommands : left.commands = _ := commands_run hline
  have hstatus : left.status = _ := status_run hline
  have hfiles : left.files = _ := files_run hline
  have hraised : left.raised = _ := raised_run hline
  have herrors : left.errors = _ := errors_run hline
  refine ⟨by rw [hcommands, hends.commands]; rfl, by rw [hstatus, hstop], hfiles.trans hends.files,
    fun hreported => ?shown, fun hreported => by rw [hraised, hends.escapes hreported]⟩
  case shown =>
    obtain ⟨hstop, events, hevents⟩ := hends.shown hreported
    refine ⟨by rw [hraised, hstop], events.reverse.flatMap (Event.text (has args .verbose)), ?_⟩
    rw [herrors, Host.errors, hevents, List.reverse_cons, List.flatMap_append, List.append_assoc]
    simp [Event.text]

/-- Where no output is given, a run changes nothing but the output that it derives, if it comes to derive
one. -/
theorem files_confined (hkeeps : ∀ command h, (launch command h).2.files = h.files)
    (habsent : value? args .out = none) (extra : List Text) :
    let left := (performed s launch args source extra files).2.files
    left = files ∨ ∃ settings output, settingsOf files args = .ok settings ∧
      outputPath (.ofText source) s.startedAt settings.suffix = .ok output ∧
      files.Confined output left := by
  intro left
  have hderived : ∀ {settings output}, Names s.startedAt args source settings output →
      outputPath (.ofText source) s.startedAt settings.suffix = .ok output := by
    intro settings output hn
    cases hn with
    | given given => rw [habsent] at given; cases given
    | derived absent named => exact named
  rcases prepares_or_fails s.startedAt args source files with
    ⟨settings, output, text, behind, hprepared⟩ | ⟨f, reported, behind, hfails⟩
  · have hnamed := hderived hprepared.named
    have hwritten : files.Confined output behind :=
      hprepared.behind ▸ expandFile_confined hnamed settings.maxDepth { files }
    refine .inr ⟨settings, output, hprepared.settled, hnamed, ?_⟩
    by_cases hpasses : ∃ words, Passes args settings words
    · obtain ⟨words, hpasses⟩ := hpasses
      have hcleared := hprepared.clears hkeeps hpasses extra
      by_cases hdelete : has args .delete = true ∨ settings.delete = true
      · exact hwritten.trans (hcleared.removed hdelete).toConfined
      · have hleft : left = behind := hcleared.kept hdelete
        exact hleft ▸ hwritten
    · obtain ⟨fault, h₁, hfiles, -, hrun⟩ := hprepared.escapes launch extra hpasses
      have hleft : left = behind := (congrArg (·.2.files) hrun).trans hfiles
      exact hleft ▸ hwritten
  · have hleft : left = behind := (hfails.endsWith launch extra).files
    cases hfails with
    | settings => exact .inl hleft
    | naming => exact .inl hleft
    | expansion settled named refused =>
      have hnamed := hderived named
      exact .inr ⟨_, _, settled, hnamed, hleft ▸ expandFile_confined hnamed _ { files }⟩

/-- A run whose settings are refused, whose source is missing or whose source is not shorthand says so,
starts nothing, fails, and leaves the files as they are, whatever stands at the output and is to be deleted;
only a diagnostic that cannot be written is not shown but escapes, and no source of less than 2⁶⁰ bytes has
one. Where no output is given, all that is there stays as it is but for what is at the output that the run
derives; and whatever the suffix, no derived output is the source or leads where the source leads. A line
that asks for no run changes nothing. All this for commands that leave the files alone. -/
theorem run_spares (s : Surroundings) (line : List Text) (files : FileSystem)
    (hkeeps : ∀ command h, (launch command h).2.files = h.files) :
    let left := run s launch line files
    ((¬ ∃ args source extra, Invokes line args source extra) → left.files = files) ∧
    ∀ args source extra, Invokes line args source extra →
      (∀ f, Refused s.startedAt args source files f →
        left.commands = [] ∧ left.status = failureStatus ∧ left.files = files ∧
          ((∀ d, f = .source d → ∃ text, d.raised = .ok text) → left.raised = none ∧
            ∃ log, left.errors = log ++ Terminal.shown "Error: ".toList f.message ++ ['\n']) ∧
          (∀ d obstacle, f = .source d → d.raised = .error obstacle → left.raised = some f) ∧
          ((∀ bytes, files.read (.ofText source) = .ok bytes → bytes.length < 2 ^ 60) →
            ∀ d, f = .source d → ∃ text, d.raised = .ok text)) ∧
      (value? args .out = none →
        (∀ path entry, files.entryAt path = .ok (some entry) →
          left.files.entryAt path = .ok (some entry) ∨
            ∃ settings output, settingsOf files args = .ok settings ∧
              outputPath (.ofText source) s.startedAt settings.suffix = .ok output ∧
              files.locate path = files.locate output) ∧
        ∀ startedAt suffix output, outputPath (.ofText source) startedAt suffix = .ok output →
          output ≠ .ofText source ∧ ∀ (files : FileSystem) loc,
            files.locate output = .ok loc → files.locate (.ofText source) ≠ .ok loc) := by
  intro left
  refine ⟨fun hnone => files_of_not_invokes hnone s launch files, fun args source extra hline => ?_⟩
  have hfiles : left.files = _ := files_run hline
  refine ⟨fun f hrefused => ?refused, fun habsent => ⟨fun path entry hentry => ?derived, ?apart⟩⟩
  case refused =>
    obtain ⟨hcommands, hstatus, hleft, hshown, hescapes⟩ :=
      run_of_endsWith hline (hrefused.fails.endsWith launch extra)
    refine ⟨hcommands, hstatus, hleft, fun hwritten => hshown (hrefused.reported hwritten), ?_, ?_⟩
    · rintro d obstacle rfl hraised
      exact hescapes (by rw [Failure.isRefusal, hraised]; rfl)
    · rintro hsize d rfl
      exact hrefused.raised hsize
  case derived =>
    rw [hfiles]
    rcases files_confined hkeeps habsent extra with hsame | ⟨settings, output, hsettled, hnamed, hconfined⟩
    · exact .inl (hsame ▸ hentry)
    · exact (hconfined.entryAt hentry).imp_right fun hplace =>
        ⟨settings, output, hsettled, hnamed, hplace⟩
  case apart => exact fun startedAt suffix output hnamed => outputPath_apart hnamed

/-- A refused run keeps an older file at its output although it is to be deleted; a run that deletes its
output keeps the file beside it. -/
theorem run_spares_two :
    let s : Surroundings := { startedAt := 5, release := [], language := [], platform := [] }
    let launch : List Text → Action Int := fun _ => pure 0
    let files : FileSystem := ⟨[(["p".toList], .file (Utf8.encode "(".toList)),
      (["p5.rb".toList], .file (Utf8.encode "old".toList)), (["q".toList], .file [])], []⟩
    let refused := run s launch ["p".toList, "-d".toList] files
    refused.files = files ∧ refused.status = failureStatus ∧
      (run s launch ["q".toList, "-d".toList] files).files.entryAt (.ofText "p5.rb".toList) =
        .ok (some (.file (Utf8.encode "old".toList))) := by
  intro s launch files refused
  let d : Diagnostic :=
    ⟨.unclosed .paren, ⟨some (.ofText "p".toList), 1, 1, some "(".toList⟩⟩
  have hread : files.read (.ofText "p".toList) = .ok (Utf8.encode "(".toList) := rfl
  have hunclosed : expand (Text.unifyLineBreaks "(".toList) (some (.ofText "p".toList)) none = .error d := by
    decide +kernel
  have hcause : files.expansionAt (.ofText "p".toList) none = .error (.source d) := by
    rw [FileSystem.expansionAt_encode hread, hunclosed]
    rfl
  have hfailed : (expandFile (.ofText "p".toList) (.ofText "p5.rb".toList) none { files }).1 =
      .error (.source d) := (expandFile_of_error (h := { files }) rfl hcause).2
  have hrefused : Refused s.startedAt [.input "p".toList, .flag .delete] "p".toList files (.source d) :=
    .shorthand rfl (.derived (by decide) (HostM.eq_ok_of_toOption (by decide +kernel))) hfailed
  have hrefuses : Invokes ["p".toList, "-d".toList] [.input "p".toList, .flag .delete] "p".toList [] :=
    ⟨by decide, by decide, by decide, by decide⟩
  have hdeletes : Invokes ["q".toList, "-d".toList] [.input "q".toList, .flag .delete] "q".toList [] :=
    ⟨by decide, by decide, by decide, by decide⟩
  have hkeeps : ∀ command h, (launch command h).2.files = h.files := fun _ _ => rfl
  have hspares : ∀ line, _ := fun line => run_spares s line files hkeeps
  obtain ⟨_, hstatus, hfiles, _⟩ := ((hspares _).2 _ _ _ hrefuses).1 _ hrefused
  have hkept := (((hspares _).2 _ _ _ hdeletes).2 (by decide)).1
    (.ofText "p5.rb".toList) _ rfl
  refine ⟨hfiles, hstatus, hkept.resolve_right ?_⟩
  rintro ⟨settings, output, hsettled, hnamed, hplace⟩
  obtain rfl : {} = settings := Except.ok.inj hsettled
  have hderived : outputPath (.ofText "q".toList) 5 ".rb".toList = .ok (.ofText "q5.rb".toList) :=
    HostM.eq_ok_of_toOption (by decide +kernel)
  obtain rfl := Except.ok.inj (hderived.symm.trans hnamed)
  exact absurd (congrArg Except.toOption hplace) (by decide)

end CommandLine

end Shorthand
