import Shorthand.Proofs.Course
import Shorthand.Proofs.SettingChecks

/-! Which documents are accepted as settings. Where every section is a table, a document is accepted if each
setting that it has is of the right kind and within its bounds, and it is refused otherwise. A section that
is no table, a text of arguments that does not split and an integer that is too long to be shown are not
refused in this way. Main statement: `loadSettings_accepts`. -/
namespace Shorthand

variable {document : Toml.Table} {settings : Settings} {fault : SettingsFault} {file : FilePath}

namespace FileSystem

variable {fs : FileSystem}

/-- The file at a path holds a configuration document. -/
def Documents (fs : FileSystem) (file : FilePath) (document : Toml.Table) : Prop :=
  ∃ t, fs.read file = .ok (Utf8.encode t) ∧ Toml.parse t.unifyLineBreaks = .ok document

theorem settingsAt_of_documents (h : fs.Documents file document) :
    fs.settingsAt file = ((Settings.ofDocument document).mapError .settings).map fun settings =>
      { settings with path := some file } := by
  obtain ⟨t, hread, hparse⟩ := h
  have hdecode : decodeText (Utf8.encode t) = .ok t := by
    rw [decodeText, Utf8.decode_eq_ok_iff.mpr rfl]
    rfl
  rw [settingsAt, hread]
  dsimp only
  rw [Settings.ofBytes, hdecode]
  simp only [bind, Except.bind, hparse]
  rfl

end FileSystem

section Loading

variable {h : Host} {f : Failure}

/-- A file that holds a document loads as the document reads, with the file as its path. -/
theorem loadSettings_of_documents (hdoc : h.files.Documents file document) :
    (loadSettings file h).1 = ((Settings.ofDocument document).mapError .settings).map fun settings =>
      { settings with path := some file } := by
  obtain ⟨events, hload⟩ := loadSettings_apply file h
  rw [hload, FileSystem.settingsAt_of_documents hdoc]

/-- Loading a document gives its settings, with the file that they come from. -/
theorem loadSettings_eq_ok_iff (hdoc : h.files.Documents file document) :
    (loadSettings file h).1 = .ok settings ↔ ∃ found, Settings.ofDocument document = .ok found ∧
      settings = { found with path := some file } := by
  rw [loadSettings_of_documents hdoc]
  constructor
  · intro hloaded
    cases hd : Settings.ofDocument document with
    | error fault =>
      rw [hd] at hloaded
      cases hloaded
    | ok found =>
      rw [hd] at hloaded
      exact ⟨found, rfl, (Except.ok.inj hloaded).symm⟩
  · rintro ⟨found, hfound, rfl⟩
    rw [hfound]
    rfl

/-- Settings that are loaded are what the document gives, setting by setting. -/
theorem gives_of_loadSettings (hdoc : h.files.Documents file document)
    (hloaded : (loadSettings file h).1 = .ok settings) :
    settings.path = some file ∧ ∀ k, document.Gives k (settings.get k) := by
  obtain ⟨found, hfound, rfl⟩ := (loadSettings_eq_ok_iff hdoc).mp hloaded
  refine ⟨rfl, fun k => ?_⟩
  have hget : ({ found with path := some file } : Settings).get k = found.get k := by cases k <;> rfl
  rw [hget]
  exact (Settings.ofDocument_eq_ok_iff.mp hfound).1 k

/-- It fails exactly as the document fails. -/
theorem loadSettings_eq_error_iff (hdoc : h.files.Documents file document) :
    (loadSettings file h).1 = .error f ↔ ∃ fault, Settings.ofDocument document = .error fault ∧
      f = .settings fault := by
  rw [loadSettings_of_documents hdoc]
  constructor
  · intro hloaded
    cases hd : Settings.ofDocument document with
    | error fault =>
      rw [hd] at hloaded
      exact ⟨fault, rfl, (Except.error.inj hloaded).symm⟩
    | ok found =>
      rw [hd] at hloaded
      cases hloaded
  · rintro ⟨fault, hfault, rfl⟩
    rw [hfault]
    rfl

end Loading

namespace Toml.Table

open Setting

variable {k : Setting} {v : Value}

/-- In a document whose sections are tables, a setting is settled if its value can be read, provided that
all values can be shown. -/
theorem settles_iff (h : document.Sectioned)
    (hshown : ∀ v, document.given? k = some v → v.isWritable = true) :
    document.Settles k ↔ ∀ v, document.given? k = some v → ∃ c, k.Reads v c := by
  constructor
  · rintro ⟨c, hgives⟩ v hv
    cases hgives with
    | lacking lacks =>
      rw [(lacks_iff_of_sectioned h).mp lacks] at hv
      cases hv
    | given given reads shown =>
      obtain rfl := Option.some.inj (given.symm.trans hv)
      exact ⟨c, reads⟩
  · intro hreads
    cases hv : document.given? k with
    | none => exact ⟨_, .lacking ((lacks_iff_of_sectioned h).mpr hv)⟩
    | some v =>
      obtain ⟨c, hc⟩ := hreads v hv
      refine ⟨c, .given hv hc ?_⟩
      rintro items rfl
      exact hshown _ hv

/-- In such a document, only a text of arguments that does not split fails in another way than by a
refusal. -/
theorem isRefusal_of_failsAt (h : document.Sectioned)
    (hshown : ∀ v, document.given? k = some v → v.isWritable = true) (hfails : document.FailsAt k fault) :
    (Failure.settings fault).isRefusal = true ∨ ∃ t sticks, document.given? .args = some (.string t) ∧
      ShellWords.split t = .error sticks ∧ fault = .arguments sticks := by
  cases hfails with
  | misplaced misplaced => exact absurd misplaced (not_misplaced_of_sectioned h)
  | wrongKind => exact .inl rfl
  | unwritable given _ hidden =>
    rw [hshown _ given] at hidden
    cases hidden
  | rejected given rejects =>
    cases rejects with
    | words sticks => exact .inr ⟨_, _, given, sticks, rfl⟩
    | items hidden =>
      have hall : Value.allWritable _ = true := hshown _ given
      rw [hall] at hidden
      cases hidden
    | maxDepth => exact .inl rfl

end Toml.Table

/-- A document is loaded exactly if it settles every setting, and otherwise the first one that it does not
settle decides the failure. Where the sections are tables and all values can be shown, it is loaded exactly
if each value can be read, and otherwise it is refused; there, only a text of arguments that does not split
makes for another failure than a refusal. -/
theorem loadSettings_accepts (h : Host) (file : FilePath) (document : Toml.Table)
    (hdoc : h.files.Documents file document) :
    let loaded := (loadSettings file h).1
    ((∃ settings, loaded = .ok settings) ↔ ∀ k, document.Settles k) ∧
    (∀ f, loaded = .error f ↔ ∃ k fault, f = .settings fault ∧ document.FailsAt k fault ∧
      ∀ b ∈ k.earlier, document.Settles b) ∧
    (document.Sectioned → (∀ k v, document.given? k = some v → v.isWritable = true) →
      ((∃ settings, loaded = .ok settings) ↔ ∀ k v, document.given? k = some v → ∃ c, k.Reads v c) ∧
      ∀ f, loaded = .error f → f.isRefusal = true ∨ ∃ t sticks, document.given? .args = some (.string t) ∧
        ShellWords.split t = .error sticks ∧ f = .settings (.arguments sticks)) := by
  intro loaded
  have hreturns : (∃ settings, loaded = .ok settings) ↔ ∀ k, document.Settles k := by
    rw [← Settings.exists_ofDocument_iff]
    constructor
    · rintro ⟨settings, hok⟩
      obtain ⟨found, hfound, -⟩ := (loadSettings_eq_ok_iff hdoc).mp hok
      exact ⟨found, hfound⟩
    · rintro ⟨found, hfound⟩
      exact ⟨_, (loadSettings_eq_ok_iff hdoc).mpr ⟨found, hfound, rfl⟩⟩
  have hfails : ∀ f, loaded = .error f ↔ ∃ k fault, f = .settings fault ∧ document.FailsAt k fault ∧
      ∀ b ∈ k.earlier, document.Settles b := by
    intro f
    rw [loadSettings_eq_error_iff hdoc]
    simp only [Settings.ofDocument_eq_error_iff]
    constructor
    · rintro ⟨fault, ⟨k, hk, hearlier⟩, hf⟩
      exact ⟨k, fault, hf, hk, hearlier⟩
    · rintro ⟨k, fault, hf, hk, hearlier⟩
      exact ⟨fault, ⟨k, hk, hearlier⟩, hf⟩
  refine ⟨hreturns, hfails, fun hsectioned hshown => ⟨?_, fun f hf => ?_⟩⟩
  · rw [hreturns]
    exact forall_congr' fun k => Toml.Table.settles_iff hsectioned (hshown k)
  · obtain ⟨k, fault, rfl, hk, -⟩ := (hfails f).mp hf
    rcases Toml.Table.isRefusal_of_failsAt hsectioned (hshown k) hk with
      hrefusal | ⟨t, sticks, hgiven, hsplit, rfl⟩
    · exact .inl hrefusal
    · exact .inr ⟨t, sticks, hgiven, hsplit, rfl⟩

/-- A text in place of a section is passed over, and the nesting limit behind it is refused. -/
theorem loadSettings_accepts_text :
    let file : FilePath := .ofText "g".toList
    let files : FileSystem :=
      ⟨[(["g".toList], .file (Utf8.encode "run = 'x'
[expand]
max_depth = 0".toList))], []⟩
    let document : Toml.Table :=
      [("run".toList, .string ['x']), ("expand".toList, .table [("max_depth".toList, .integer 0)])]
    files.Documents file document ∧
      (loadSettings file { files }).1 = .error (.settings (.depthTooSmall 0)) := by
  intro file files document
  have hdoc : files.Documents file document := ⟨_, rfl, HostM.eq_ok_of_toOption (by decide +kernel)⟩
  have hlimit : document.FailsAt .maxDepth (.depthTooSmall 0) := .rejected rfl (.maxDepth (by decide))
  have hearlier : ∀ b ∈ Setting.maxDepth.earlier, document.Settles b := by
    intro b hb
    have hlacks : document.Lacks b := by
      cases b with
      | suffix => trivial
      | maxDepth => exact absurd hb (by decide)
      | _ =>
        change ¬ _ <:+: ['x']
        decide
    exact ⟨_, .lacking hlacks⟩
  have hloads := (loadSettings_accepts { files } file document hdoc).2.1 (.settings (.depthTooSmall 0))
  exact ⟨hdoc, hloads.mpr ⟨.maxDepth, _, rfl, hlimit, hearlier⟩⟩

/-- A number in place of a section is not refused, and neither are any settings loaded. -/
theorem not_refused_of_numberSection : ¬ ∀ (h : Host) (file : FilePath) (document : Toml.Table),
    h.files.Documents file document →
      (∃ settings, (loadSettings file h).1 = .ok settings) ∨
        ∃ f, (loadSettings file h).1 = .error f ∧ f.isRefusal = true := by
  intro hall
  let file : FilePath := .ofText "g".toList
  let files : FileSystem := ⟨[(["g".toList], .file (Utf8.encode "run = 5".toList))], []⟩
  let document : Toml.Table := [("run".toList, .integer 5)]
  have hdoc : files.Documents file document := ⟨_, rfl, HostM.eq_ok_of_toOption (by decide +kernel)⟩
  have hfails : Settings.ofDocument document = .error (.noParts (.integer 5)) :=
    Settings.ofDocument_eq_error_iff.mpr ⟨.interpreter, .misplaced rfl, fun _ hb => absurd hb List.not_mem_nil⟩
  have hload : (loadSettings file { files }).1 = .error (.settings (.noParts (.integer 5))) :=
    (loadSettings_eq_error_iff hdoc).mpr ⟨_, hfails, rfl⟩
  rcases hall { files } file document hdoc with ⟨settings, hok⟩ | ⟨f, herror, hrefusal⟩
  · cases hload.symm.trans hok
  · obtain rfl := Except.error.inj (hload.symm.trans herror)
    cases hrefusal

end Shorthand
