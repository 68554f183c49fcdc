import Shorthand.Proofs.Acceptance

/-! What settings depend on. A setting that is loaded stands for the value that the document gives to it,
or is the default where there is no value, so it depends on nothing else in the document; and one value that
a setting cannot have keeps all settings from being loaded. Main statement: `loadSettings_faithful`. -/
namespace Shorthand

variable {document document' : Toml.Table} {settings : Settings} {fault : SettingsFault} {k : Setting}

namespace Setting

/-- The checks of a setting do not pass a value: it is of the wrong kind, or rejected. -/
def Refuses (k : Setting) (v : Toml.Value) : Prop := k.fits v = false ∨ ∃ fault, k.Rejects v fault

/-- A value that is refused stands for nothing, unless it is an array that cannot be shown. -/
theorem Refuses.not_gives {v : Toml.Value} (h : k.Refuses v) (hv : document.given? k = some v)
    (c : k.Content) : ¬ document.Gives k c := by
  intro hgives
  have hok := check_of_gives hgives
  rcases h with hunfit | ⟨fault, hrejects⟩
  · rw [check_of_unfit hv hunfit] at hok
    cases hok
  · rw [check_of_read hv (read?_eq_error_iff.mpr hrejects)] at hok
    cases hok

end Setting

namespace Toml.Table

/-- Two documents whose sections are tables give the same for a setting that has the same value in both. -/
theorem Gives.congr {c : k.Content} (h : document.Sectioned) (h' : document'.Sectioned)
    (hk : document'.given? k = document.given? k) (hgives : document.Gives k c) : document'.Gives k c := by
  cases hgives with
  | lacking lacks =>
    rw [Setting.lacks_iff_of_sectioned h, ← hk, ← Setting.lacks_iff_of_sectioned h'] at lacks
    exact .lacking lacks
  | given given reads shown => exact .given (hk.trans given) reads shown

/-- How a document fails at a setting is decided by what it gives for that setting. -/
theorem FailsAt.congr (h : document.Sectioned) (hk : document'.given? k = document.given? k)
    (hfails : document.FailsAt k fault) : document'.FailsAt k fault := by
  cases hfails with
  | misplaced misplaced => exact absurd misplaced (Setting.not_misplaced_of_sectioned h)
  | wrongKind given unfit shown => exact .wrongKind (hk.trans given) unfit shown
  | unwritable given unfit hidden => exact .unwritable (hk.trans given) unfit hidden
  | rejected given rejects => exact .rejected (hk.trans given) rejects

/-- A document gives one content for a setting at most. -/
theorem Gives.unique {c c' : k.Content} (h : document.Gives k c) (h' : document.Gives k c') : c = c' :=
  Except.ok.inj ((Setting.check_of_gives h).symm.trans (Setting.check_of_gives h'))

/-- What a document gives is what it holds, or the default where it holds nothing. -/
theorem Gives.faithful {c : k.Content} (h : document.Sectioned) (hgives : document.Gives k c) :
    (document.given? k = none → c = k.default) ∧ ∀ v, document.given? k = some v → k.Reads v c := by
  cases hgives with
  | lacking lacks =>
    have hnone := (Setting.lacks_iff_of_sectioned h).mp lacks
    refine ⟨fun _ => rfl, fun v hv => ?_⟩
    cases hnone.symm.trans hv
  | given given reads shown =>
    refine ⟨fun hnone => ?_, fun v hv => ?_⟩
    · cases hnone.symm.trans given
    · obtain rfl := Option.some.inj (given.symm.trans hv)
      exact reads

end Toml.Table

namespace Settings

/-- Documents that give the same for every setting, and that fail alike, have the same settings. -/
theorem ofDocument_congr (hgives : ∀ k c, document.Gives k c → document'.Gives k c)
    (hfails : ∀ k fault, document.FailsAt k fault → document'.FailsAt k fault) :
    ofDocument document' = ofDocument document := by
  cases ho : ofDocument document with
  | ok settings =>
    obtain ⟨hall, hpath⟩ := ofDocument_eq_ok_iff.mp ho
    exact ofDocument_eq_ok_iff.mpr ⟨fun k => hgives k _ (hall k), hpath⟩
  | error fault =>
    obtain ⟨k, hk, hearlier⟩ := ofDocument_eq_error_iff.mp ho
    exact ofDocument_eq_error_iff.mpr ⟨k, hfails k _ hk, fun b hb => (hearlier b hb).imp fun _ => hgives b _⟩

end Settings

/-- Where the sections of a document are tables, every setting that is loaded stands for its value in the
document, or is the default if it has none; a limit on nesting is one at least. The outcome is that of any
other such document with the same values for the settings, whatever else is in either, and each setting by
itself is that of any other document with the same value for it. A value that the checks of its setting do
not pass keeps all settings from being loaded. -/
theorem loadSettings_faithful (h : Host) (file : FilePath) (document : Toml.Table)
    (hdoc : h.files.Documents file document) (hsectioned : document.Sectioned) :
    let loaded := (loadSettings file h).1
    (∀ settings, loaded = .ok settings → settings.path = some file ∧
      (∀ n, settings.maxDepth = some n → 1 ≤ n) ∧
      ∀ k, (document.given? k = none → settings.get k = k.default) ∧
        ∀ v, document.given? k = some v → k.Reads v (settings.get k)) ∧
    (∀ (h' : Host) (file' : FilePath) (document' : Toml.Table), h'.files.Documents file' document' →
      document'.Sectioned →
      let loaded' := (loadSettings file' h').1
      ((∀ k, document'.given? k = document.given? k) →
        loaded' = loaded.map fun settings => { settings with path := some file' }) ∧
      ∀ settings settings', loaded = .ok settings → loaded' = .ok settings' →
        ∀ k, document'.given? k = document.given? k → settings'.get k = settings.get k) ∧
    ∀ k v, document.given? k = some v → k.Refuses v → ∀ settings, loaded ≠ .ok settings := by
  intro loaded
  refine ⟨fun settings hok => ?faithful,
    fun h' file' document' hdoc' hsectioned' => ⟨fun hall => ?same, ?apart⟩,
    fun k v hv hrefused settings hok => ?refused⟩
  case faithful =>
    obtain ⟨hpath, hsettings⟩ := gives_of_loadSettings hdoc hok
    exact ⟨hpath, fun n hn => (hsettings .maxDepth).one_le hn, fun k => (hsettings k).faithful hsectioned⟩
  case same =>
    have hloaded : loaded = _ := loadSettings_of_documents hdoc
    have hfound : Settings.ofDocument document' = Settings.ofDocument document :=
      Settings.ofDocument_congr (fun k _ hgives => hgives.congr hsectioned hsectioned' (hall k))
        fun k _ hfails => hfails.congr hsectioned (hall k)
    rw [hloaded, loadSettings_of_documents hdoc', hfound]
    cases Settings.ofDocument document <;> rfl
  case apart =>
    intro settings settings' hok hok' k hk
    have hgives : document.Gives k (settings.get k) := (gives_of_loadSettings hdoc hok).2 k
    have hgives' : document'.Gives k (settings'.get k) := (gives_of_loadSettings hdoc' hok').2 k
    exact hgives'.unique (hgives.congr hsectioned hsectioned' hk)
  case refused => exact hrefused.not_gives hv _ ((gives_of_loadSettings hdoc hok).2 k)

/-- An array of arguments is taken item by item; a key and a section that are not known are passed over. -/
theorem loadSettings_faithful_unknown :
    let file : FilePath := .ofText "g".toList
    let files : FileSystem := ⟨[(["g".toList],
      .file (Utf8.encode "[run]\nargs=['a b',true]\nx=1\n[y]\n[expand]\nmax_depth=2".toList))], []⟩
    let items : List Toml.Value := [.string "a b".toList, .boolean true]
    let document : Toml.Table := [("run".toList, .table [("args".toList, .array items), (['x'], .integer 1)]),
      (['y'], .table []), ("expand".toList, .table [("max_depth".toList, .integer 2)])]
    files.Documents file document ∧ document.Sectioned ∧
      ∃ settings, (loadSettings file { files }).1 = .ok settings ∧ settings.repl = "irb".toList ∧
        settings.args = ["a b".toList, "True".toList] ∧ settings.maxDepth = some 2 := by
  intro file files items document
  have hdoc : files.Documents file document := ⟨_, rfl, HostM.eq_ok_of_toOption (by decide +kernel)⟩
  have hsectioned : document.Sectioned := by
    intro name hname v hv
    simp only [List.mem_cons, List.not_mem_nil, or_false] at hname
    rcases hname with rfl | rfl | rfl
    · exact ⟨_, (Option.some.inj hv).symm⟩
    · cases hv
    · exact ⟨_, (Option.some.inj hv).symm⟩
  have hsettles : ∀ k, document.Settles k := by
    intro k
    cases k with
    | args => exact ⟨_, .given rfl (.items items) fun _ h => by cases h; decide⟩
    | maxDepth => exact ⟨_, .given rfl (.maxDepth (by decide)) fun _ h => by cases h⟩
    | _ => exact ⟨_, .lacking ((Setting.lacks_iff_of_sectioned hsectioned).mpr rfl)⟩
  obtain ⟨found, hfound⟩ := Settings.exists_ofDocument_iff.mpr hsettles
  have hloaded : (loadSettings file { files }).1 = .ok { found with path := some file } :=
    (loadSettings_eq_ok_iff hdoc).mpr ⟨found, hfound, rfl⟩
  obtain ⟨-, -, hfaithful⟩ := (loadSettings_faithful { files } file document hdoc hsectioned).1 _ hloaded
  have hitems : ∀ {words}, Setting.args.Reads (.array items) words → words = items.map Toml.Value.plain := by
    intro words hreads
    cases hreads
    rfl
  have hlimit : ∀ {limit}, Setting.maxDepth.Reads (.integer 2) limit → limit = some 2 := by
    intro limit hreads
    cases hreads
    rfl
  exact ⟨hdoc, hsectioned, _, hloaded, (hfaithful .repl).1 rfl, hitems ((hfaithful .args).2 _ rfl),
    hlimit ((hfaithful .maxDepth).2 _ rfl)⟩

end Shorthand
