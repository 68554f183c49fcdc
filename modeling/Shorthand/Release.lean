import Shorthand.Host

/-! The release of the program: the version that its own project file declares, else the version under
which it is installed. Main statement: `version_eq_ok_iff`. -/
namespace Shorthand

inductive ReleaseFault where
  | undecodable (part : Utf8.Malformed) (byte : UInt8)
  /-- The project file is not a configuration document. -/
  | malformed
  | numeral (digits : Nat)
  /-- An integer in the version has too many digits. -/
  | unwritable
  /-- The project is described by a value that has no entries. -/
  | noEntries (value : Toml.Value)
deriving Repr

def ReleaseFault.message : ReleaseFault → Text
  | .undecodable part byte => part.message byte
  | .malformed => []
  | .numeral digits => Toml.numeralMessage digits
  | .unwritable => Text.digitsMessage []
  | .noEntries value => '\'' :: value.kindName ++ "' object has no attribute 'get'".toList

def Toml.Error.release : Toml.Error → ReleaseFault
  | .malformed => .malformed
  | .numeralTooLong digits => .numeral digits

/-- The entries with which a document describes the project; there are none if it does not speak of one. -/
def describedIn (document : Toml.Table) : Except ReleaseFault Toml.Table :=
  match (document.find? "project".toList).getD (.table []) with
  | .table entries => .ok entries
  | value => .error (.noEntries value)

def projectEntries (bytes : List UInt8) : Except ReleaseFault Toml.Table := do
  let t ← (Utf8.decode bytes).mapError fun m => ReleaseFault.undecodable m (bytes.getD m.start 0)
  let document ← (Toml.parse t).mapError (·.release)
  describedIn document

/-- The version that entries declare for this program. -/
def ownVersion (entries : Toml.Table) : Except ReleaseFault (Option Text) :=
  match entries.find? "name".toList with
  | some (.string name) =>
    if name = "geode".toList then
      match entries.find? "version".toList with
      | some v => if v.isWritable then .ok (some v.plain) else .error .unwritable
      | none => .ok none
    else .ok none
  | _ => .ok none

/-- The version of the program, given its project file and the version that is installed, if there are
any. -/
def version (project : Option (List UInt8)) (installed : Option Text) : Except ReleaseFault Text := do
  let declared ← match project with
    | some bytes => do ownVersion (← projectEntries bytes)
    | none => pure none
  return (declared.orElse fun _ => installed).getD "0.0.0".toList

/-- The bytes of a project file are a document that describes the project by some entries. -/
structure DescribedBy (bytes : List UInt8) (entries : Toml.Table) : Prop where
  read : ∃ t document, Utf8.decode bytes = .ok t ∧ Toml.parse t = .ok document ∧
    (document.find? "project".toList).getD (.table []) = .table entries

/-- The project is this program, and it has a version. -/
structure Declares (entries : Toml.Table) (v : Toml.Value) : Prop where
  name : entries.find? "name".toList = some (.string "geode".toList)
  version : entries.find? "version".toList = some v

section Laws

variable {bytes : List UInt8} {entries : Toml.Table} {v : Toml.Value} {project : Option (List UInt8)}
  {installed : Option Text} {t : Text} {document : Toml.Table}

theorem describedIn_eq_ok_iff : describedIn document = .ok entries ↔
    (document.find? "project".toList).getD (.table []) = .table entries := by
  rw [describedIn]
  constructor
  · intro h
    split at h
    · rename_i found hfound
      rw [hfound, Except.ok.inj h]
    · cases h
  · intro h
    rw [h]

theorem projectEntries_eq_ok_iff : projectEntries bytes = .ok entries ↔ DescribedBy bytes entries := by
  constructor
  · intro h
    rw [projectEntries] at h
    cases hdecode : Utf8.decode bytes with
    | error m => rw [hdecode] at h; cases h
    | ok t =>
      rw [hdecode] at h
      replace h : ((Toml.parse t).mapError (·.release)).bind describedIn = .ok entries := h
      cases hparse : Toml.parse t with
      | error e => rw [hparse] at h; cases h
      | ok document =>
        rw [hparse] at h
        exact ⟨t, document, hdecode, hparse, describedIn_eq_ok_iff.mp h⟩
  · intro h
    obtain ⟨t, document, hdecode, hparse, hfound⟩ := h.read
    have hentries := describedIn_eq_ok_iff.mpr hfound
    rw [projectEntries, hdecode]
    change ((Toml.parse t).mapError (·.release)).bind describedIn = .ok entries
    rw [hparse]
    exact hentries

theorem ownVersion_of_declares (h : Declares entries v) :
    ownVersion entries = if v.isWritable then .ok (some v.plain) else .error .unwritable := by
  simp only [ownVersion, h.name, h.version, if_true]

theorem ownVersion_of_not_declares (h : ∀ v, ¬ Declares entries v) : ownVersion entries = .ok none := by
  unfold ownVersion
  split
  · rename_i name hname
    split
    · rename_i hown
      cases hversion : entries.find? "version".toList with
      | none => rfl
      | some v => exact absurd ⟨hown ▸ hname, hversion⟩ (h v)
    · rfl
  · rfl

theorem version_some : version (some bytes) installed =
    (projectEntries bytes).bind fun entries => (ownVersion entries).map fun declared =>
      (declared.orElse fun _ => installed).getD "0.0.0".toList := by
  simp only [version, bind, Except.bind]
  cases projectEntries bytes with
  | error f => rfl
  | ok entries => cases ownVersion entries <;> rfl

/-- The version that the project file declares for this program comes first. A project file of another
program, or without a version, leaves it at the version that is installed, or else at zero. A project file
that cannot be read, or whose version cannot be written, leaves no version. -/
theorem version_eq_ok_iff : version project installed = .ok t ↔
    (∃ bytes entries v, project = some bytes ∧ DescribedBy bytes entries ∧ Declares entries v ∧
      v.isWritable = true ∧ t = v.plain) ∨
    ((∀ bytes, project = some bytes → ∃ entries, DescribedBy bytes entries ∧ ∀ v, ¬ Declares entries v) ∧
      t = installed.getD "0.0.0".toList) := by
  constructor
  · intro h
    cases project with
    | none => exact .inr ⟨nofun, (Except.ok.inj h).symm⟩
    | some bytes =>
      rw [version_some] at h
      cases hentries : projectEntries bytes with
      | error f => rw [hentries] at h; cases h
      | ok entries =>
        have hdescribed := projectEntries_eq_ok_iff.mp hentries
        rw [hentries] at h
        by_cases hdeclares : ∃ v, Declares entries v
        · obtain ⟨v, hv⟩ := hdeclares
          cases hwritable : v.isWritable with
          | false => simp [Except.bind, ownVersion_of_declares hv, hwritable, Except.map] at h
          | true =>
            rw [Except.bind, ownVersion_of_declares hv, hwritable, if_pos rfl] at h
            exact .inl ⟨bytes, entries, v, rfl, hdescribed, hv, hwritable, (Except.ok.inj h).symm⟩
        · have hnone := ownVersion_of_not_declares fun v hv => hdeclares ⟨v, hv⟩
          rw [Except.bind, hnone] at h
          refine .inr ⟨fun other hother => ?_, (Except.ok.inj h).symm⟩
          obtain rfl := Option.some.inj hother
          exact ⟨entries, hdescribed, fun v hv => hdeclares ⟨v, hv⟩⟩
  · intro h
    rcases h with ⟨bytes, entries, v, rfl, hdescribed, hv, hwritable, rfl⟩ | ⟨hsilent, rfl⟩
    · rw [version_some, projectEntries_eq_ok_iff.mpr hdescribed, Except.bind, ownVersion_of_declares hv,
        hwritable]
      rfl
    · cases project with
      | none => rfl
      | some bytes =>
        obtain ⟨entries, hdescribed, hnone⟩ := hsilent bytes rfl
        rw [version_some, projectEntries_eq_ok_iff.mpr hdescribed, Except.bind,
          ownVersion_of_not_declares hnone]
        rfl

end Laws

end Shorthand
