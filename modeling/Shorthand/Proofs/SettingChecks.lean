import Shorthand.Settings
import Mathlib.Data.List.Infix

/-! The settings of a document, one by one. Each has a key in a section, the kinds of value that it may
have, and a default. A document is read setting by setting in a fixed order, and the first one that fails
decides how the whole fails. Main statements: `ofDocument_eq_ok_iff` and `ofDocument_eq_error_iff`. -/
namespace Shorthand

inductive Setting where
  | interpreter
  | repl
  | args
  | delete
  | suffix
  | maxDepth
deriving DecidableEq, Repr

namespace Setting

def order : List Setting := [.interpreter, .repl, .args, .delete, .suffix, .maxDepth]

def earlier (k : Setting) : List Setting := order.takeWhile (· ≠ k)

def sectionName : Setting → String
  | .suffix => "output"
  | .maxDepth => "expand"
  | _ => "run"

def key : Setting → String
  | .interpreter => "interpreter"
  | .repl => "repl"
  | .args => "args"
  | .delete => "delete"
  | .suffix => "suffix"
  | .maxDepth => "max_depth"

/-- The words for the kinds of value that a setting may have. -/
def expected : Setting → String
  | .args => "str or list"
  | .delete => "bool"
  | .maxDepth => "int"
  | _ => "str"

abbrev Content : Setting → Type
  | .args => List Text
  | .delete => Bool
  | .maxDepth => Option Int
  | _ => Text

/-- Whether a value is of a kind that a setting may have. -/
def fits : Setting → Toml.Value → Bool
  | .args, .string _ | .args, .array _ => true
  | .delete, .boolean _ => true
  | .maxDepth, .integer _ => true
  | .interpreter, .string _ | .repl, .string _ | .suffix, .string _ => true
  | _, _ => false

/-- A value stands for what a setting holds: a text for itself, and for arguments also for the words that
it splits into or, item by item, for the plain texts of an array; a boolean for itself; an integer from one
on for a limit. -/
inductive Reads : (k : Setting) → Toml.Value → k.Content → Prop where
  | interpreter (t : Text) : Reads .interpreter (.string t) t
  | repl (t : Text) : Reads .repl (.string t) t
  | words {t : Text} {words : List Text} (splits : ShellWords.split t = .ok words) :
      Reads .args (.string t) words
  | items (items : List Toml.Value) : Reads .args (.array items) (items.map Toml.Value.plain)
  | delete (b : Bool) : Reads .delete (.boolean b) b
  | suffix (t : Text) : Reads .suffix (.string t) t
  | maxDepth {n : Int} (positive : 1 ≤ n) : Reads .maxDepth (.integer n) (some n)

/-- A value of the right kind that a setting cannot have, and why. -/
inductive Rejects : Setting → Toml.Value → SettingsFault → Prop where
  | words {t : Text} {fault : ShellWords.Fault} (sticks : ShellWords.split t = .error fault) :
      Rejects .args (.string t) (.arguments fault)
  | items {items : List Toml.Value} (hidden : Toml.Value.allWritable items = false) :
      Rejects .args (.array items) .unwritable
  | maxDepth {n : Int} (small : n < 1) : Rejects .maxDepth (.integer n) (.depthTooSmall n)

end Setting

def Settings.get (settings : Settings) : (k : Setting) → k.Content
  | .interpreter => settings.interpreter
  | .repl => settings.repl
  | .args => settings.args
  | .delete => settings.delete
  | .suffix => settings.suffix
  | .maxDepth => settings.maxDepth

/-- What a setting holds where a document says nothing of it. -/
def Setting.default (k : Setting) : k.Content := ({} : Settings).get k

namespace Toml

namespace Table

variable (document : Table) (k : Setting)

/-- What a document has in place of the section of a setting. -/
def sectionOf? : Option Value := document.find? k.sectionName.toList

/-- The value that a document gives to a setting: that of its key in its section, which is a table. -/
def given? : Option Value :=
  match document.sectionOf? k with
  | some (.table entries) => Table.find? entries k.key.toList
  | _ => none

/-- Each section of a document is a table, if it is there. -/
def Sectioned : Prop :=
  ∀ name ∈ ["run", "output", "expand"], ∀ v, document.find? name.toList = some v →
    ∃ entries, v = .table entries

/-- A document says nothing of a setting. A text in place of the section says nothing unless the key occurs
in it, and an array says nothing unless the key is one of its items. -/
def Lacks : Prop :=
  match document.sectionOf? k with
  | none => True
  | some (.table entries) => Table.find? entries k.key.toList = none
  | some (.string t) => ¬ k.key.toList <:+: t
  | some (.array items) => .string k.key.toList ∉ items
  | some _ => False

/-- The section of a setting is no table, and asking it for the key fails. -/
def Misplaced (fault : SettingsFault) : Prop :=
  match document.sectionOf? k with
  | none | some (.table _) => False
  | some (.string t) => k.key.toList <:+: t ∧ fault = .textSection
  | some (.array items) => .string k.key.toList ∈ items ∧ fault = .arraySection
  | some v => fault = .noParts v

inductive Gives : k.Content → Prop where
  | lacking (lacks : document.Lacks k) : Gives k.default
  | given {v : Value} {c : k.Content} (given : document.given? k = some v) (reads : k.Reads v c)
      (shown : ∀ items, v = .array items → Value.allWritable items = true) : Gives c

def Settles : Prop := ∃ c, document.Gives k c

inductive FailsAt : SettingsFault → Prop where
  | misplaced {fault : SettingsFault} (misplaced : document.Misplaced k fault) : FailsAt fault
  | wrongKind {v : Value} (given : document.given? k = some v) (unfit : k.fits v = false)
      (shown : v.isWritable = true) :
      FailsAt (.wrongKind k.sectionName.toList k.key.toList k.expected.toList v)
  | unwritable {v : Value} (given : document.given? k = some v) (unfit : k.fits v = false)
      (hidden : v.isWritable = false) : FailsAt .unwritable
  | rejected {v : Value} {fault : SettingsFault} (given : document.given? k = some v)
      (rejects : k.Rejects v fault) : FailsAt fault

variable {document} in
/-- A limit on nesting is one at least. -/
theorem Gives.one_le {limit : Int} {content : Setting.maxDepth.Content}
    (h : document.Gives .maxDepth content) (hc : content = some limit) : 1 ≤ limit := by
  cases h with
  | lacking => cases hc
  | given _ reads _ =>
    cases reads with
    | maxDepth positive => exact (Option.some.inj hc) ▸ positive

end Table

end Toml

theorem Text.hasInfix_iff {part t : Text} : hasInfix part t = true ↔ part <:+: t := by
  induction t with
  | nil => rw [hasInfix, List.isEmpty_iff, List.infix_nil]
  | cons c rest ih =>
    rw [hasInfix, Bool.or_eq_true, List.isPrefixOf_iff_prefix, ih, List.infix_cons_iff]

namespace Section

variable {name key : Text} {items : List Toml.Value}

/-- An array in place of a section fails for a key that it holds. -/
theorem find?_of_mem (h : .string key ∈ items) :
    (⟨name, .array items⟩ : Section).find? key = .error .arraySection := by
  rw [find?]
  apply if_pos
  exact List.any_eq_true.mpr ⟨_, h, decide_eq_true rfl⟩

/-- For any other key it is silent. -/
theorem find?_of_notMem (h : .string key ∉ items) :
    (⟨name, .array items⟩ : Section).find? key = .ok none := by
  rw [find?]
  apply if_neg
  intro hany
  obtain ⟨v, hv, hkey⟩ := List.any_eq_true.mp hany
  cases v with
  | string t =>
    obtain rfl : t = key := of_decide_eq_true hkey
    exact h hv
  | _ => cases hkey

end Section

namespace Toml.Value

variable {v : Value}

theorem string?_eq_some_iff {t : Text} : v.string? = some t ↔ v = .string t := by
  cases v <;> simp [string?]

theorem boolean?_eq_some_iff {b : Bool} : v.boolean? = some b ↔ v = .boolean b := by
  cases v <;> simp [boolean?]

theorem integer?_eq_some_iff {n : Int} : v.integer? = some n ↔ v = .integer n := by
  cases v <;> simp [integer?]

end Toml.Value

namespace Setting

open Toml

variable {document : Table} {k : Setting} {v : Value} {fault : SettingsFault}

/-- What a setting makes of a value, or nothing if the value is not of its kind. -/
def read? : (k : Setting) → Value → Option (Except SettingsFault k.Content)
  | .interpreter, v | .repl, v | .suffix, v => v.string?.map .ok
  | .args, v => v.arguments?
  | .delete, v => v.boolean?.map .ok
  | .maxDepth, v => v.integer?.map fun n => if n < 1 then .error (.depthTooSmall n) else .ok (some n)

def check (document : Table) (k : Setting) : Except SettingsFault k.Content := do
  let read ← (Section.ofDocument document k.sectionName).setting k.key k.expected k.read? (.ok k.default)
  read

/-- A value is not read exactly if it is of the wrong kind. -/
theorem read?_eq_none_iff : k.read? v = none ↔ k.fits v = false := by
  cases k <;> cases v <;> simp [read?, fits, Value.string?, Value.arguments?, Value.boolean?, Value.integer?]

/-- A value is read as what it stands for, if all that it holds can be written. -/
theorem read?_eq_ok_iff {c : k.Content} : k.read? v = some (.ok c) ↔
    k.Reads v c ∧ ∀ items, v = .array items → Value.allWritable items = true := by
  constructor
  · intro h
    cases k with
    | interpreter | repl | suffix =>
      obtain ⟨t, ht, hc⟩ := Option.map_eq_some_iff.mp h
      obtain rfl := Value.string?_eq_some_iff.mp ht
      obtain rfl := Except.ok.inj hc
      exact ⟨by constructor, nofun⟩
    | args =>
      cases v with
      | string t =>
        replace h := Option.some.inj h
        cases hs : ShellWords.split t with
        | error fault => rw [hs] at h; cases h
        | ok words =>
          rw [hs] at h
          obtain rfl := Except.ok.inj h
          exact ⟨.words hs, nofun⟩
      | array items =>
        replace h := Option.some.inj h
        split at h
        · rename_i hshown
          obtain rfl := Except.ok.inj h
          refine ⟨.items items, fun others he => ?_⟩
          obtain rfl := Value.array.inj he
          exact hshown
        · cases h
      | _ => cases h
    | delete =>
      obtain ⟨b, hb, hc⟩ := Option.map_eq_some_iff.mp h
      obtain rfl := Value.boolean?_eq_some_iff.mp hb
      obtain rfl := Except.ok.inj hc
      exact ⟨.delete b, nofun⟩
    | maxDepth =>
      obtain ⟨n, hn, hc⟩ := Option.map_eq_some_iff.mp h
      obtain rfl := Value.integer?_eq_some_iff.mp hn
      split at hc
      · cases hc
      · obtain rfl := Except.ok.inj hc
        exact ⟨.maxDepth (by omega), nofun⟩
  · rintro ⟨hreads, hshown⟩
    cases hreads with
    | words splits =>
      rw [read?, Value.arguments?, splits]
      rfl
    | items items => simp [read?, Value.arguments?, hshown items rfl]
    | maxDepth positive => simp [read?, Value.integer?, Int.not_lt.mpr positive]
    | _ => rfl

theorem read?_eq_error_iff : k.read? v = some (.error fault) ↔ k.Rejects v fault := by
  constructor
  · intro h
    cases k with
    | interpreter | repl | suffix | delete =>
      obtain ⟨_, -, hc⟩ := Option.map_eq_some_iff.mp h
      cases hc
    | args =>
      cases v with
      | string t =>
        replace h := Option.some.inj h
        cases hs : ShellWords.split t with
        | error sticks =>
          rw [hs] at h
          obtain rfl := Except.error.inj h
          exact .words hs
        | ok words => rw [hs] at h; cases h
      | array items =>
        replace h := Option.some.inj h
        split at h
        · cases h
        · rename_i hhidden
          obtain rfl := Except.error.inj h
          exact .items (by simpa using hhidden)
      | _ => cases h
    | maxDepth =>
      obtain ⟨n, hn, hc⟩ := Option.map_eq_some_iff.mp h
      obtain rfl := Value.integer?_eq_some_iff.mp hn
      split at hc
      · obtain rfl := Except.error.inj hc
        exact .maxDepth ‹_›
      · cases hc
  · intro h
    cases h with
    | words sticks =>
      rw [read?, Value.arguments?, sticks]
      rfl
    | items hidden => simp [read?, Value.arguments?, hidden]
    | maxDepth small => simp [read?, Value.integer?, small]

/-- Asking for the key of a setting tells what the document has for it. -/
theorem find?_outcome (document : Table) (k : Setting) :
    let asked := (Section.ofDocument document k.sectionName).find? k.key.toList
    (asked = .ok none ↔ document.Lacks k) ∧
      (∀ v, asked = .ok (some v) ↔ document.given? k = some v) ∧
      ∀ fault, asked = .error fault ↔ document.Misplaced k fault := by
  intro asked
  have hasked : asked = (⟨k.sectionName.toList, (document.sectionOf? k).getD (.table [])⟩ : Section).find?
    k.key.toList := rfl
  rw [hasked, Table.Lacks, Table.given?]
  simp only [Table.Misplaced]
  rcases document.sectionOf? k with _ | v
  · simp [Section.find?, Table.find?]
  cases v with
  | table entries => simp [Section.find?]
  | string t =>
    simp only [Option.getD_some, Section.find?, Text.hasInfix_iff]
    split <;> simp_all [eq_comm]
  | array items =>
    rw [Option.getD_some]
    by_cases hkey : .string k.key.toList ∈ items
    · simp [Section.find?_of_mem hkey, hkey, eq_comm]
    · simp [Section.find?_of_notMem hkey, hkey]
  | _ => simp [Section.find?, eq_comm]

/-- A setting that a document lacks has its default. -/
theorem check_of_lacks (h : document.Lacks k) : check document k = .ok k.default := by
  rw [check, Section.setting, (find?_outcome document k).1.mpr h]
  rfl

theorem check_of_misplaced (h : document.Misplaced k fault) : check document k = .error fault := by
  rw [check, Section.setting, ((find?_outcome document k).2.2 fault).mpr h]
  rfl

theorem check_of_read {r : Except SettingsFault k.Content} (h : document.given? k = some v)
    (hr : k.read? v = some r) : check document k = r := by
  rw [check, Section.setting, ((find?_outcome document k).2.1 v).mpr h]
  simp only [bind, Except.bind, hr]
  rfl

/-- A value of the wrong kind is shown in the failure, if it can be written. -/
theorem check_of_unfit (h : document.given? k = some v) (hr : k.fits v = false) :
    check document k = .error (if v.isWritable = true then
      .wrongKind k.sectionName.toList k.key.toList k.expected.toList v else .unwritable) := by
  rw [check, Section.setting, ((find?_outcome document k).2.1 v).mpr h]
  by_cases hshown : v.isWritable = true
  · simp only [bind, Except.bind, read?_eq_none_iff.mpr hr, if_pos hshown]
    rfl
  · simp only [bind, Except.bind, read?_eq_none_iff.mpr hr, if_neg hshown]

/-- A document lacks a setting, gives it a value, or has its section misplaced. -/
theorem lacks_or_given (document : Table) (k : Setting) : document.Lacks k ∨
    (∃ v, document.given? k = some v) ∨ ∃ fault, document.Misplaced k fault := by
  obtain ⟨hlacks, hgiven, hmisplaced⟩ := find?_outcome document k
  rcases hasked : (Section.ofDocument document k.sectionName).find? k.key.toList with fault | _ | v
  · exact .inr (.inr ⟨fault, (hmisplaced fault).mp hasked⟩)
  · exact .inl (hlacks.mp hasked)
  · exact .inr (.inl ⟨v, (hgiven v).mp hasked⟩)

/-- Reading a setting gives what the document gives, and fails as the document fails at it. -/
theorem check_outcome (document : Table) (k : Setting) :
    (∃ c, check document k = .ok c ∧ document.Gives k c) ∨
      ∃ fault, check document k = .error fault ∧ document.FailsAt k fault := by
  rcases lacks_or_given document k with hlacks | ⟨v, hgiven⟩ | ⟨fault, hmisplaced⟩
  · exact .inl ⟨_, check_of_lacks hlacks, .lacking hlacks⟩
  · rcases hread : k.read? v with _ | fault | c
    · have hunfit := read?_eq_none_iff.mp hread
      refine .inr ⟨_, check_of_unfit hgiven hunfit, ?_⟩
      split
      · exact .wrongKind hgiven hunfit ‹_›
      · exact .unwritable hgiven hunfit (Bool.eq_false_iff.mpr ‹_›)
    · exact .inr ⟨fault, check_of_read hgiven hread, .rejected hgiven (read?_eq_error_iff.mp hread)⟩
    · obtain ⟨hreads, hshown⟩ := read?_eq_ok_iff.mp hread
      exact .inl ⟨c, check_of_read hgiven hread, .given hgiven hreads hshown⟩
  · exact .inr ⟨fault, check_of_misplaced hmisplaced, .misplaced hmisplaced⟩

theorem check_of_gives {c : k.Content} (h : document.Gives k c) : check document k = .ok c := by
  cases h with
  | lacking lacks => exact check_of_lacks lacks
  | given given reads shown => exact check_of_read given (read?_eq_ok_iff.mpr ⟨reads, shown⟩)

theorem check_of_failsAt (h : document.FailsAt k fault) : check document k = .error fault := by
  cases h with
  | misplaced misplaced => exact check_of_misplaced misplaced
  | wrongKind given unfit shown => rw [check_of_unfit given unfit, if_pos shown]
  | unwritable given unfit hidden => rw [check_of_unfit given unfit, if_neg (by simp [hidden])]
  | rejected given rejects => exact check_of_read given (read?_eq_error_iff.mpr rejects)

/-- A check succeeds with exactly what the document gives. -/
theorem check_eq_ok_iff {c : k.Content} : check document k = .ok c ↔ document.Gives k c := by
  refine ⟨fun h => ?_, check_of_gives⟩
  rcases check_outcome document k with ⟨c', hc', hgives⟩ | ⟨fault, hfault, -⟩
  · obtain rfl := Except.ok.inj (h.symm.trans hc')
    exact hgives
  · cases h.symm.trans hfault

/-- A check fails in exactly the way in which the document fails. -/
theorem check_eq_error_iff : check document k = .error fault ↔ document.FailsAt k fault := by
  refine ⟨fun h => ?_, check_of_failsAt⟩
  rcases check_outcome document k with ⟨c, hc, -⟩ | ⟨fault', hfault', hfails⟩
  · cases h.symm.trans hc
  · obtain rfl := Except.error.inj (h.symm.trans hfault')
    exact hfails

/-- A document does not fail at a setting that it settles. -/
theorem not_settles_of_failsAt (h : document.FailsAt k fault) : ¬ document.Settles k := by
  rintro ⟨c, hgives⟩
  cases (check_of_failsAt h).symm.trans (check_of_gives hgives)

/-- Of two settings, one is read before the other. -/
theorem earlier_total (k other : Setting) : k = other ∨ k ∈ other.earlier ∨ other ∈ k.earlier := by
  cases k <;> cases other <;> decide

theorem sectionOf?_of_sectioned (h : document.Sectioned) (k : Setting) :
    document.sectionOf? k = none ∨ ∃ entries, document.sectionOf? k = some (.table entries) := by
  have hname : k.sectionName ∈ ["run", "output", "expand"] := by cases k <;> decide
  cases hs : document.sectionOf? k with
  | none => exact .inl rfl
  | some v =>
    obtain ⟨entries, rfl⟩ := h _ hname v hs
    exact .inr ⟨entries, rfl⟩

theorem lacks_iff_of_sectioned (h : document.Sectioned) : document.Lacks k ↔ document.given? k = none := by
  rw [Table.Lacks, Table.given?]
  rcases sectionOf?_of_sectioned h k with hs | ⟨entries, hs⟩ <;> simp [hs]

theorem not_misplaced_of_sectioned (h : document.Sectioned) : ¬ document.Misplaced k fault := by
  rw [Table.Misplaced]
  rcases sectionOf?_of_sectioned h k with hs | ⟨entries, hs⟩ <;> simp [hs]

end Setting

namespace Settings

open Setting

variable {document : Toml.Table} {settings : Settings} {fault : SettingsFault}

/-- A setting may be looked up first and converted later. -/
theorem check_eq_bind {α : Type} (document : Toml.Table) (k : Setting) (read : Toml.Value → Option α)
    (convert : α → Except SettingsFault k.Content) (start : α)
    (hread : ∀ v, k.read? v = (read v).map convert) (hstart : convert start = .ok k.default) :
    check document k = (do
      let found ← (Section.ofDocument document k.sectionName).setting k.key k.expected read start
      convert found) := by
  rw [check, Section.setting, Section.setting]
  rcases (Section.ofDocument document k.sectionName).find? k.key.toList with fault | _ | v
  · rfl
  · exact hstart.symm
  · simp only [bind, Except.bind, hread]
    cases read v with
    | some found => rfl
    | none =>
      simp only [Option.map_none]
      by_cases hshown : v.isWritable = true <;> simp only [hshown] <;> rfl

/-- A document is read setting by setting. -/
theorem ofDocument_eq_checks (document : Toml.Table) : ofDocument document = (do
    let interpreter ← check document .interpreter
    let repl ← check document .repl
    let args ← check document .args
    let delete ← check document .delete
    let suffix ← check document .suffix
    let maxDepth ← check document .maxDepth
    return { interpreter, repl, args, delete, suffix, maxDepth }) := by
  have hinterpreter := check_eq_bind document .interpreter Toml.Value.string? pure
    "ruby".toList (fun _ => rfl) rfl
  have hrepl := check_eq_bind document .repl Toml.Value.string? pure
    "irb".toList (fun _ => rfl) rfl
  have hargs := check_eq_bind document .args Toml.Value.arguments? id
    (.ok []) (fun _ => Option.map_id.symm ▸ rfl) rfl
  have hdelete := check_eq_bind document .delete Toml.Value.boolean? pure
    false (fun _ => rfl) rfl
  have hsuffix := check_eq_bind document .suffix Toml.Value.string? pure
    ".rb".toList (fun _ => rfl) rfl
  have hmaxDepth := check_eq_bind document .maxDepth
    (fun v => v.integer?.map some) (fun limit => limit.elim (.ok none) fun n =>
      if n < 1 then .error (.depthTooSmall n) else .ok (some n)) none
    (fun v => by rw [Option.map_map]; rfl) rfl
  rw [ofDocument, hinterpreter, hrepl, hargs, hdelete, hsuffix, hmaxDepth]
  simp only [bind_assoc, pure_bind, id_eq]
  -- Both sides look the settings up in the same order; only the limit is converted in another way.
  refine bind_congr fun interpreter => bind_congr fun repl => bind_congr fun words =>
    bind_congr fun args => bind_congr fun delete => bind_congr fun suffix => bind_congr fun limit => ?_
  cases limit with
  | none => rfl
  | some n =>
    by_cases hn : n < 1
    · simp only [hn, if_true, Option.elim_some]
    · simp only [hn, if_false, Option.elim_some]
      rfl

theorem bind_eq_ok_iff {α β : Type} {x : Except SettingsFault α} {f : α → Except SettingsFault β} {b : β} :
    (x >>= f) = .ok b ↔ ∃ a, x = .ok a ∧ f a = .ok b := by
  cases x <;> simp [bind, Except.bind]

/-- A document holds settings exactly if it gives every one of them. -/
theorem ofDocument_eq_ok_iff : ofDocument document = .ok settings ↔
    (∀ k, document.Gives k (settings.get k)) ∧ settings.path = none := by
  rw [ofDocument_eq_checks]
  simp only [bind_eq_ok_iff]
  constructor
  · rintro ⟨interpreter, h₁, repl, h₂, args, h₃, delete, h₄, suffix, h₅, maxDepth, h₆, hsettings⟩
    obtain rfl := Except.ok.inj hsettings
    refine ⟨fun k => ?_, rfl⟩
    apply check_eq_ok_iff.mp
    cases k <;> assumption
  · rintro ⟨hgives, hpath⟩
    have hcheck : ∀ k, check document k = .ok (settings.get k) := fun k => check_of_gives (hgives k)
    refine ⟨_, hcheck .interpreter, _, hcheck .repl, _, hcheck .args, _, hcheck .delete,
      _, hcheck .suffix, _, hcheck .maxDepth, ?_⟩
    obtain ⟨interpreter, repl, args, delete, suffix, maxDepth, path⟩ := settings
    obtain rfl : path = none := hpath
    rfl

/-- A document has settings exactly if it gives each of them. -/
theorem exists_ofDocument_iff : (∃ settings, ofDocument document = .ok settings) ↔
    ∀ k, document.Settles k := by
  constructor
  · rintro ⟨settings, h⟩ k
    exact ⟨_, (ofDocument_eq_ok_iff.mp h).1 k⟩
  · intro h
    choose content hgives using h
    refine ⟨⟨content .interpreter, content .repl, content .args, content .delete, content .suffix,
      content .maxDepth, none⟩, ofDocument_eq_ok_iff.mpr ⟨fun k => ?_, rfl⟩⟩
    cases k <;> exact hgives _

theorem bind_eq_error_iff {α β : Type} {x : Except SettingsFault α} {f : α → Except SettingsFault β} :
    (x >>= f) = .error fault ↔ x = .error fault ∨ ∃ a, x = .ok a ∧ f a = .error fault := by
  cases x <;> simp [bind, Except.bind]

/-- The first setting that fails comes behind settings that are all settled. -/
theorem exists_failsAt_of_ofDocument (h : ofDocument document = .error fault) :
    ∃ k, document.FailsAt k fault ∧ ∀ b ∈ k.earlier, document.Settles b := by
  have hgives : ∀ {k : Setting} {c : k.Content}, check document k = .ok c → document.Settles k :=
    fun h => ⟨_, check_eq_ok_iff.mp h⟩
  rw [ofDocument_eq_checks] at h
  simp only [bind_eq_error_iff] at h
  obtain h₁ | ⟨_, h₁, h₂ | ⟨_, h₂, h₃ | ⟨_, h₃, h₄ | ⟨_, h₄, h₅ | ⟨_, h₅, h₆ | ⟨_, _, h⟩⟩⟩⟩⟩⟩ := h
  · exact ⟨.interpreter, check_eq_error_iff.mp h₁, by simp [earlier, order]⟩
  · exact ⟨.repl, check_eq_error_iff.mp h₂, by simpa [earlier, order] using hgives h₁⟩
  · exact ⟨.args, check_eq_error_iff.mp h₃, by simpa [earlier, order] using ⟨hgives h₁, hgives h₂⟩⟩
  · exact ⟨.delete, check_eq_error_iff.mp h₄, by
      simpa [earlier, order] using ⟨hgives h₁, hgives h₂, hgives h₃⟩⟩
  · exact ⟨.suffix, check_eq_error_iff.mp h₅, by
      simpa [earlier, order] using ⟨hgives h₁, hgives h₂, hgives h₃, hgives h₄⟩⟩
  · exact ⟨.maxDepth, check_eq_error_iff.mp h₆, by
      simpa [earlier, order] using ⟨hgives h₁, hgives h₂, hgives h₃, hgives h₄, hgives h₅⟩⟩
  · cases h

/-- A document fails as it fails at the first setting that it does not give. -/
theorem ofDocument_eq_error_iff : ofDocument document = .error fault ↔
    ∃ k, document.FailsAt k fault ∧ ∀ b ∈ k.earlier, document.Settles b := by
  refine ⟨exists_failsAt_of_ofDocument, ?_⟩
  rintro ⟨k, hfails, hearlier⟩
  rcases hdocument : ofDocument document with other | settings
  · obtain ⟨first, hfirst, hbefore⟩ := exists_failsAt_of_ofDocument hdocument
    rcases earlier_total k first with rfl | hk | hk
    · have hsame : Except.error other = .error fault :=
        (check_of_failsAt hfirst).symm.trans (check_of_failsAt hfails)
      rw [Except.error.inj hsame]
    · exact absurd (hbefore k hk) (not_settles_of_failsAt hfails)
    · exact absurd (hearlier first hk) (not_settles_of_failsAt hfirst)
  · exact absurd ⟨_, (ofDocument_eq_ok_iff.mp hdocument).1 k⟩ (not_settles_of_failsAt hfails)

end Settings

end Shorthand
