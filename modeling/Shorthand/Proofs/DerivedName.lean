import Shorthand.Command
import Shorthand.Proofs.FileGrowth
import Shorthand.Proofs.SourceLines

/-! The name of an output that is not given. It is longer than that of the source and stands for an entry of
the same directory, whatever the suffix holds. So it leads neither to the source nor out of a directory that
is there. Main statements: `outputPath_apart` and `entryAt_parent_of_derived`. -/
namespace Shorthand

namespace Text

/-- Only the last of the pieces that are joined can hold the separator. -/
theorem cut_join_concat {sep : Char} {pieces : List Text} (h : ∀ piece ∈ pieces, sep ∉ piece)
    (last : Text) : cut sep (join [sep] (pieces ++ [last])) = pieces ++ cut sep last := by
  induction pieces with
  | nil => simp [join]
  | cons piece pieces ih =>
    obtain ⟨hpiece, hrest⟩ := List.forall_mem_cons.mp h
    have hne : pieces ++ [last] ≠ [] := List.append_ne_nil_of_right_ne_nil pieces (List.cons_ne_nil last [])
    obtain ⟨next, more, hmore⟩ := List.exists_cons_of_ne_nil hne
    have hjoin : join [sep] (piece :: (pieces ++ [last])) =
        piece ++ sep :: join [sep] (pieces ++ [last]) := by
      rw [hmore]
      simp [join]
    rw [List.cons_append, hjoin, cut_append_sep hpiece, ih hrest]
    rfl

/-- What stands in front of a text without a separator goes to the first piece. -/
theorem cut_append_of_notMem {sep : Char} {a t first : Text} {rest : List Text} (h : sep ∉ a)
    (hcut : cut sep t = first :: rest) : cut sep (a ++ t) = (a ++ first) :: rest := by
  induction a with
  | nil => exact hcut
  | cons c a ih =>
    obtain ⟨hc, ha⟩ := not_or.mp (mt List.mem_cons.mpr h)
    rw [List.cons_append, cut_cons_of_ne (Ne.symm hc), ih ha]
    rfl

end Text

/-- The pieces that the slashes in front of a path cut off. -/
def Anchor.pieces : Anchor → List Text
  | .here => []
  | .root => [[]]
  | .doubleRoot => [[], []]

theorem Anchor.cut_slashes_append (a : Anchor) (t : Text) :
    Text.cut '/' (a.slashes ++ t) = a.pieces ++ Text.cut '/' t := by
  cases a <;> simp [slashes, pieces]

namespace FilePath

variable {p output : FilePath} {init rest : List Text} {first last t source suffix : Text}
  {startedAt : Int}

/-- A step that leads nowhere else. -/
def Idle (step : Text) : Prop := step = [] ∨ step = ['.']

/-- The steps of a path that was read have no slash and lead somewhere. -/
theorem of_mem_steps (h : t ∈ (ofText source).steps) : '/' ∉ t ∧ ¬ Idle t := by
  obtain ⟨hpiece, hkept⟩ := List.mem_filter.mp h
  exact ⟨Text.notMem_of_mem_cut hpiece, by simpa [Idle] using hkept⟩

theorem of_steps_concat (h : (ofText source).steps = init ++ [last]) :
    (∀ step ∈ init, '/' ∉ step) ∧ '/' ∉ last ∧ ¬ Idle last := by
  have hall : ∀ step ∈ init ++ [last], '/' ∉ step ∧ ¬ Idle step := by
    intro step hs
    exact of_mem_steps (h ▸ hs)
  exact ⟨fun step hs => (hall step (List.mem_append_left _ hs)).1, hall last (by simp)⟩

theorem steps_eq_concat_name (h : p.steps ≠ []) : p.steps = p.steps.dropLast ++ [p.name] := by
  rw [name, List.getLast?_eq_some_getLast h, Option.getD_some, List.dropLast_concat_getLast h]

/-- A path is cut at its slashes into what its anchor leaves, its steps, and the pieces of its last one. -/
theorem cut_toText (hsteps : p.steps = init ++ [last]) (hinit : ∀ step ∈ init, '/' ∉ step) :
    Text.cut '/' p.toText = p.anchor.pieces ++ init ++ Text.cut '/' last := by
  have hne : p.steps ≠ [] := by
    rw [hsteps]
    exact List.append_ne_nil_of_right_ne_nil init (List.cons_ne_nil last [])
  rw [toText, if_neg fun h => hne h.2, Anchor.cut_slashes_append, hsteps, Text.cut_join_concat hinit,
    List.append_assoc]

/-- The text of a path has the steps of the path for its pieces; a bare anchor is written with an idle
step of its own. -/
theorem exists_cut_toText (h : ∀ step ∈ p.steps, '/' ∉ step) : ∃ tail : List Text,
    (∀ step ∈ tail, Idle step) ∧ Text.cut '/' p.toText = p.anchor.pieces ++ p.steps ++ tail := by
  rcases List.eq_nil_or_concat p.steps with hbare | ⟨init, last, hsteps⟩
  · by_cases hhere : p.anchor = .here
    · refine ⟨[['.']], by simp [Idle], ?_⟩
      rw [toText, if_pos ⟨hhere, hbare⟩, hhere, hbare]
      rfl
    · refine ⟨[[]], by simp [Idle], ?_⟩
      rw [toText, if_neg fun h => hhere h.1, Anchor.cut_slashes_append, hbare, List.append_nil]
      rfl
  · refine ⟨[], nofun, ?_⟩
    rw [List.concat_eq_append] at hsteps
    rw [hsteps] at h
    rw [cut_toText hsteps fun step hs => h step (List.mem_append_left _ hs), List.append_nil, hsteps,
      Text.cut_of_notMem (h last (by simp)), List.append_assoc]

/-- The text of a parent is a dot or a prefix of the text of the path. -/
theorem toText_parent (hsteps : p.steps = init ++ [last]) :
    p.parent.toText = ['.'] ∨ p.parent.toText <+: p.toText := by
  have hparent : p.parent = ⟨p.anchor, init⟩ := by rw [parent, hsteps, List.dropLast_concat]
  by_cases hbare : p.anchor = .here ∧ init = []
  · left
    rw [toText, hparent, if_pos hbare]
  · right
    have hne : p.steps ≠ [] := by
      rw [hsteps]
      exact List.append_ne_nil_of_right_ne_nil init (List.cons_ne_nil last [])
    rw [toText, hparent, if_neg hbare, toText, if_neg fun h => hne h.2, hsteps]
    refine (List.prefix_append_right_inj _).mpr ?_
    cases init with
    | nil => exact List.nil_prefix
    | cons step init =>
      rw [Text.join_concat _ _ (List.cons_ne_nil step init), List.append_assoc]
      exact List.prefix_append _ _

/-- A name is one step, and what follows that step leads nowhere else. -/
theorem IsName.idle (h : IsName t) (hcut : Text.cut '/' t = first :: rest) (hfirst : ¬ Idle first) :
    ∀ step ∈ rest, Idle step := by
  have hkept : (decide (first ≠ [] ∧ first ≠ ['.'])) = true := by simpa [Idle] using hfirst
  have hone : ((Text.cut '/' t).filter fun step => step ≠ [] ∧ step ≠ ['.']).length = 1 := h.2.2
  rw [hcut, List.filter_cons, if_pos hkept, List.length_cons, Nat.succ_inj, List.length_eq_zero_iff,
    List.filter_eq_nil_iff] at hone
  intro step hs
  have hdrop := hone step hs
  by_cases hidle : Idle step
  · exact hidle
  · exact absurd (by simpa [Idle] using hidle) hdrop

end FilePath

namespace FileSystem

open FilePath

variable {fs : FileSystem} {p output : FilePath} {loc there : Location}
  {init rest steps more : List Text} {first last source suffix : Text} {startedAt : Int}

/-- Following steps one after the other is following all of them. -/
theorem follow_append_eq_ok : fs.follow loc (steps ++ more) = .ok there ↔
    ∃ d, fs.follow loc steps = .ok d ∧ fs.follow d more = .ok there := by
  induction steps generalizing loc with
  | nil =>
    constructor
    · intro h
      exact ⟨loc, rfl, h⟩
    · rintro ⟨d, hd, h⟩
      cases hd
      exact h
  | cons step steps ih =>
    cases he : fs.find? loc with
    | none => simp [follow, he]
    | some e =>
      cases e with
      | file bytes => simp [follow, he]
      | directory =>
        rw [List.cons_append, follow_cons_of_directory he, follow_cons_of_directory he]
        split
        · exact ih
        split
        · exact ih
        split
        · simp
        · exact ih

theorem follow_cons_of_idle {step : Text} (hd : fs.find? loc = some .directory) (h : Idle step) :
    fs.follow loc (step :: steps) = fs.follow loc steps := by
  rw [follow_cons_of_directory hd]
  exact if_pos h

/-- Steps that lead nowhere else stay where they start. -/
theorem follow_idle (hd : fs.find? loc = some .directory) (h : ∀ step ∈ steps, Idle step) :
    fs.follow loc steps = .ok loc := by
  induction steps with
  | nil => rfl
  | cons step steps ih =>
    obtain ⟨hstep, hrest⟩ := List.forall_mem_cons.mp h
    rw [follow_cons_of_idle hd hstep]
    exact ih hrest

/-- Where a named step leads if only idle ones follow. -/
theorem eq_of_follow_named (hfirst : ¬ Idle first) (hrest : ∀ step ∈ rest, Idle step)
    (h : fs.follow loc (first :: rest) = .ok there) :
    there = if first = ['.', '.'] then loc.dropLast else loc ++ [first] := by
  have hstay : ∀ {d}, fs.follow d rest = .ok there → there = d := by
    intro d hd
    cases rest with
    | nil => exact (Except.ok.inj hd).symm
    | cons step rest =>
      rw [follow_idle (follow_cons_eq_ok hd) hrest] at hd
      exact (Except.ok.inj hd).symm
  rw [follow_cons_of_directory (follow_cons_eq_ok h),
    if_neg (show ¬ (first = [] ∨ first = ['.']) from hfirst)] at h
  split at h
  · rw [if_pos ‹_›]
    exact hstay h
  split at h
  · cases h
  · rw [if_neg ‹_›]
    exact hstay h

/-- A path leads to a location exactly if it can be asked for and its pieces lead there. -/
theorem locate_eq_ok_iff : fs.locate p = .ok loc ↔
    '\x00' ∉ p.toText ∧ (Utf8.encode p.toText).length ≤ maxPathLength ∧
      fs.follow (if p.isAbsolute then [] else fs.current) (Text.cut '/' p.toText) = .ok loc := by
  rw [locate]
  by_cases hnull : '\x00' ∈ p.toText
  · rw [if_pos hnull]
    constructor
    · intro h
      cases h
    · exact fun h => absurd hnull h.1
  rw [if_neg hnull]
  by_cases hlong : maxPathLength < (Utf8.encode p.toText).length
  · rw [if_pos hlong]
    constructor
    · intro h
      cases h
    · exact fun h => absurd hlong (Nat.not_lt.mpr h.2.1)
  rw [if_neg hlong]
  cases fs.follow (if p.isAbsolute then [] else fs.current) (Text.cut '/' p.toText) with
  | error r =>
    constructor
    · intro h
      cases h
    · rintro ⟨-, -, h⟩
      cases h
  | ok d =>
    constructor
    · intro h
      exact ⟨hnull, Nat.not_lt.mp hlong, congrArg Except.ok (Except.ok.inj h)⟩
    · rintro ⟨-, -, h⟩
      exact congrArg Except.ok (Except.ok.inj h)

/-- A path with a last step leads through its other steps to a place, and from there by its last step. -/
theorem follow_of_locate (hsteps : p.steps = init ++ [last]) (hinit : ∀ step ∈ init, '/' ∉ step)
    (h : fs.locate p = .ok loc) : ∃ d,
      fs.follow (if p.isAbsolute then [] else fs.current) (p.anchor.pieces ++ init) = .ok d ∧
        fs.follow d (Text.cut '/' last) = .ok loc := by
  have hfollow := (locate_eq_ok_iff.mp h).2.2
  rw [cut_toText hsteps hinit] at hfollow
  exact follow_append_eq_ok.mp hfollow

/-- A path that leads somewhere does so from a directory. -/
theorem entryAt_parent (hsteps : p.steps = init ++ [last]) (hinit : ∀ step ∈ init, '/' ∉ step)
    (h : fs.locate p = .ok loc) : fs.entryAt p.parent = .ok (some .directory) := by
  obtain ⟨d, hd, hlast⟩ := follow_of_locate hsteps hinit h
  obtain ⟨first, rest, hcut⟩ := List.exists_cons_of_ne_nil (Text.cut_ne_nil '/' last)
  rw [hcut] at hlast
  have hdirectory : fs.find? d = some .directory := follow_cons_eq_ok hlast
  obtain ⟨hnull, hlong, -⟩ := locate_eq_ok_iff.mp h
  have hparent : p.parent = ⟨p.anchor, init⟩ := by rw [parent, hsteps, List.dropLast_concat]
  have hlocate : fs.locate p.parent = .ok d := by
    refine locate_eq_ok_iff.mpr ⟨?_, ?_, ?_⟩
    · rcases toText_parent hsteps with ht | ht
      · rw [ht]
        decide
      · exact fun hmem => hnull (ht.subset hmem)
    · rcases toText_parent hsteps with ht | ⟨more, ht⟩
      · rw [ht]
        decide
      · rw [← ht, Utf8.encode, List.flatMap_append, List.length_append] at hlong
        exact Nat.le_trans (Nat.le_add_right _ _) hlong
    · obtain ⟨tail, htail, hcut⟩ := exists_cut_toText (p := ⟨p.anchor, init⟩) hinit
      rw [hparent, hcut]
      exact follow_append_eq_ok.mpr ⟨d, hd, follow_idle hdirectory htail⟩
  rw [entryAt_of_locate hlocate, hdirectory]

end FileSystem

open FilePath FileSystem

variable {source suffix : Text} {startedAt : Int} {output : FilePath}

/-- A derived output has the steps of its source but for the last one, which is longer. -/
theorem outputPath_eq_ok (h : outputPath (.ofText source) startedAt suffix = .ok output) :
    ∃ init name, (FilePath.ofText source).steps = init ++ [name] ∧
      IsName (name ++ Text.ofInt startedAt ++ suffix) ∧
      output = { FilePath.ofText source with steps := init ++ [name ++ Text.ofInt startedAt ++ suffix] } := by
  rw [outputPath, withName] at h
  cases hshort : Text.isWritable startedAt with
  | false =>
    rw [hshort] at h
    cases h
  | true =>
    rw [hshort, if_pos rfl] at h
    split at h
    · cases h
    rename_i hnamed
    split at h
    · have hne : (FilePath.ofText source).steps ≠ [] := by
        intro hnil
        exact hnamed (by rw [FilePath.name, hnil]; rfl)
      exact ⟨_, _, steps_eq_concat_name hne, ‹_›, (Except.ok.inj h).symm⟩
    · cases h

example : (outputPath (.ofText "a//p".toList) 5 "/.".toList).toOption =
    some ⟨.here, ["a".toList, "p5/.".toList]⟩ := by decide

/-- The directory of a source that leads somewhere is there for the derived output. -/
theorem entryAt_parent_of_derived (h : outputPath (.ofText source) startedAt suffix = .ok output)
    {fs : FileSystem} {loc : Location} (hloc : fs.locate (.ofText source) = .ok loc) :
    fs.entryAt output.parent = .ok (some .directory) := by
  obtain ⟨init, name, hsteps, -, rfl⟩ := outputPath_eq_ok h
  have hparent : FilePath.parent { FilePath.ofText source with
      steps := init ++ [name ++ Text.ofInt startedAt ++ suffix] } = (FilePath.ofText source).parent := by
    rw [FilePath.parent, FilePath.parent, hsteps, List.dropLast_concat, List.dropLast_concat]
  rw [hparent]
  exact entryAt_parent hsteps (of_steps_concat hsteps).1 hloc

/-- The first piece of a derived name has the numeral in it, so it is named and does not lead up. -/
theorem exists_cut_derived {name : Text} (hname : '/' ∉ name) (startedAt : Int) (suffix : Text) :
    ∃ first rest, Text.cut '/' (name ++ Text.ofInt startedAt ++ suffix) = first :: rest ∧
      name.length < first.length ∧ ¬ Idle first ∧ first ≠ ['.', '.'] := by
  obtain ⟨more, rest, hsuffix⟩ := List.exists_cons_of_ne_nil (Text.cut_ne_nil '/' suffix)
  have hslash : '/' ∉ name ++ Text.ofInt startedAt := by
    intro hm
    rcases List.mem_append.mp hm with hm | hm
    · exact hname hm
    · exact absurd (Text.mem_ofInt hm) (by decide)
  obtain ⟨c, numeral, hnumeral⟩ := List.exists_cons_of_ne_nil (Text.ofInt_ne_nil startedAt)
  have hdot : c ≠ '.' := by
    rintro rfl
    exact absurd (Text.mem_ofInt (hnumeral ▸ List.mem_cons_self)) (by decide)
  have hmem : c ∈ name ++ Text.ofInt startedAt ++ more := by simp [hnumeral]
  refine ⟨_, rest, Text.cut_append_of_notMem hslash hsuffix, ?_, ?_, fun he => ?_⟩
  · simp only [hnumeral, List.length_append, List.length_cons]
    omega
  · rintro (he | he) <;> rw [he] at hmem <;> simp [hdot] at hmem
  · rw [he] at hmem
    simp [hdot] at hmem

/-- A derived output is not its source and leads to another place, in whatever files. -/
theorem outputPath_apart (h : outputPath (.ofText source) startedAt suffix = .ok output) :
    output ≠ .ofText source ∧
      ∀ (fs : FileSystem) loc, fs.locate output = .ok loc → fs.locate (.ofText source) ≠ .ok loc := by
  obtain ⟨init, name, hsteps, hname, rfl⟩ := outputPath_eq_ok h
  refine ⟨fun heq => ?_, fun fs loc hout hsource => ?_⟩
  · have hlists := (congrArg FilePath.steps heq).trans hsteps
    have hlast : [name ++ Text.ofInt startedAt ++ suffix] = [name] := List.append_cancel_left hlists
    simp [Text.ofInt_ne_nil] at hlast
  · obtain ⟨hinit, hnamed, hgoes⟩ := of_steps_concat hsteps
    obtain ⟨d, hd, hlast⟩ := follow_of_locate hsteps hinit hsource
    obtain ⟨d', hd', hlast'⟩ := follow_of_locate rfl hinit hout
    obtain rfl : d = d' := Except.ok.inj (hd.symm.trans hd')
    obtain ⟨first, rest, hcut, hlonger, hidle, hup⟩ := exists_cut_derived hnamed startedAt suffix
    rw [hcut] at hlast'
    rw [Text.cut_of_notMem hnamed] at hlast
    have hplace := eq_of_follow_named hgoes (List.forall_mem_nil _) hlast
    have hplace' := eq_of_follow_named hidle (hname.idle hcut hidle) hlast'
    rw [if_neg hup, hplace] at hplace'
    split at hplace'
    · have hlength := congrArg List.length hplace'
      simp only [List.length_append, List.length_dropLast, List.length_singleton] at hlength
      omega
    · have hsame : [name] = [first] := List.append_cancel_left hplace'
      obtain rfl := List.singleton_inj.mp hsame
      exact Nat.lt_irrefl _ hlonger

end Shorthand
