import Mathlib.Data.List.Chain
import Shorthand.Proofs.Alphabet
import Shorthand.Proofs.Course
import Shorthand.Proofs.Replacement

/-! Lines with any breaks. A text that is put together from lines and the breaks behind them is read as
these lines, whichever break each of them has, unless a carriage return meets the line feed of an empty
line. So a file expands as it does with line feeds alone, to a text with line feeds alone, or it is refused
with the same diagnostic. Main statement: `expandFile_lineBreaks`. -/
namespace Shorthand

namespace Text

inductive LineBreak where
  | lf
  | crlf
  | cr
deriving DecidableEq, Repr

def LineBreak.text : LineBreak → Text
  | .lf => ['\n']
  | .crlf => ['\r', '\n']
  | .cr => ['\r']

/-- A text without a line break in it. -/
def Unbroken (t : Text) : Prop := '\r' ∉ t ∧ '\n' ∉ t

/-- Lines with their breaks, and what is behind the last break. -/
def ofLines (lines : List (Text × LineBreak)) (rest : Text) : Text :=
  lines.flatMap (fun l => l.1 ++ l.2.text) ++ rest

/-- The same lines, each with a line feed behind it. -/
def withFeeds (lines : List (Text × LineBreak)) : List (Text × LineBreak) := lines.map fun l => (l.1, .lf)

/-- The break of a line is told from that of the next: a carriage return does not meet a line feed. -/
def Apart (l next : Text × LineBreak) : Prop := ¬ (l.2 = .cr ∧ next = ([], .lf))

variable {c : Char} {t w rest : Text} {lines : List (Text × LineBreak)}

theorem ofLines_cons (l : Text × LineBreak) (lines : List (Text × LineBreak)) (rest : Text) :
    ofLines (l :: lines) rest = l.1 ++ (l.2.text ++ ofLines lines rest) := by
  simp [ofLines]

section Unify

theorem unifyLineBreaks_crlf (t : Text) : unifyLineBreaks ('\r' :: '\n' :: t) = '\n' :: unifyLineBreaks t :=
  rfl

/-- A carriage return alone is a line break too. -/
theorem unifyLineBreaks_cr (h : t.head? ≠ some '\n') :
    unifyLineBreaks ('\r' :: t) = '\n' :: unifyLineBreaks t := by
  cases t with
  | nil => rfl
  | cons d t =>
    have hd : d ≠ '\n' := fun he => h (congrArg some he)
    have hjoin : joinCrLf ('\r' :: d :: t) = '\r' :: joinCrLf (d :: t) := by
      rw [joinCrLf]
      intro rest _ he
      exact hd (List.cons.inj he).1
    rw [unifyLineBreaks, hjoin]
    rfl

theorem unifyLineBreaks_cons (h : c ≠ '\r') (t : Text) :
    unifyLineBreaks (c :: t) = c :: unifyLineBreaks t := by
  have hjoin : joinCrLf (c :: t) = c :: joinCrLf t := by
    rw [joinCrLf]
    intro rest hc _
    exact h hc
  rw [unifyLineBreaks, hjoin, List.map_cons, if_neg h]
  rfl

/-- Text without carriage returns is not touched, and what follows it is unified by itself. -/
theorem unifyLineBreaks_append (h : '\r' ∉ w) (t : Text) :
    unifyLineBreaks (w ++ t) = w ++ unifyLineBreaks t := by
  induction w with
  | nil => rfl
  | cons c w ih =>
    have hc : c ≠ '\r' := fun he => h (he ▸ List.mem_cons_self)
    have hw : '\r' ∉ w := fun hm => h (List.mem_cons_of_mem c hm)
    rw [List.cons_append, unifyLineBreaks_cons hc, ih hw]
    rfl

/-- A text without carriage returns is read as it stands. -/
theorem unifyLineBreaks_of_notMem (h : '\r' ∉ t) : unifyLineBreaks t = t := by
  have hread := unifyLineBreaks_append h []
  rwa [List.append_nil, show unifyLineBreaks [] = [] from rfl, List.append_nil] at hread

theorem length_joinCrLf_le (t : Text) : (joinCrLf t).length ≤ t.length := by
  induction t using joinCrLf.induct with
  | case1 rest ih =>
    rw [joinCrLf, List.length_cons, List.length_cons, List.length_cons]
    omega
  | case2 c rest hpair ih =>
    rw [joinCrLf]
    · exact Nat.succ_le_succ ih
    · exact hpair
  | case3 => exact Nat.le_refl _

/-- A text does not get longer when its line breaks are unified. -/
theorem length_unifyLineBreaks_le (t : Text) : (unifyLineBreaks t).length ≤ t.length := by
  rw [unifyLineBreaks, List.length_map]
  exact length_joinCrLf_le t

end Unify

/-- What follows a line that ends in a carriage return does not begin with a line feed. -/
theorem head?_ofLines (l : Text × LineBreak) (hcr : l.2 = .cr) (hapart : List.IsChain Apart (l :: lines))
    (hlines : ∀ l ∈ lines, Unbroken l.1) (hrest : Unbroken rest) : (ofLines lines rest).head? ≠ some '\n' := by
  have hhead : ∀ {t : Text}, Unbroken t → t.head? ≠ some '\n' :=
    fun ht he => ht.2 (List.mem_of_head? he)
  cases lines with
  | nil => exact hhead hrest
  | cons next lines =>
    obtain ⟨line, br⟩ := next
    have hnext := (List.isChain_cons_cons.mp hapart).1
    have hline : Unbroken line := hlines _ List.mem_cons_self
    rw [ofLines_cons]
    cases line with
    | cons c line =>
      have hfirst : (c :: line).head? ≠ some '\n' := hhead hline
      exact hfirst
    | nil =>
      cases br with
      | lf => exact absurd ⟨hcr, rfl⟩ hnext
      | crlf | cr => exact nofun

/-- Each line is read with a line feed behind it, and what is behind the last break stays as it is. -/
theorem unifyLineBreaks_ofLines (hlines : ∀ l ∈ lines, Unbroken l.1) (hrest : Unbroken rest)
    (hapart : List.IsChain Apart lines) :
    unifyLineBreaks (ofLines lines rest) = ofLines (withFeeds lines) rest := by
  -- Of the three breaks, only a carriage return needs to know how the text behind it begins.
  induction lines with
  | nil => exact unifyLineBreaks_of_notMem hrest.1
  | cons l lines ih =>
    obtain ⟨hl, hmore⟩ := List.forall_mem_cons.mp hlines
    have hread : unifyLineBreaks (l.2.text ++ ofLines lines rest) =
        '\n' :: unifyLineBreaks (ofLines lines rest) := by
      cases hbreak : l.2 with
      | lf => exact unifyLineBreaks_cons (by decide) _
      | crlf => exact unifyLineBreaks_crlf _
      | cr => exact unifyLineBreaks_cr (head?_ofLines l hbreak hapart hmore hrest)
    calc unifyLineBreaks (ofLines (l :: lines) rest)
        = l.1 ++ unifyLineBreaks (l.2.text ++ ofLines lines rest) := by
          rw [ofLines_cons, unifyLineBreaks_append hl.1]
      _ = l.1 ++ '\n' :: ofLines (withFeeds lines) rest := by
          rw [hread, ih hmore hapart.tail]
      _ = ofLines (withFeeds (l :: lines)) rest := (ofLines_cons (l.1, .lf) (withFeeds lines) rest).symm

/-- Line feeds are read as they stand. -/
theorem unifyLineBreaks_withFeeds (hlines : ∀ l ∈ lines, Unbroken l.1) (hrest : Unbroken rest) :
    unifyLineBreaks (ofLines (withFeeds lines) rest) = ofLines (withFeeds lines) rest := by
  apply unifyLineBreaks_of_notMem
  intro hm
  rcases List.mem_append.mp hm with hm | hm
  · obtain ⟨fed, hfed, hc⟩ := List.mem_flatMap.mp hm
    obtain ⟨l, hl, rfl⟩ := List.mem_map.mp hfed
    rcases List.mem_append.mp hc with hc | hc
    · exact (hlines l hl).1 hc
    · have hfeed : '\r' ∉ LineBreak.lf.text := by decide
      exact hfeed hc
  · exact hrest.1 hm

end Text

open Text

/-- An expansion has no carriage returns, and neither have its bytes. -/
theorem cr_notMem_of_expansionAt {fs : FileSystem} {source : FilePath} {cap : Option Int} {text : Text}
    (he : fs.expansionAt source cap = .ok text) : '\r' ∉ text ∧ 13 ∉ Utf8.encode text := by
  obtain ⟨written, -, hexpand⟩ := FileSystem.expansionAt_eq_ok he
  have hnone : '\r' ∉ text := by
    intro hm
    rcases List.mem_append.mp (expand_subset hexpand hm) with hsource | hsugar
    · exact cr_notMem_unifyLineBreaks written hsource
    · exact absurd hsugar (by decide)
  exact ⟨hnone, fun hb => hnone (Utf8.ofNat_mem_of_mem_encode (by decide) hb)⟩

/-- Two files have the same lines, one with a line feed behind each of them, the other with a line feed, a
carriage return or both, but no carriage return in front of an empty line that ends in a line feed. On file
systems that are the same otherwise, the expansion has the same outcome for both: the same text, which is
written to the output and has no carriage return, or the same failure with all that its diagnostic shows. -/
theorem expandFile_lineBreaks (lines : List (Text × LineBreak)) (rest : Text)
    (hlines : ∀ l ∈ lines, Unbroken l.1) (hrest : Unbroken rest) (hapart : List.IsChain Apart lines)
    (source output : FilePath) (cap : Option Int) (h h' : Host) (loc : Location)
    (hsame : h.files.SameBut loc h'.files)
    (hfed : h.files.read source = .ok (Utf8.encode (ofLines (withFeeds lines) rest)))
    (hmixed : h'.files.read source = .ok (Utf8.encode (ofLines lines rest))) :
    let expanded := expandFile source output cap h
    let expanded' := expandFile source output cap h'
    expanded'.1 = expanded.1 ∧ expanded.2.files.SameBut loc expanded'.2.files ∧
      ∀ text, expanded'.1 = .ok text → '\r' ∉ text ∧ 13 ∉ Utf8.encode text ∧
        expanded.2.files.read output = .ok (Utf8.encode text) ∧
        expanded'.2.files.read output = .ok (Utf8.encode text) := by
  intro expanded expanded'
  have hread : unifyLineBreaks (ofLines lines rest) = unifyLineBreaks (ofLines (withFeeds lines) rest) := by
    rw [unifyLineBreaks_ofLines hlines hrest hapart, unifyLineBreaks_withFeeds hlines hrest]
  have hexpansion : h'.files.expansionAt source cap = h.files.expansionAt source cap := by
    rw [FileSystem.expansionAt_encode hfed, FileSystem.expansionAt_encode hmixed, hread]
  obtain ⟨houtcome, hfiles⟩ := hsame.expandFile h h' hexpansion output
  refine ⟨houtcome, hfiles, fun text htext => ?_⟩
  obtain ⟨he, hwritten⟩ := written_of_expandFile rfl (houtcome.symm.trans htext)
  obtain ⟨-, hwritten'⟩ := written_of_expandFile rfl htext
  obtain ⟨hnone, hbytes⟩ := cr_notMem_of_expansionAt he
  exact ⟨hnone, hbytes, hwritten.content, hwritten'.content⟩

/-- A carriage return in front of one more, both breaks in a string literal, and one behind a comment. -/
theorem expandFile_lineBreaks_mixed :
    let lines : List (Text × LineBreak) := [("(.a".toList, .cr), ([], .cr), ("\"b".toList, .crlf),
      ("c".toList, .cr), ("\")#d".toList, .crlf)]
    let files : FileSystem := ⟨[(["p".toList], .file (Utf8.encode (ofLines (withFeeds lines) ['e'])))], []⟩
    let files' : FileSystem := files.set ["p".toList] (.file (Utf8.encode (ofLines lines ['e'])))
    (expandFile (.ofText "p".toList) (.ofText "q".toList) none { files := files' }).1 =
      .ok "\x7b|it|it.a\n\n\"b\nc\n\"\x7d\ne".toList := by
  intro lines files files'
  have hplace : files'.locate (.ofText "p".toList) = .ok ["p".toList] :=
    HostM.eq_ok_of_toOption (by decide +kernel)
  have hroot : ["p".toList] ≠ ([] : Location) := List.cons_ne_nil _ _
  have hput := FileSystem.find?_set_self files hroot (.file (Utf8.encode (ofLines lines ['e'])))
  have hfree : files.find? ["p".toList] ≠ some .directory := by
    intro hd
    cases hd
  have hfree' : files'.find? ["p".toList] ≠ some .directory := by
    intro hd
    cases hput.symm.trans hd
  have hsame : files.SameBut ["p".toList] files' :=
    ⟨⟨rfl, fun there hthere => FileSystem.find?_set_of_ne files hthere _, hfree, hfree'⟩, rfl, hput ▸ rfl⟩
  have hfed : files.read (.ofText "p".toList) = .ok (Utf8.encode (ofLines (withFeeds lines) ['e'])) := rfl
  have hmixed : files'.read (.ofText "p".toList) = .ok (Utf8.encode (ofLines lines ['e'])) :=
    FileSystem.read_eq_ok_iff.mpr ⟨_, hplace, hput⟩
  have hexpanded : (expandFile (.ofText "p".toList) (.ofText "q".toList) none { files := files }).1 =
      .ok "\x7b|it|it.a\n\n\"b\nc\n\"\x7d\ne".toList := HostM.eq_ok_of_toOption (by decide +kernel)
  have hlines : ∀ l ∈ lines, Unbroken l.1 := by simp only [Unbroken]; decide
  have hapart : List.IsChain Apart lines := by simp [lines, Apart]
  obtain ⟨houtcome, -⟩ := expandFile_lineBreaks lines ['e'] hlines ⟨by decide, by decide⟩ hapart
    (.ofText "p".toList) (.ofText "q".toList) none { files } { files := files' } _ hsame hfed hmixed
  exact houtcome.trans hexpanded

end Shorthand
