import Shorthand.Proofs.Carry
import Shorthand.Proofs.Passage

/-! What sugar makes of whole passages. Whichever rule replaces a group, its text is whole if its fragments
are, and it holds their string literals in order; only dispatch on a name adds any. -/
namespace Shorthand

namespace Text

theorem trimEnd_cons {c : Char} (h : isBlank c = false) (t : Text) :
    trimEnd (c :: t) = c :: trimEnd t := by
  rw [trimEnd, List.reverse_cons, List.dropWhile_append]
  split
  · rename_i hempty
    rw [trimEnd, List.isEmpty_iff.mp hempty]
    simp [h]
  · rw [trimEnd, List.reverse_append]
    rfl

theorem dropWhile_isBlank {w : Text} (h : ∀ c ∈ w, isBlank c = false) : w.dropWhile isBlank = w := by
  cases w with
  | nil => rfl
  | cons c w => rw [List.dropWhile_cons, h c List.mem_cons_self, if_neg nofun]

/-- A word between blanks is trimmed to itself. -/
theorem trim_append {b w : Text} (hb : ∀ c ∈ b, isBlank c = true) (hw : ∀ c ∈ w, isBlank c = false) :
    trim (b ++ w) = w := by
  have hreverse : ∀ c ∈ w.reverse, isBlank c = false := fun c hc => hw c (List.mem_reverse.mp hc)
  rw [trim, trimStart, List.dropWhile_append_of_pos hb, dropWhile_isBlank hw, trimEnd,
    dropWhile_isBlank hreverse, List.reverse_reverse]

end Text

/-- The fragments are whole passages, and together they hold the string literals `lits`. Arrows hold
none. -/
inductive Fragment.Hold : List Fragment → List Text → Prop where
  | nil : Hold [] []
  | cons {f : Fragment} {fs : List Fragment} {lits lits' : List Text} (whole : Whole f.text lits)
      (arrow : f.kind = some .arrow → lits = []) (rest : Hold fs lits') : Hold (f :: fs) (lits ++ lits')

/-- Passages that close all they open can be joined, trimmed and put beside sugar. -/
theorem whole_additive : Text.Additive Whole := ⟨.nil, .append, .trim, .unmarked (by decide)⟩

namespace Fragment.Hold

variable {fs gs : List Fragment} {lits lits' : List Text}

/-- A level holds literals as it carries them. -/
theorem iff_carry : Hold fs lits ↔ Carry Whole fs lits := by
  constructor
  · intro h
    induction h with
    | nil => exact .nil
    | cons whole arrow _ ih => exact .cons whole arrow ih
  · intro h
    induction h with
    | nil => exact .nil
    | cons whole arrow _ ih => exact .cons whole arrow ih

theorem composite {text : Text} (whole : Whole text lits) : Hold [⟨text, none⟩] lits :=
  iff_carry.mpr (.composite whole)

theorem of_single {f : Fragment} (h : Hold [f] lits) : Whole f.text lits := (iff_carry.mp h).of_single

theorem append (h : Hold fs lits) (h' : Hold gs lits') : Hold (fs ++ gs) (lits ++ lits') :=
  iff_carry.mpr ((iff_carry.mp h).append (iff_carry.mp h'))

/-- The text of a level closes all it opens and holds its literals. -/
theorem concat (h : Hold fs lits) : Whole (Fragment.concat fs) lits := (iff_carry.mp h).concat whole_additive

theorem trimmed (h : Hold fs lits) : Whole (Fragment.trimmed fs) lits := h.concat.trim

theorem elements (h : Hold fs lits) : Whole (Fragment.elements fs) lits :=
  (iff_carry.mp h).elements whole_additive

/-- The literals of a level are parted by its arrow. -/
theorem splitArrow? {params body : List Fragment} (h : Hold fs lits)
    (hs : Fragment.splitArrow? fs = some (params, body)) :
    ∃ before behind, lits = before ++ behind ∧ Hold params before ∧ Hold body behind := by
  obtain ⟨before, behind, hlits, hparams, hbody⟩ := (iff_carry.mp h).splitArrow? hs
  exact ⟨before, behind, hlits, iff_carry.mpr hparams, iff_carry.mpr hbody⟩

end Fragment.Hold

theorem whole_implicitParam : Whole implicitParam [] := .unmarked (by decide)

/-- A block holds the literals of its parameters and then those of its body. -/
theorem whole_blockText {params body : Text} {lits lits' : List Text} (h : Whole params lits)
    (h' : Whole body lits') : Whole (blockText params body) (lits ++ lits') := by
  have htext : blockText params body =
      Closer.brace.opening :: ((['|'] ++ params ++ (['|'] ++ body)) ++ [Closer.brace.char]) := by
    simp [blockText, Closer.opening, Closer.char]
  have hbar : Whole ['|'] [] := .unmarked (by decide)
  rw [htext]
  exact .between .brace ((hbar.append h).append (hbar.append h'))

namespace Group

open Fragment

/-- The name of a reference holds the literals of its level. -/
theorem whole_symbolRef {fs : List Fragment} {lits : List Text} {name : Text} (h : Hold fs lits)
    (hs : symbolRef? fs = some name) : Whole name lits := by
  unfold symbolRef? at hs
  split at hs
  · rename_i f
    split at hs
    · rename_i hprefix
      obtain ⟨rest, hrest⟩ := List.isPrefixOf_iff_prefix.mp hprefix
      have htrim : f.text.trim = '&' :: ':' :: Text.trimEnd rest := by
        rw [Text.trim, ← hrest]
        exact (Text.trimEnd_cons rfl _).trans (congrArg _ (Text.trimEnd_cons rfl _))
      obtain rfl := Option.some.inj hs
      intro s
      have hpassage := h.of_single.trim s
      rw [htrim] at hpassage ⊢
      exact (hpassage.of_cons_plain rfl).of_cons_plain rfl
    · cases hs
  · cases hs

/-- A parenthesised group holds the literals of its level, whatever its form. -/
theorem whole_desugarParen {fs : List Fragment} {lits : List Text} {tail : Text} (h : Hold fs lits)
    (ht : ∀ c ∈ tail, isBlank c = true) : Whole (desugarParen fs tail) lits := by
  rw [desugarParen]
  split
  · exact whole_blockText whole_implicitParam (whole_implicitParam.append h.trimmed)
  · split
    · rename_i name hs
      have hdot : Whole ['.'] [] := .unmarked (by decide)
      have hcall := whole_implicitParam.append (hdot.append (whole_symbolRef h hs))
      exact whole_blockText whole_implicitParam hcall
    · split
      · rename_i hs
        obtain ⟨before, behind, rfl, hparams, hbody⟩ := h.splitArrow? hs
        exact whole_blockText hparams.trimmed hbody.trimmed
      · have hinside := h.concat.append (.blank ht)
        rw [List.append_nil] at hinside
        exact .between .paren hinside

/-- So does a block that is no lone atom. -/
theorem whole_desugarBlock {fs : List Fragment} {lits : List Text} (h : Hold fs lits)
    (hn : loneAtom? fs = none) : Whole (desugarBlock fs) lits := by
  simp only [desugarBlock, hn]
  split
  · rename_i hs
    obtain ⟨before, behind, rfl, hparams, hbody⟩ := h.splitArrow? hs
    have hbefore := hparams.trimmed
    split
    · rename_i hempty
      rw [hempty] at hbefore
      rw [hbefore.literals_nil]
      exact whole_blockText whole_implicitParam hbody.trimmed
    · have hcomma : Whole ", ".toList [] := .unmarked (by decide)
      have hall := (whole_implicitParam.append hcomma).append hbefore
      exact whole_blockText hall hbody.trimmed
  · exact whole_blockText whole_implicitParam h.trimmed

/-- So does every group, but for the lone atom in a block. -/
theorem whole_desugar (g : Group) {fs : List Fragment} {lits : List Text} {tail : Text}
    (h : Hold fs lits) (ht : ∀ c ∈ tail, isBlank c = true) (hn : g = .block → loneAtom? fs = none) :
    Whole (g.desugar fs tail) lits := by
  cases g with
  | paren => exact whole_desugarParen h ht
  | block => exact whole_desugarBlock h (hn rfl)
  | index =>
    have hinside := h.concat.append (.blank ht)
    rw [List.append_nil] at hinside
    exact .between .bracket hinside
  | array => exact .between .bracket h.elements
  | map =>
    have htext : desugar .map fs tail =
        (Closer.bracket.opening :: (elements fs ++ [Closer.bracket.char])) ++ ".to_h".toList := by
      simp [desugar, Closer.opening, Closer.char]
    have hsuffix : Whole ".to_h".toList [] := .unmarked (by decide)
    have hcall := (Whole.between .bracket h.elements).append hsuffix
    rw [List.append_nil] at hcall
    rw [htext]
    exact hcall

/-- Dispatch holds the literal of the name twice, where it asks for a method and where it sends it. -/
theorem whole_dispatch {name : Text} (h : Rule.IsName name) :
    Whole (blockText implicitParam (dispatch name)) [Text.literal name, Text.literal name] := by
  have hcolon : Whole [':'] [] := .unmarked (by decide)
  have hargument := Whole.between .paren (hcolon.append (.literal h.literalBody))
  have hask : Whole "it.respond_to?".toList [] := .unmarked (by decide)
  have hsend : Whole " ? it.send".toList [] := .unmarked (by decide)
  have helse : Whole " : ".toList [] := .unmarked (by decide)
  have hcall := (helse.append (.plain h.not_mark)).append (.between .paren whole_implicitParam)
  have hbody := (hask.append hargument).append ((hsend.append hargument).append hcall)
  apply whole_blockText whole_implicitParam
  simpa [dispatch, implicitParam, Text.literal, Closer.opening, Closer.char] using hbody

end Group

end Shorthand
