import Shorthand.Proofs.Carry
import Shorthand.Proofs.Passage
import Shorthand.Proofs.Reconstruction

/-! Characters of an expansion. Trimming and taking apart add no characters, and what sugar puts between
pieces is the same for every text, so an expansion has only the characters of its text and those of the
sugar. Main statement: `expand_subset`. -/
namespace Shorthand

def sugar : Text :=
  blockText implicitParam (Group.dispatch []) ++ "()[], .to_h".toList ++ Suffix.call .succ ++ Suffix.call .pred

variable {S t : Text} {fs : List Fragment}

/-- Trimming adds no character. -/
theorem Text.trim_subset (t : Text) : t.trim ⊆ t := by
  apply Text.trim_closed (Q := fun s => s ⊆ t) _ _ (List.Subset.refl t)
  · intro c s _ hs
    exact List.Subset.trans (List.subset_cons_self c s) hs
  · intro c s _ hs
    exact List.Subset.trans (List.subset_append_left s [c]) hs

/-- A text has characters of `S` only, whatever it carries. -/
def Text.Within (S t : Text) (_ : List Unit) : Prop := t ⊆ S

theorem Text.within_additive (hS : sugar ⊆ S) : Text.Additive (Within S) where
  nil := List.nil_subset S
  append first second := List.append_subset.mpr ⟨first, second⟩
  trim whole := List.Subset.trans (trim_subset _) whole
  comma := List.Subset.trans (by decide) hS

theorem blockText_subset {params body : Text} (hS : sugar ⊆ S) (h : params ⊆ S) (h' : body ⊆ S) :
    blockText params body ⊆ S := by
  have hopen : "\x7b|".toList ⊆ S := List.Subset.trans (by decide) hS
  have hbar : "|".toList ⊆ S := List.Subset.trans (by decide) hS
  have hclose : "\x7d".toList ⊆ S := List.Subset.trans (by decide) hS
  simp only [blockText, List.append_subset]
  exact ⟨⟨⟨⟨hopen, h⟩, hbar⟩, h'⟩, hclose⟩

theorem implicitParam_subset (hS : sugar ⊆ S) : implicitParam ⊆ S := List.Subset.trans (by decide) hS

/-- Text between brackets, with more behind them. -/
theorem bracketed_subset {c : Char} {body behind : Text} (hS : sugar ⊆ S) (hc : c ∈ sugar)
    (h : body ⊆ S) (hbehind : behind ⊆ sugar) : c :: body ++ behind ⊆ S :=
  List.append_subset.mpr ⟨List.cons_subset.mpr ⟨hS hc, h⟩, List.Subset.trans hbehind hS⟩

namespace Group

open Fragment

variable {name tail : Text} {xs : List Unit}

/-- The name in a reference is a part of the fragments that it is read from. -/
theorem symbolRef?_subset (h : Carry (Text.Within S) fs xs) (hs : symbolRef? fs = some name) : name ⊆ S := by
  unfold symbolRef? at hs
  split at hs
  · split at hs
    · obtain rfl := Option.some.inj hs
      have htext : Text.Within S _ xs := h.of_single
      exact List.Subset.trans (List.drop_subset 2 _) (List.Subset.trans (Text.trim_subset _) htext)
    · cases hs
  · cases hs

theorem loneAtom?_subset (h : Carry (Text.Within S) fs xs) (hs : loneAtom? fs = some name) : name ⊆ S := by
  unfold loneAtom? at hs
  split at hs
  · split at hs
    · obtain rfl := Option.some.inj hs
      have htext : Text.Within S _ xs := h.of_single
      exact List.Subset.trans (Text.trim_subset _) htext
    · cases hs
  · cases hs

theorem dispatch_subset (hS : sugar ⊆ S) (h : name ⊆ S) : dispatch name ⊆ S := by
  have hfixed : ∀ {w : Text}, w ⊆ sugar → w ⊆ S := fun hw => List.Subset.trans hw hS
  simp only [dispatch, List.append_subset, h, and_true]
  exact ⟨⟨⟨⟨⟨⟨⟨⟨hfixed (by decide), hfixed (by decide)⟩, hfixed (by decide)⟩, hfixed (by decide)⟩,
    hfixed (by decide)⟩, hfixed (by decide)⟩, hfixed (by decide)⟩, hfixed (by decide)⟩, hfixed (by decide)⟩

/-- A parenthesised group has no character but those of its fragments, of its tail and of the sugar. -/
theorem desugarParen_subset (hS : sugar ⊆ S) (h : Carry (Text.Within S) fs xs) (ht : tail ⊆ S) :
    desugarParen fs tail ⊆ S := by
  have hP : Text.Additive (Text.Within S) := Text.within_additive hS
  have hit : implicitParam ⊆ S := implicitParam_subset hS
  have hall : Text.Within S (concat fs) xs := h.concat hP
  rw [desugarParen]
  split
  · have htrimmed : trimmed fs ⊆ S := List.Subset.trans (Text.trim_subset _) hall
    exact blockText_subset hS hit (List.append_subset.mpr ⟨hit, htrimmed⟩)
  · split
    · rename_i name hs
      have hdot : '.' ∈ S := hS (by decide)
      have hcall : '.' :: name ⊆ S := List.cons_subset.mpr ⟨hdot, symbolRef?_subset h hs⟩
      exact blockText_subset hS hit (List.append_subset.mpr ⟨hit, hcall⟩)
    · split
      · rename_i hs
        obtain ⟨before, behind, -, hparams, hbody⟩ := h.splitArrow? hs
        exact blockText_subset hS (hP.trim (hparams.concat hP)) (hP.trim (hbody.concat hP))
      · exact bracketed_subset hS (by decide) (List.append_subset.mpr ⟨hall, ht⟩) (by decide)

/-- A block has no character but those of its fragments and of the sugar. -/
theorem desugarBlock_subset (hS : sugar ⊆ S) (h : Carry (Text.Within S) fs xs) : desugarBlock fs ⊆ S := by
  have hP : Text.Additive (Text.Within S) := Text.within_additive hS
  have hit : implicitParam ⊆ S := implicitParam_subset hS
  rw [desugarBlock]
  split
  · rename_i name hs
    exact blockText_subset hS hit (dispatch_subset hS (loneAtom?_subset h hs))
  · split
    · rename_i hs
      obtain ⟨before, behind, -, hparams, hbody⟩ := h.splitArrow? hs
      have hparams : trimmed _ ⊆ S := hP.trim (hparams.concat hP)
      have hbody : trimmed _ ⊆ S := hP.trim (hbody.concat hP)
      split
      · exact blockText_subset hS hit hbody
      · have hcomma : ", ".toList ⊆ S := List.Subset.trans (by decide) hS
        have hall : implicitParam ++ ", ".toList ++ trimmed _ ⊆ S :=
          List.append_subset.mpr ⟨List.append_subset.mpr ⟨hit, hcomma⟩, hparams⟩
        exact blockText_subset hS hall hbody
    · exact blockText_subset hS hit (hP.trim (h.concat hP))

theorem desugar_subset (g : Group) (hS : sugar ⊆ S) (h : Carry (Text.Within S) fs xs) (ht : tail ⊆ S) :
    g.desugar fs tail ⊆ S := by
  have hP : Text.Additive (Text.Within S) := Text.within_additive hS
  have helements : Text.Within S (elements fs) xs := h.elements hP
  cases g with
  | paren => exact desugarParen_subset hS h ht
  | block => exact desugarBlock_subset hS h
  | index =>
    have hall : Text.Within S (concat fs) xs := h.concat hP
    exact bracketed_subset hS (by decide) (List.append_subset.mpr ⟨hall, ht⟩) (by decide)
  | map => exact bracketed_subset hS (by decide) helements (by decide)
  | array => exact bracketed_subset hS (by decide) helements (by decide)

end Group

namespace Forest

variable {level : List Fragment}

/-- A token whose characters are all of `S` leads to fragments of that kind. -/
theorem within_addLeaf (hS : sugar ⊆ S) (h : Fragment.Carry (Text.Within S) level []) {u : Token}
    (hu : u.layout ⊆ S) : Fragment.Carry (Text.Within S) (Fragment.addLeaf level u) [] := by
  have hleading : u.leading ⊆ S := List.Subset.trans (List.subset_append_left _ _) hu
  have hcall : ∀ s : Suffix, s.call ⊆ S := by
    intro s
    exact List.Subset.trans (by cases s <;> decide) hS
  have hadded : Fragment.Carry (Text.Within S) (Fragment.addLeaf level u) ([] ++ []) :=
    h.addLeaf (Text.within_additive hS) (fun _ => rfl) (fun _ => hu) fun s _ =>
      ⟨hcall s, List.append_subset.mpr ⟨hleading, hcall s⟩⟩
  exact hadded

/-- By induction over the forest: what it adds to a level has no character but those of its tokens and of
the sugar. -/
theorem within_onto (f : Forest) (hS : sugar ⊆ S) (hf : ∀ u ∈ f.tokens, u.layout ⊆ S)
    (h : Fragment.Carry (Text.Within S) level []) : Fragment.Carry (Text.Within S) (f.onto level) [] := by
  induction f generalizing level with
  | nil => exact h
  | leaf u plain rest ih =>
    obtain ⟨hu, hrest⟩ := List.forall_mem_cons.mp hf
    exact ih hrest (within_addLeaf hS h hu)
  | group g opener opens inner closer closes rest ihi ihr =>
    obtain ⟨hopener, hinner, hcloser, hrest⟩ := forall_tokens_group hf
    have hleading : opener.leading ⊆ S := List.Subset.trans (List.subset_append_left _ _) hopener
    have htail : closer.leading ⊆ S := List.Subset.trans (List.subset_append_left _ _) hcloser
    have hgroup : g.desugar inner.fragments closer.leading ⊆ S :=
      g.desugar_subset hS (ihi hinner .nil) htail
    exact ihr hrest (h.append (.composite (List.append_subset.mpr ⟨hleading, hgroup⟩)))

end Forest

/-- Deleting comments adds no character. -/
theorem Zone.uncommented_subset (z : Zone) (t : Text) : z.uncommented t ⊆ t := by
  induction t generalizing z with
  | nil => exact List.Subset.refl _
  | cons c t ih =>
    rw [uncommented]
    split
    · exact List.Subset.trans (ih _) (List.subset_cons_self c t)
    · exact List.cons_subset_cons c (ih _)

/-- Every character of an expansion is one of its text or one that sugar adds. -/
theorem expand_subset {out : Text} {file : Option FilePath} {cap : Option Int}
    (h : expand t file cap = .ok out) : out ⊆ t ++ sugar := by
  obtain ⟨f, trailing, htokens, rfl⟩ := exists_forest_of_expand h
  have hS : sugar ⊆ t ++ sugar := List.subset_append_right t sugar
  have hkept : f.tokens.flatMap Token.layout ++ trailing ⊆ t ++ sugar := by
    rw [layout_of_tokenize htokens]
    exact List.Subset.trans (Zone.code.uncommented_subset t) (List.subset_append_left t sugar)
  obtain ⟨hlayout, htrailing⟩ := List.append_subset.mp hkept
  have htoken : ∀ u ∈ f.tokens, u.layout ⊆ t ++ sugar :=
    fun u hu => List.Subset.trans (fun c hc => List.mem_flatMap.mpr ⟨u, hu, hc⟩) hlayout
  have htext : Text.Within (t ++ sugar) f.text [] :=
    (f.within_onto hS htoken .nil).concat (Text.within_additive hS)
  exact List.append_subset.mpr ⟨htext, htrailing⟩

end Shorthand
