import Shorthand.Proofs.Forest

/-! What fragments carry. If a relation between texts and lists holds of texts put together whenever it
holds of the parts, and does not mind trimming, then all that sugar does with fragments keeps what they
carry, in order. -/
namespace Shorthand

theorem Text.join_cons (sep piece : Text) (pieces : List Text) :
    join sep (piece :: pieces) = piece ++ if pieces = [] then [] else sep ++ join sep pieces := by
  cases pieces <;> simp [join]

/-- A relation between texts and what they carry that holds of texts one after the other, of trimmed texts
and of a comma that carries nothing. -/
structure Text.Additive {α : Type} (P : Text → List α → Prop) : Prop where
  nil : P [] []
  append {s t : Text} {xs ys : List α} (first : P s xs) (second : P t ys) : P (s ++ t) (xs ++ ys)
  trim {t : Text} {xs : List α} (whole : P t xs) : P t.trim xs
  comma : P ", ".toList []

/-- The fragments carry a list in order, each its own part of it. Arrows carry nothing. -/
inductive Fragment.Carry {α : Type} (P : Text → List α → Prop) : List Fragment → List α → Prop where
  | nil : Carry P [] []
  | cons {f : Fragment} {fs : List Fragment} {xs ys : List α} (first : P f.text xs)
      (arrow : f.kind = some .arrow → xs = []) (rest : Carry P fs ys) : Carry P (f :: fs) (xs ++ ys)

/-- The fragments that an arrow parts are all there were but the arrow. -/
theorem Fragment.splitArrow?_eq_some {fs params body : List Fragment}
    (h : splitArrow? fs = some (params, body)) :
    ∃ arrow, arrow.kind = some .arrow ∧ fs = params ++ arrow :: body := by
  have hfs := List.takeWhile_append_dropWhile (p := (!·.isArrow)) (l := fs)
  have hhead := List.head?_dropWhile_not (!·.isArrow) fs
  rw [splitArrow?] at h
  split at h
  · cases h
  · rename_i arrow body' hdrop
    obtain ⟨rfl, rfl⟩ := Prod.mk.inj (Option.some.inj h)
    rw [hdrop] at hhead hfs
    exact ⟨arrow, by simpa [isArrow] using hhead, hfs.symm⟩

namespace Fragment.Carry

variable {α : Type} {P : Text → List α → Prop} {fs gs : List Fragment} {xs ys : List α}

theorem single {f : Fragment} (h : P f.text xs) (arrow : f.kind = some .arrow → xs = []) :
    Carry P [f] xs := by
  rw [← List.append_nil xs]
  exact .cons h arrow .nil

theorem composite {text : Text} (h : P text xs) : Carry P [⟨text, none⟩] xs := by
  apply single h
  intro harrow
  cases harrow

theorem of_single {f : Fragment} (h : Carry P [f] xs) : P f.text xs := by
  cases h with
  | cons first _ rest =>
    cases rest
    rw [List.append_nil]
    exact first

/-- What two levels carry they carry one behind the other. -/
theorem append (h : Carry P fs xs) (h' : Carry P gs ys) : Carry P (fs ++ gs) (xs ++ ys) := by
  induction h with
  | nil => exact h'
  | cons first arrow _ ih =>
    rw [List.append_assoc]
    exact .cons first arrow ih

/-- What two levels carry together is parted between them. -/
theorem exists_append (h : Carry P (fs ++ gs) xs) :
    ∃ before behind, xs = before ++ behind ∧ Carry P fs before ∧ Carry P gs behind := by
  induction fs generalizing xs with
  | nil => exact ⟨[], xs, rfl, .nil, h⟩
  | cons f fs ih =>
    cases h with
    | @cons _ _ own _ first arrow rest =>
      obtain ⟨before, behind, rfl, hfs, hgs⟩ := ih rest
      exact ⟨own ++ before, behind, (List.append_assoc ..).symm, .cons first arrow hfs, hgs⟩

/-- What a level carries is parted between the sides of its arrow, since an arrow carries nothing. -/
theorem splitArrow? {params body : List Fragment} (h : Carry P fs xs)
    (hs : Fragment.splitArrow? fs = some (params, body)) :
    ∃ before behind, xs = before ++ behind ∧ Carry P params before ∧ Carry P body behind := by
  obtain ⟨arrow, harrow, rfl⟩ := splitArrow?_eq_some hs
  obtain ⟨before, behind, rfl, hparams, hbody⟩ := h.exists_append
  cases hbody with
  | cons _ hnone hbody =>
    rw [hnone harrow]
    exact ⟨before, _, rfl, hparams, hbody⟩

/-- A level carries into its text what its fragments carry. -/
theorem concat (hP : Text.Additive P) (h : Carry P fs xs) : P (Fragment.concat fs) xs := by
  induction h with
  | nil => exact hP.nil
  | cons first _ _ ih => exact hP.append first ih

/-- Commas between the fragments and trimming them take nothing away. -/
theorem elements (hP : Text.Additive P) (h : Carry P fs xs) : P (Fragment.elements fs) xs := by
  induction h with
  | nil => exact hP.nil
  | @cons f fs xs ys first _ rest ih =>
    have htrim := hP.trim first
    rw [Fragment.elements, List.map_cons, List.filter_cons]
    split
    · rw [Text.join_cons]
      apply hP.append htrim
      split
      · rename_i hnone
        rw [Fragment.elements, hnone] at ih
        exact ih
      · exact hP.append hP.comma ih
    · rename_i hblank
      have hempty : f.text.trim = [] := by simpa using hblank
      rw [hempty] at htrim
      exact hP.append htrim ih

/-- A leaf adds what it carries itself, whether it stands alone or is a call on the fragment before it. -/
theorem addLeaf (hP : Text.Additive P) (h : Carry P fs xs) {t : Token} (arrow : t.kind = .arrow → ys = [])
    (shown : (∀ s, t.kind ≠ .suffix s) → P (t.leading ++ t.value) ys)
    (called : ∀ s, t.kind = .suffix s → P s.call ys ∧ P (t.leading ++ s.call) ys) :
    Carry P (Fragment.addLeaf fs t) (xs ++ ys) := by
  unfold Fragment.addLeaf
  split
  · rename_i s hs
    obtain ⟨hcall, halone⟩ := called s hs
    split
    · rename_i hnone
      obtain rfl := List.getLast?_eq_none_iff.mp hnone
      exact h.append (.composite halone)
    · rename_i last hlast
      obtain ⟨older, rfl⟩ := List.getLast?_eq_some_iff.mp hlast
      split
      · exact h.append (.composite halone)
      · -- The suffix changes the last fragment, which keeps what it carries.
        obtain ⟨before, behind, rfl, holder, hnewest⟩ := h.exists_append
        rw [List.dropLast_concat, List.append_assoc]
        exact holder.append (.composite (hP.append hnewest.of_single hcall))
  · rename_i hs
    exact h.append (.single (shown hs) fun harrow => arrow (Option.some.inj harrow))

end Fragment.Carry

end Shorthand
