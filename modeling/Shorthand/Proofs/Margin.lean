import Mathlib.Data.List.Forall2
import Shorthand.Proofs.Choice

/-! Blanks that do not show. Sugar trims what it takes out of a group, so the blanks in front of some tokens
never reach the output, and a suffix drops its own. Tokens that differ from others in such blanks only expand
to the same text, however deep they stand and however many they are. Main statement:
`expandTokens_respaced`. -/
namespace Shorthand

/-- The items of a level, from some place on, whose blanks do not show. -/
structure Margin where
  /-- Every item, and the closer. -/
  every : Bool := false
  /-- The next item. -/
  next : Bool := false
  /-- The first arrow and the item behind it. -/
  splits : Bool := false
  /-- A suffix that comes next; it joins the fragment before it. -/
  joins : Bool := false
deriving DecidableEq

namespace Margin

/-- Whether the blanks in front of a token do not show. -/
def hides (m : Margin) (t : Token) : Bool :=
  m.every || m.next || m.splits && t.kind = .arrow || m.joins && t.kind.suffix?.isSome

/-- The margin behind a token, or behind the group that it opens. -/
def behind (m : Margin) (t : Token) : Margin where
  every := m.every
  next := m.splits && t.kind = .arrow
  splits := m.splits && t.kind ≠ .arrow
  joins := t.kind ≠ .arrow

end Margin

/-- The margin inside a group, by what becomes of it. A list trims each of its elements, and a block what it
takes as parameters and as body. -/
def Rewrite.margin : Rewrite → Margin
  | .list => { every := true }
  | .chain | .reference _ | .dispatch _ | .whole => { next := true }
  | .split _ _ => { next := true, splits := true }
  | .plain => {}

namespace Forest

def inside (g : Group) (inner : Forest) : Margin := (g.rewrite inner.fragments).margin

/-- The tokens of a level in order, each with whether its blanks do not show. -/
def margins : Margin → Forest → List (Token × Bool)
  | _, nil => []
  | m, leaf t _ rest => (t, m.hides t) :: rest.margins (m.behind t)
  | m, group g opener _ inner closer _ rest =>
    (opener, m.hides opener) :: (inner.margins (inside g inner) ++
      (closer, (inside g inner).hides closer) :: rest.margins (m.behind opener))

/-- The margins are told for the tokens of the level, in their order. -/
theorem map_fst_margins (f : Forest) (m : Margin) : (f.margins m).map Prod.fst = f.tokens := by
  induction f generalizing m with
  | nil => rfl
  | leaf t plain rest ih => rw [margins, List.map_cons, ih, tokens]
  | group g opener opens inner closer closes rest ihi ihr =>
    rw [margins, List.map_cons, List.map_append, List.map_cons, ihi, ihr, tokens]

end Forest

/-- One token in the place of another: the same, but for other blanks in front of it if those of the other
are `hidden`. -/
@[mk_iff]
structure Token.Respaced (hidden : Bool) (t t' : Token) : Prop where
  kind : t'.kind = t.kind
  value : t'.value = t.value
  blank : ∀ c ∈ t'.leading, isBlank c = true
  leading : hidden = false → t'.leading = t.leading

/-- A token with other blanks is still one that can be read. -/
theorem Token.Respaced.spelled {hidden : Bool} {t t' : Token} (h : t.Respaced hidden t') (ht : t.Spelled) :
    t'.Spelled := by
  refine ⟨h.blank, ?_⟩
  rw [h.kind, h.value]
  exact ht.spells

/-- One level in the place of another, with other blanks inside its margin. A group stands for one that is
rewritten to the same text. -/
inductive Forest.Respaced : Margin → Forest → Forest → Prop where
  | nil (m : Margin) : Respaced m .nil .nil
  | leaf {m : Margin} {t t' : Token} {plain : t.kind.isDelimiter = false}
      {plain' : t'.kind.isDelimiter = false} {rest rest' : Forest} (spelled : t.Spelled)
      (token : t.Respaced (m.hides t) t') (more : Respaced (m.behind t) rest rest') :
      Respaced m (.leaf t plain rest) (.leaf t' plain' rest')
  | group {m : Margin} {g : Group} {opener opener' closer closer' : Token}
      {opens : opener.kind = .opener g} {opens' : opener'.kind = .opener g}
      {closes : closer.kind = .closer g.closer} {closes' : closer'.kind = .closer g.closer}
      {inner inner' rest rest' : Forest} (spelled : opener.Spelled)
      (token : opener.Respaced (m.hides opener) opener')
      (shown : g.desugar inner'.fragments closer'.leading = g.desugar inner.fragments closer.leading)
      (more : Respaced (m.behind opener) rest rest') :
      Respaced m (.group g opener opens inner closer closes rest)
        (.group g opener' opens' inner' closer' closes' rest')

theorem Text.trimStart_congr {a b : Text} (h : trimStart a = trimStart b) (t : Text) :
    trimStart (a ++ t) = trimStart (b ++ t) := by
  simp only [trimStart] at h ⊢
  rw [List.dropWhile_append, List.dropWhile_append, h]

namespace Fragment

/-- Two fragments that differ in nothing but the blanks at their start. -/
structure Shifted (a b : Fragment) : Prop where
  kind : b.kind = a.kind
  text : b.text.trimStart = a.text.trimStart

/-- What differs in its blanks at the start alone is trimmed to the same text. -/
theorem Shifted.trim {a b : Fragment} (h : Shifted a b) : b.text.trim = a.text.trim := by
  rw [Text.trim, Text.trim, h.text]

theorem Shifted.append {a b : Fragment} (h : Shifted a b) (t : Text) (kind : Option TokenKind) :
    Shifted ⟨a.text ++ t, kind⟩ ⟨b.text ++ t, kind⟩ := ⟨rfl, Text.trimStart_congr h.text t⟩

theorem Shifted.call {a b : Fragment} (h : Shifted a b) (ss : List Suffix) :
    Shifted (a.call ss) (b.call ss) := by
  cases ss with
  | nil => exact h
  | cons s ss => exact h.append _ none

theorem shifted_of_blank {gap gap' : Text} (h : ∀ c ∈ gap, isBlank c = true)
    (h' : ∀ c ∈ gap', isBlank c = true) (t : Text) (kind : Option TokenKind) :
    Shifted ⟨gap ++ t, kind⟩ ⟨gap' ++ t, kind⟩ := by
  refine ⟨rfl, ?_⟩
  rw [Text.trimStart, Text.trimStart, List.dropWhile_append_of_pos h, List.dropWhile_append_of_pos h']

/-- So is a level whose first fragments differ in that way. -/
theorem trimmed_shifted {a b : Fragment} (h : Shifted a b) (fs : List Fragment) :
    trimmed (b :: fs) = trimmed (a :: fs) := by
  have hstart : Text.trimStart (concat (b :: fs)) = Text.trimStart (concat (a :: fs)) :=
    Text.trimStart_congr h.text (concat fs)
  rw [trimmed, trimmed, Text.trim, Text.trim, hstart]

/-- Elements are trimmed each for itself. -/
theorem elements_shifted {fs fs' : List Fragment} (h : List.Forall₂ Shifted fs fs') :
    elements fs' = elements fs := by
  have htrim : fs'.map (fun f => f.text.trim) = fs.map (fun f => f.text.trim) := by
    induction h with
    | nil => rfl
    | cons first _ ih => rw [List.map_cons, List.map_cons, first.trim, ih]
  rw [elements, elements, htrim]

theorem shifted_of_group {hidden : Bool} {g : Group} {opener opener' closer closer' : Token}
    {inner inner' : Forest} (spelled : opener.Spelled) (token : opener.Respaced hidden opener')
    (shown : g.desugar inner'.fragments closer'.leading = g.desugar inner.fragments closer.leading) :
    Shifted ⟨opener.leading ++ g.desugar inner.fragments closer.leading, none⟩
      ⟨opener'.leading ++ g.desugar inner'.fragments closer'.leading, none⟩ := by
  rw [shown]
  exact shifted_of_blank spelled.blank token.blank _ none

theorem attach_shifted {gap gap' : Text} (h : ∀ c ∈ gap, isBlank c = true)
    (h' : ∀ c ∈ gap', isBlank c = true) (s : Suffix) {fs fs' : List Fragment}
    (hfs : List.Forall₂ Shifted fs fs') : List.Forall₂ Shifted (attach s gap fs) (attach s gap' fs') := by
  have halone : Shifted ⟨gap ++ s.call, none⟩ ⟨gap' ++ s.call, none⟩ := shifted_of_blank h h' _ none
  cases hfs with
  | nil => exact .cons halone .nil
  | @cons last last' older older' hlast holder =>
    have harrow : last'.isArrow = last.isArrow := by rw [isArrow, isArrow, hlast.kind]
    rw [attach, attach, harrow]
    split
    · exact .cons halone (.cons hlast holder)
    · exact .cons (hlast.append _ none) holder

/-- A level that takes a suffix: its last fragment is no arrow. -/
def Receives (level : List Fragment) : Prop :=
  ∃ older last, level = older ++ [last] ∧ last.isArrow = false

theorem receives_addLeaf {t : Token} (ha : t.kind ≠ .arrow) (level : List Fragment) :
    Receives (addLeaf level t) := by
  unfold addLeaf
  split
  · split
    · exact ⟨[], _, rfl, rfl⟩
    · split <;> exact ⟨_, _, rfl, rfl⟩
  · exact ⟨level, _, rfl, by simpa [isArrow] using ha⟩

theorem addLeaf_of_receives {t t' : Token} {level : List Fragment} (h : Receives level)
    (hk : t'.kind = t.kind) (hs : t.kind.suffix?.isSome = true) : addLeaf level t' = addLeaf level t := by
  obtain ⟨older, last, rfl, hlast⟩ := h
  obtain ⟨s, hs⟩ := Option.isSome_iff_exists.mp hs
  have hs' : t'.kind.suffix? = some s := by rw [hk, hs]
  rw [addLeaf_append older (List.cons_ne_nil _ _), addLeaf_append older (List.cons_ne_nil _ _),
    addLeaf_singleton_of_suffix hs hlast, addLeaf_singleton_of_suffix hs' hlast]

theorem addLeaf_congr {t t' : Token} (hk : t'.kind = t.kind) (hv : t'.value = t.value)
    (hl : t'.leading = t.leading) (level : List Fragment) : addLeaf level t' = addLeaf level t := by
  rw [addLeaf, addLeaf, hk, hv, hl]

/-- A leaf with other blanks leaves fragments that differ in nothing else. -/
theorem addLeaf_shifted {hidden : Bool} {t t' : Token} (h : t.Respaced hidden t') (ht : t.Spelled)
    {level level' : List Fragment} (hlevel : List.Forall₂ Shifted level level') :
    List.Forall₂ Shifted (addLeaf level t) (addLeaf level' t') := by
  cases hs : t.kind.suffix? with
  | none =>
    have hs' : t'.kind.suffix? = none := by rw [h.kind, hs]
    rw [addLeaf_of_not_suffix hs, addLeaf_of_not_suffix hs', h.kind, h.value]
    exact List.rel_append hlevel (.cons (shifted_of_blank ht.blank h.blank _ _) .nil)
  | some s =>
    have hk : t.kind = .suffix s := TokenKind.suffix?_eq_some.mp hs
    have hk' : t'.kind = .suffix s := h.kind.trans hk
    have hattach := attach_shifted ht.blank h.blank s (List.forall₂_reverse_iff.mpr hlevel)
    rw [← reverse_addLeaf hk, ← reverse_addLeaf hk', List.reverse_reverse, List.reverse_reverse] at hattach
    exact List.forall₂_reverse_iff.mp hattach

theorem exists_addLeaf_nil (t : Token) : ∃ f, addLeaf [] t = [f] := by
  unfold addLeaf
  split <;> exact ⟨_, rfl⟩

end Fragment

namespace Forest

open Fragment

/-- What a forest adds behind a fragment does not depend on the blanks in front of it. -/
theorem trimmed_onto_shifted (f : Forest) {a b : Fragment} (h : Shifted a b) :
    trimmed (f.onto [b]) = trimmed (f.onto [a]) := by
  have harrow : b.isArrow = a.isArrow := by rw [isArrow, isArrow, h.kind]
  cases ha : a.isArrow with
  | false =>
    rw [f.onto_singleton ha, f.onto_singleton (harrow.trans ha)]
    exact trimmed_shifted (h.call f.suffixes) _
  | true =>
    have hb : f.onto [b] = b :: f.fragments := f.onto_arrow [] (harrow.trans ha)
    have ha : f.onto [a] = a :: f.fragments := f.onto_arrow [] ha
    rw [hb, ha, trimmed_shifted h]

theorem ne_arrow_of_opener {t : Token} {g : Group} (opens : t.kind = .opener g) : t.kind ≠ .arrow := by
  rw [opens]
  exact TokenKind.noConfusion

theorem arrow?_leaf_eq_none {t : Token} {plain : t.kind.isDelimiter = false} {rest : Forest} :
    (leaf t plain rest).arrow? = none ↔ t.kind ≠ .arrow ∧ rest.arrow? = none := by
  by_cases ha : t.kind = .arrow <;> simp [arrow?, ha]

theorem arrow?_group_eq_none {g : Group} {opener closer : Token} {opens : opener.kind = .opener g}
    {closes : closer.kind = .closer g.closer} {inner rest : Forest} :
    (group g opener opens inner closer closes rest).arrow? = none ↔ rest.arrow? = none := by
  simp [arrow?]

/-- Nothing on a level is trimmed: its margin holds suffixes only. -/
structure Untrimmed (m : Margin) (f : Forest) : Prop where
  every : m.every = false
  next : m.next = false
  splits : m.splits = true → f.arrow? = none

/-- Behind a token there is nothing left to trim, unless an arrow is still to come. -/
theorem untrimmed_behind {m : Margin} {t : Token} {rest : Forest} (every : m.every = false)
    (splits : m.splits = true → t.kind ≠ .arrow ∧ rest.arrow? = none) : Untrimmed (m.behind t) rest := by
  refine ⟨every, ?_, ?_⟩
  · by_cases hs : m.splits = true
    · simp [Margin.behind, (splits hs).1]
    · simp [Margin.behind, hs]
  · intro hbehind
    have hs : m.splits = true := (Bool.and_eq_true_iff.mp hbehind).1
    exact (splits hs).2

/-- Where nothing is trimmed, only the blanks of a suffix do not show. -/
theorem Untrimmed.suffix_of_hides {m : Margin} {f : Forest} {t : Token} (h : Untrimmed m f)
    (splits : m.splits = true → t.kind ≠ .arrow) (hides : m.hides t = true) :
    m.joins = true ∧ t.kind.suffix?.isSome = true := by
  by_cases hs : m.splits = true
  · simpa [Margin.hides, h.every, h.next, splits hs] using hides
  · simpa [Margin.hides, h.every, h.next, hs] using hides

namespace Respaced

variable {m : Margin} {f f' : Forest}

/-- The form of a level does not depend on its blanks: it is a chain before and behind. -/
theorem isChain (h : Respaced m f f') : f'.isChain = f.isChain := by
  cases h with
  | nil => rfl
  | leaf _ token _ => rw [Forest.isChain, Forest.isChain, token.kind, token.value]
  | group => rfl

theorem isSuffixes (h : Respaced m f f') : f'.isSuffixes = f.isSuffixes := by
  induction h with
  | nil => rfl
  | leaf _ token _ ih => rw [Forest.isSuffixes, Forest.isSuffixes, token.kind, ih]
  | group => rfl

theorem suffixes (h : Respaced m f f') : f'.suffixes = f.suffixes := by
  induction h with
  | nil => rfl
  | leaf _ token _ ih => rw [Forest.suffixes, Forest.suffixes, token.kind, ih]
  | group => rfl

/-- It refers to the same name. -/
theorem reference? (h : Respaced m f f') : f'.reference? = f.reference? := by
  cases h with
  | nil => rfl
  | leaf _ token more =>
    rw [Forest.reference?, Forest.reference?, token.kind, token.value, more.isSuffixes, more.suffixes]
  | group => rfl

/-- It is the same lone atom. -/
theorem atom (h : Respaced m f f') (name : Text) :
    (∃ t', f'.IsAtom t' ∧ name = t'.value) ↔ ∃ t, f.IsAtom t ∧ name = t.value := by
  cases h with
  | nil => simp [IsAtom, items]
  | group => simp [IsAtom, items]
  | @leaf _ t t' _ _ rest rest' _ token more =>
    cases more <;> simp [IsAtom, items, token.kind, token.value]

/-- Its first arrow parts it into levels that differ in their blanks alone. -/
theorem arrow? (h : Respaced m f f') : f.arrow? = none ∧ f'.arrow? = none ∨
    ∃ before behind before' behind', f.arrow? = some (before, behind) ∧
      f'.arrow? = some (before', behind') ∧ before.arrow? = none ∧ Respaced m before before' ∧
      Respaced { every := m.every, next := m.splits } behind behind' := by
  -- Up to the first arrow both levels keep the margin they start with; behind it they are trimmed afresh.
  induction h with
  | nil => exact .inl ⟨rfl, rfl⟩
  | @leaf m t t' plain plain' rest rest' spelled token more ih =>
    rw [Forest.arrow?, Forest.arrow?, token.kind]
    by_cases ha : t.kind = .arrow
    · have hbehind : m.behind t = { every := m.every, next := m.splits } := by simp [Margin.behind, ha]
      rw [if_pos ha, if_pos ha]
      rw [hbehind] at more
      exact .inr ⟨.nil, rest, .nil, rest', rfl, rfl, rfl, .nil m, more⟩
    · rw [if_neg ha, if_neg ha]
      rcases ih with
        ⟨hnone, hnone'⟩ | ⟨before, behind, before', behind', hsome, hsome', hfirst, hparams, hbody⟩
      · rw [hnone, hnone']
        exact .inl ⟨rfl, rfl⟩
      · rw [hsome, hsome']
        have hbehind : (m.behind t).splits = m.splits := by simp [Margin.behind, ha]
        rw [hbehind] at hbody
        have hleaf : (Forest.leaf t plain before).arrow? = none := by
          rw [Forest.arrow?, if_neg ha, hfirst]
          rfl
        exact .inr ⟨_, behind, _, behind', rfl, rfl, hleaf, .leaf spelled token hparams, hbody⟩
  | @group m g opener opener' closer closer' opens opens' closes closes' inner inner' rest rest' spelled
      token shown more ih =>
    have ha : opener.kind ≠ .arrow := ne_arrow_of_opener opens
    rw [Forest.arrow?, Forest.arrow?]
    rcases ih with ⟨hnone, hnone'⟩ | ⟨before, behind, before', behind', hsome, hsome', hfirst, hparams, hbody⟩
    · rw [hnone, hnone']
      exact .inl ⟨rfl, rfl⟩
    · rw [hsome, hsome']
      have hbehind : (m.behind opener).splits = m.splits := by simp [Margin.behind, ha]
      rw [hbehind] at hbody
      have hgroup : (Forest.group g opener opens inner closer closes before).arrow? = none := by
        rw [Forest.arrow?, hfirst]
        rfl
      exact .inr ⟨_, behind, _, behind', rfl, rfl, hgroup, .group spelled token shown hparams, hbody⟩

/-- Where nothing is trimmed, only suffixes hide blanks, and they drop them. -/
theorem onto_eq (h : Respaced m f f') (untrimmed : Untrimmed m f) {level : List Fragment}
    (joins : m.joins = true → Receives level) : f'.onto level = f.onto level := by
  -- The margin that is carried along says whether the newest fragment takes a suffix.
  induction h generalizing level with
  | nil => rfl
  | @leaf m t t' plain plain' rest rest' spelled token more ih =>
    have hsplits (hs : m.splits = true) : t.kind ≠ .arrow ∧ rest.arrow? = none :=
      arrow?_leaf_eq_none.mp (untrimmed.splits hs)
    have hleaf : addLeaf level t' = addLeaf level t := by
      cases hides : m.hides t with
      | false => exact addLeaf_congr token.kind token.value (token.leading hides) level
      | true =>
        obtain ⟨hjoins, hsuffix⟩ := untrimmed.suffix_of_hides (fun hs => (hsplits hs).1) hides
        exact addLeaf_of_receives (joins hjoins) token.kind hsuffix
    rw [Forest.onto, Forest.onto, hleaf]
    apply ih (untrimmed_behind untrimmed.every hsplits)
    intro hjoins
    exact receives_addLeaf (of_decide_eq_true hjoins) level
  | @group m g opener opener' closer closer' opens opens' closes closes' inner inner' rest rest' spelled token
      shown more ih =>
    have ha : opener.kind ≠ .arrow := ne_arrow_of_opener opens
    have hleading : opener'.leading = opener.leading := by
      apply token.leading
      rw [Bool.eq_false_iff]
      intro hides
      obtain ⟨-, hsuffix⟩ := untrimmed.suffix_of_hides (fun _ => ha) hides
      rw [opens] at hsuffix
      cases hsuffix
    have hgroup : g.desugar (inner'.onto []) closer'.leading = g.desugar (inner.onto []) closer.leading :=
      shown
    rw [Forest.onto, Forest.onto, hleading, hgroup]
    apply ih
    · exact untrimmed_behind untrimmed.every fun hs => ⟨ha, arrow?_group_eq_none.mp (untrimmed.splits hs)⟩
    · exact fun _ => ⟨level, _, rfl, rfl⟩

/-- A level all of whose blanks show has the same fragments. -/
theorem fragments_eq (h : Respaced {} f f') : f'.fragments = f.fragments :=
  h.onto_eq ⟨rfl, rfl, by simp⟩ (by simp)

theorem trimmed_behind (h : Respaced m f f') (untrimmed : Untrimmed m f) {a b : Fragment}
    (joins : m.joins = true → Receives [a]) (hab : Shifted a b) :
    trimmed (f'.onto [b]) = trimmed (f.onto [a]) := by
  rw [f'.trimmed_onto_shifted hab, h.onto_eq untrimmed joins]

/-- What is trimmed at its start may have other blanks there. -/
theorem trimmed_eq (h : Respaced m f f') (every : m.every = false)
    (splits : m.splits = true → f.arrow? = none) : trimmed f'.fragments = trimmed f.fragments := by
  cases h with
  | nil => rfl
  | @leaf _ t t' plain plain' rest rest' spelled token more =>
    have huntrimmed : Untrimmed (m.behind t) rest :=
      untrimmed_behind every fun hs => arrow?_leaf_eq_none.mp (splits hs)
    have hjoins : (m.behind t).joins = true → Receives (addLeaf [] t) := fun hj =>
      receives_addLeaf (of_decide_eq_true hj) []
    have hfirst : List.Forall₂ Shifted (addLeaf [] t) (addLeaf [] t') := addLeaf_shifted token spelled .nil
    obtain ⟨a, ha⟩ := exists_addLeaf_nil t
    rw [ha] at hfirst hjoins
    obtain ⟨b, _, hab, hnil, hb⟩ := List.forall₂_cons_left_iff.mp hfirst
    obtain rfl := List.forall₂_nil_left_iff.mp hnil
    rw [fragments, fragments, Forest.onto, Forest.onto, ha, hb]
    exact more.trimmed_behind huntrimmed hjoins hab
  | @group _ g opener opener' closer closer' opens _ _ _ inner inner' rest rest' spelled token shown more =>
    have ha : opener.kind ≠ .arrow := ne_arrow_of_opener opens
    have huntrimmed : Untrimmed (m.behind opener) rest :=
      untrimmed_behind every fun hs => ⟨ha, arrow?_group_eq_none.mp (splits hs)⟩
    exact more.trimmed_behind huntrimmed (fun _ => ⟨[], _, rfl, rfl⟩)
      (shifted_of_group spelled token shown)

/-- Where every item is trimmed, the fragments differ at their starts only. -/
theorem shifted (h : Respaced m f f') {level level' : List Fragment}
    (hlevel : List.Forall₂ Shifted level level') : List.Forall₂ Shifted (f.onto level) (f'.onto level') := by
  induction h generalizing level level' with
  | nil => exact hlevel
  | leaf spelled token _ ih => exact ih (addLeaf_shifted token spelled hlevel)
  | group spelled token shown _ ih =>
    exact ih (List.rel_append hlevel (.cons (shifted_of_group spelled token shown) .nil))

/-- The sides of the arrow are trimmed to the same texts. -/
theorem split_eq (h : Respaced m f f') (every : m.every = false) {params body params' body' : Forest}
    (hsplit : f.arrow? = some (params, body)) (hsplit' : f'.arrow? = some (params', body')) :
    trimmed params'.fragments = trimmed params.fragments ∧
      trimmed body'.fragments = trimmed body.fragments := by
  rcases h.arrow? with ⟨hnone, -⟩ | ⟨_, _, _, _, hsome, hsome', hfirst, hparams, hbody⟩
  · rw [hnone] at hsplit
    cases hsplit
  · obtain ⟨rfl, rfl⟩ := Prod.mk.inj (Option.some.inj (hsome.symm.trans hsplit))
    obtain ⟨rfl, rfl⟩ := Prod.mk.inj (Option.some.inj (hsome'.symm.trans hsplit'))
    exact ⟨hparams.trimmed_eq every fun _ => hfirst, hbody.trimmed_eq every (by simp)⟩

theorem loneAtom? (h : Respaced m f f') (hf : ∀ t ∈ f.tokens, t.Spelled) (hf' : ∀ t ∈ f'.tokens, t.Spelled) :
    Group.loneAtom? f'.fragments = Group.loneAtom? f.fragments := by
  ext name
  rw [loneAtom?_fragments hf, loneAtom?_fragments hf']
  exact h.atom name

theorem text_split (h : Respaced m f f') (every : m.every = false) {params body params' body' : Forest}
    (hsplit : f.arrow? = some (params, body)) (hsplit' : f'.arrow? = some (params', body')) (g : Group)
    (tail tail' : Text) :
    (Rewrite.split params'.fragments body'.fragments).text g f'.fragments tail' =
      (Rewrite.split params.fragments body.fragments).text g f.fragments tail := by
  obtain ⟨hparams, hbody⟩ := h.split_eq every hsplit hsplit'
  rw [Rewrite.text, Rewrite.text, hparams, hbody]

theorem text_plain (h : Respaced {} f f') {closer closer' : Token} (hcloser : closer.Respaced false closer')
    (g : Group) : Rewrite.plain.text g f'.fragments closer'.leading =
      Rewrite.plain.text g f.fragments closer.leading := by
  rw [h.fragments_eq, hcloser.leading rfl]

/-- A parenthesised group is written as the same text. -/
theorem text_paren (h : Respaced (inside .paren f) f f') (hf : ∀ t ∈ f.tokens, t.Spelled)
    (hf' : ∀ t ∈ f'.tokens, t.Spelled) {closer closer' : Token}
    (hcloser : closer.Respaced ((inside .paren f).hides closer) closer') :
    (Group.paren.rewrite f'.fragments).text .paren f'.fragments closer'.leading =
      (Group.paren.rewrite f.fragments).text .paren f.fragments closer.leading := by
  -- The same rule applies to both levels, and the margin is the one that this rule leaves.
  have hr := rewrite_paren hf
  have hr' := rewrite_paren hf'
  rw [h.isChain, h.reference?] at hr'
  by_cases hchain : f.isChain = true
  · rw [if_pos hchain] at hr hr'
    rw [inside, hr] at h
    have htrimmed : trimmed f'.fragments = trimmed f.fragments := h.trimmed_eq rfl (by simp [Rewrite.margin])
    rw [hr, hr', Rewrite.text, Rewrite.text, htrimmed]
  · rw [if_neg hchain] at hr hr'
    cases hreference : f.reference? with
    | some name =>
      rw [hreference] at hr hr'
      rw [hr, hr']
      rfl
    | none =>
      rw [hreference] at hr hr'
      rcases h.arrow? with ⟨hnone, hnone'⟩ | ⟨params, body, params', body', hsome, hsome', -⟩
      · rw [hnone] at hr
        rw [hnone'] at hr'
        rw [inside, hr] at h hcloser
        rw [hr, hr']
        exact h.text_plain (by simpa [Rewrite.margin, Margin.hides] using hcloser) .paren
      · rw [hsome] at hr
        rw [hsome'] at hr'
        rw [inside, hr] at h
        rw [hr, hr']
        exact h.text_split rfl hsome hsome' _ _ _

/-- A block is written as the same text. -/
theorem text_block (h : Respaced (inside .block f) f f') (hf : ∀ t ∈ f.tokens, t.Spelled)
    (hf' : ∀ t ∈ f'.tokens, t.Spelled) (tail tail' : Text) :
    (Group.block.rewrite f'.fragments).text .block f'.fragments tail' =
      (Group.block.rewrite f.fragments).text .block f.fragments tail := by
  have hr := f.rewrite_block
  have hr' := f'.rewrite_block
  rw [h.loneAtom? hf hf'] at hr'
  cases hatom : Group.loneAtom? f.fragments with
  | some name =>
    rw [hatom] at hr hr'
    rw [hr, hr']
    rfl
  | none =>
    rw [hatom] at hr hr'
    rcases h.arrow? with ⟨hnone, hnone'⟩ | ⟨params, body, params', body', hsome, hsome', -⟩
    · rw [hnone] at hr
      rw [hnone'] at hr'
      change Group.block.rewrite _ = .whole at hr hr'
      rw [inside, hr] at h
      have htrimmed : trimmed f'.fragments = trimmed f.fragments :=
        h.trimmed_eq rfl (by simp [Rewrite.margin])
      rw [hr, hr', Rewrite.text, Rewrite.text, htrimmed]
    · rw [hsome] at hr
      rw [hsome'] at hr'
      rw [inside, hr] at h
      rw [hr, hr']
      exact h.text_split rfl hsome hsome' _ _ _

/-- A group keeps its text if the blanks inside its margin change. -/
theorem desugar_eq {g : Group} (h : Respaced (inside g f) f f') (hf : ∀ t ∈ f.tokens, t.Spelled)
    (hf' : ∀ t ∈ f'.tokens, t.Spelled) {closer closer' : Token}
    (hcloser : closer.Respaced ((inside g f).hides closer) closer') :
    g.desugar f'.fragments closer'.leading = g.desugar f.fragments closer.leading := by
  rw [Group.desugar_eq_text, Group.desugar_eq_text]
  cases g with
  | paren => exact h.text_paren hf hf' hcloser
  | block => exact h.text_block hf hf' _ _
  | index =>
    refine h.text_plain ?_ .index
    simpa [inside, Group.rewrite, Rewrite.margin, Margin.hides] using hcloser
  | map | array =>
    have helements : elements f'.fragments = elements f.fragments := elements_shifted (h.shifted .nil)
    simp only [Group.rewrite, Rewrite.text, helements]

end Respaced

/-- Tokens that differ from those of a level inside its margin only are those of such a level. -/
theorem exists_respaced {f : Forest} (hf : ∀ t ∈ f.tokens, t.Spelled) {m : Margin} {ts : List Token}
    (h : List.Forall₂ (fun p t => p.1.Respaced p.2 t) (f.margins m) ts) :
    ∃ f' : Forest, f'.tokens = ts ∧ Respaced m f f' ∧ ∀ t ∈ f'.tokens, t.Spelled := by
  -- Kinds are kept, so the new tokens nest as the old ones do; the level inside a group is read with the
  -- margin that the old group gives it.
  induction f generalizing m ts with
  | nil =>
    obtain rfl := List.forall₂_nil_left_iff.mp h
    exact ⟨.nil, rfl, .nil m, hf⟩
  | leaf t plain rest ih =>
    obtain ⟨ht, hrest⟩ := List.forall_mem_cons.mp hf
    obtain ⟨t', ts', htoken, hmore, rfl⟩ := List.forall₂_cons_left_iff.mp h
    obtain ⟨rest', rfl, hrespaced, hrest'⟩ := ih hrest hmore
    have plain' : t'.kind.isDelimiter = false := by rw [htoken.kind, plain]
    exact ⟨.leaf t' plain' rest', rfl, .leaf ht htoken hrespaced,
      List.forall_mem_cons.mpr ⟨htoken.spelled ht, hrest'⟩⟩
  | group g opener opens inner closer closes rest ihi ihr =>
    obtain ⟨hopener, hinner, hclosing, hrest⟩ := forall_tokens_group hf
    obtain ⟨opener', ts', htoken, hmore, rfl⟩ := List.forall₂_cons_left_iff.mp h
    have hheld := (List.forall₂_take_append _ _ _ hmore.flip).flip
    have hbehind := (List.forall₂_drop_append _ _ _ hmore.flip).flip
    obtain ⟨closer', ts'', hcloser, hmore', hdrop⟩ := List.forall₂_cons_left_iff.mp hbehind
    obtain ⟨inner', htake, hinside, hinner'⟩ := ihi hinner hheld
    obtain ⟨rest', rfl, hrespaced, hrest'⟩ := ihr hrest hmore'
    have hts : ts' = inner'.tokens ++ closer' :: rest'.tokens := by
      rw [htake, ← hdrop, List.take_append_drop]
    have opens' : opener'.kind = .opener g := htoken.kind.trans opens
    have closes' : closer'.kind = .closer g.closer := hcloser.kind.trans closes
    refine ⟨.group g opener' opens' inner' closer' closes' rest', by rw [tokens, hts],
      .group hopener htoken (hinside.desugar_eq hinner hinner' hcloser) hrespaced, ?_⟩
    rw [tokens, List.forall_mem_cons, List.forall_mem_append, List.forall_mem_cons]
    exact ⟨htoken.spelled hopener, hinner', hcloser.spelled hclosing, hrest'⟩

/-- Tokens with other blanks are of the same kinds. -/
theorem kinds_of_margins {f : Forest} {m : Margin} {ts : List Token}
    (h : List.Forall₂ (fun p t => p.1.Respaced p.2 t) (f.margins m) ts) :
    ts.map Token.kind = f.tokens.map Token.kind := by
  rw [← f.map_fst_margins m]
  generalize f.margins m = ps at h
  induction h with
  | nil => rfl
  | cons first _ ih => rw [List.map_cons, List.map_cons, List.map_cons, first.kind, ih]

end Forest

/-- Tokens expand to the same text as others that differ from them only in blanks that do not show: those in
front of any item or the closer of a list, of the first item or the closer of a block, of the arrow that
splits a block and of the item behind that, and of a suffix that joins the fragment before it. -/
theorem expandTokens_respaced (f : Forest) (hf : ∀ t ∈ f.tokens, t.Spelled) (ts : List Token)
    (h : List.Forall₂ (fun p t => p.1.Respaced p.2 t) (f.margins {}) ts) (origin origin' : Origin)
    (cap : Option Int) :
    (f.margins {}).map Prod.fst = f.tokens ∧ expandTokens f.tokens origin = .ok f.text ∧
      expandTokens ts origin' = .ok f.text ∧
      ∀ out, expandTokens ts origin' cap = .ok out ↔ expandTokens f.tokens origin cap = .ok out := by
  obtain ⟨f', rfl, hrespaced, -⟩ := Forest.exists_respaced hf h
  have htext : f'.text = f.text := by
    rw [Forest.text, Forest.text, hrespaced.fragments_eq]
  have hkinds : f'.tokens.map Token.kind = f.tokens.map Token.kind := Forest.kinds_of_margins h
  have hadmissible : Admissible cap [] f'.tokens ↔ Admissible cap [] f.tokens :=
    ⟨fun ha => ha.of_kinds rfl hkinds.symm, fun ha => ha.of_kinds rfl hkinds⟩
  refine ⟨f.map_fst_margins {}, f.expandTokens_tokens origin, ?_, ?_⟩
  · rw [← htext]
    exact f'.expandTokens_tokens origin'
  · intro out
    rw [Forest.expandTokens_capped, Forest.expandTokens_capped, htext, hadmissible]

/-- In front of every token but the first, blanks do not show: the list trims its elements, the block its
parameter and its body, and the suffix joins the name. -/
theorem expandTokens_respaced_list :
    ∃ (f : Forest) (ts : List Token), tokenize "\\a[x++(a->\x7bb\x7d)]".toList none = .ok (f.tokens, []) ∧
      tokenize "\\a[ x ++ ( a -> \x7b b \x7d ) ]".toList none = .ok (ts, []) ∧
      (f.margins {}).map Prod.snd = false :: List.replicate 10 true ∧
      expandTokens f.tokens = .ok f.text ∧ expandTokens ts = .ok f.text := by
  let block : Forest := .group .block ⟨.opener .block, ['\x7b'], 1, 11, []⟩ rfl
    (.leaf ⟨.atom, ['b'], 1, 12, []⟩ rfl .nil) ⟨.closer .brace, ['\x7d'], 1, 13, []⟩ rfl .nil
  let split : Forest := .group .paren ⟨.opener .paren, ['('], 1, 7, []⟩ rfl
    (.leaf ⟨.atom, ['a'], 1, 8, []⟩ rfl <| .leaf ⟨.arrow, "->".toList, 1, 9, []⟩ rfl block)
    ⟨.closer .paren, [')'], 1, 14, []⟩ rfl .nil
  let f : Forest := .group .array ⟨.opener .array, "\\a[".toList, 1, 1, []⟩ rfl
    (.leaf ⟨.atom, ['x'], 1, 4, []⟩ rfl <| .leaf ⟨.suffix .succ, "++".toList, 1, 5, []⟩ rfl split)
    ⟨.closer .bracket, [']'], 1, 15, []⟩ rfl .nil
  let ts : List Token := [⟨.opener .array, "\\a[".toList, 1, 1, []⟩, ⟨.atom, ['x'], 1, 5, [' ']⟩,
    ⟨.suffix .succ, "++".toList, 1, 7, [' ']⟩, ⟨.opener .paren, ['('], 1, 10, [' ']⟩,
    ⟨.atom, ['a'], 1, 12, [' ']⟩, ⟨.arrow, "->".toList, 1, 14, [' ']⟩,
    ⟨.opener .block, ['\x7b'], 1, 17, [' ']⟩, ⟨.atom, ['b'], 1, 19, [' ']⟩,
    ⟨.closer .brace, ['\x7d'], 1, 21, [' ']⟩, ⟨.closer .paren, [')'], 1, 23, [' ']⟩,
    ⟨.closer .bracket, [']'], 1, 25, [' ']⟩]
  have hf : tokenize "\\a[x++(a->\x7bb\x7d)]".toList none = .ok (f.tokens, []) := by decide +kernel
  have hts : tokenize "\\a[ x ++ ( a -> \x7b b \x7d ) ]".toList none = .ok (ts, []) := by decide +kernel
  have hmargins : f.margins {} = List.zip f.tokens (false :: List.replicate 10 true) := by decide +kernel
  have hrespaced : List.Forall₂ (fun p t => p.1.Respaced p.2 t) (f.margins {}) ts := by
    rw [hmargins]
    simp [f, split, block, ts, Forest.tokens, Token.respaced_iff, isBlank]
  obtain ⟨-, hold, hnew, -⟩ := expandTokens_respaced f (spelled_of_tokenize hf) ts hrespaced {} {} none
  exact ⟨f, ts, hf, hts, by rw [hmargins]; rfl, hold, hnew⟩

end Shorthand
