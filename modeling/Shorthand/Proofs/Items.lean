import Mathlib.Data.List.TakeWhile
import Shorthand.Proofs.Spelling

/-! The items of a level. A level falls into its items, each with the suffixes behind it; an arrow takes
none. What is rewritten, and how, is decided by the items directly on the level, whatever the groups among
them hold: `isMethodChain_fragments`, `symbolRef?_fragments` and `splitArrow?_fragments`. -/
namespace Shorthand

/-- What stands directly on a level: a token that is no delimiter, or a group with what it holds. -/
inductive Forest.Item where
  | token (t : Token)
  | group (g : Group) (inner : Forest)

namespace TokenKind

def suffix? : TokenKind → Option Suffix
  | .suffix s => some s
  | _ => none

theorem suffix?_eq_some {kind : TokenKind} {s : Suffix} : kind.suffix? = some s ↔ kind = .suffix s := by
  cases kind <;> simp [suffix?]

theorem suffix?_eq_none {kind : TokenKind} : kind.suffix? = none ↔ ∀ s, kind ≠ .suffix s := by
  cases kind <;> simp [suffix?]

end TokenKind

namespace Forest

def items : Forest → List Item
  | nil => []
  | leaf t _ rest => .token t :: rest.items
  | group g _ _ inner _ _ rest => .group g inner :: rest.items

/-- The groups at every depth, each with what it holds. -/
def groups : Forest → List (Group × Forest)
  | nil => []
  | leaf _ _ rest => rest.groups
  | group g _ _ inner _ _ rest => (g, inner) :: (inner.groups ++ rest.groups)

def suffixes : Forest → List Suffix
  | leaf t _ rest =>
    match t.kind.suffix? with
    | some s => s :: rest.suffixes
    | none => []
  | _ => []

/-- What follows the suffixes that a level starts with. -/
def unsuffixed : Forest → Forest
  | leaf t plain rest =>
    match t.kind.suffix? with
    | some _ => rest.unsuffixed
    | none => leaf t plain rest
  | f => f

/-- Whether a level holds suffixes and nothing else. -/
def isSuffixes : Forest → Bool
  | nil => true
  | leaf t _ rest => t.kind.suffix?.isSome && rest.isSuffixes
  | group .. => false

/-- Whether a level starts with a method call on nothing: a suffix or an atom with a dot in front. -/
def isChain : Forest → Bool
  | leaf t _ _ => t.kind.suffix?.isSome || t.kind = .atom && ['.'].isPrefixOf t.value
  | _ => false

/-- The name that a level refers to, with the calls behind it, if it is a symbol reference followed by
nothing but suffixes. -/
def reference? : Forest → Option Text
  | leaf t _ rest =>
    if t.kind = .atom ∧ referenceMark <+: t.value ∧ rest.isSuffixes then
      some (t.value.drop 2 ++ rest.suffixes.flatMap Suffix.call)
    else none
  | _ => none

/-- What stands before and after the first arrow of a level, if it has one. -/
def arrow? : Forest → Option (Forest × Forest)
  | nil => none
  | leaf t plain rest =>
    if t.kind = .arrow then some (nil, rest)
    else rest.arrow?.map fun (params, body) => (leaf t plain params, body)
  | group g opener opens inner closer closes rest =>
    rest.arrow?.map fun (params, body) => (group g opener opens inner closer closes params, body)

end Forest

namespace Fragment

/-- A fragment with the calls of suffixes behind it. -/
def call (f : Fragment) : List Suffix → Fragment
  | [] => f
  | s :: ss => ⟨f.text ++ (s :: ss).flatMap Suffix.call, none⟩

@[simp] theorem call_nil (f : Fragment) : f.call [] = f := rfl

/-- Calls are written one behind the other. -/
@[simp] theorem text_call (f : Fragment) (ss : List Suffix) :
    (f.call ss).text = f.text ++ ss.flatMap Suffix.call := by
  cases ss <;> simp [call]

theorem call_call (f : Fragment) (s : Suffix) (ss : List Suffix) :
    (⟨f.text ++ s.call, none⟩ : Fragment).call ss = f.call (s :: ss) := by
  cases ss <;> simp [call]

variable {t : Token}

theorem addLeaf_of_not_suffix (h : t.kind.suffix? = none) (level : List Fragment) :
    addLeaf level t = level ++ [⟨t.leading ++ t.value, some t.kind⟩] := by
  unfold addLeaf
  split
  · rename_i s hs
    exact absurd hs (TokenKind.suffix?_eq_none.mp h s)
  · rfl

theorem addLeaf_nil_of_suffix {s : Suffix} (h : t.kind.suffix? = some s) :
    addLeaf [] t = [⟨t.leading ++ s.call, none⟩] := by
  simp [addLeaf, TokenKind.suffix?_eq_some.mp h]

theorem addLeaf_singleton_of_suffix {s : Suffix} (h : t.kind.suffix? = some s) {f : Fragment}
    (hf : f.isArrow = false) : addLeaf [f] t = [⟨f.text ++ s.call, none⟩] := by
  have hkind : ¬ f.kind = some .arrow := by simpa [isArrow] using hf
  simp [addLeaf, TokenKind.suffix?_eq_some.mp h, hkind]

theorem addLeaf_ne_nil (level : List Fragment) (t : Token) : addLeaf level t ≠ [] := by
  unfold addLeaf
  split
  · split
    · simp
    · split <;> simp
  · simp

/-- A leaf is added to the newest fragment, whatever is before it. -/
theorem addLeaf_append (level : List Fragment) {newer : List Fragment} (h : newer ≠ []) (t : Token) :
    addLeaf (level ++ newer) t = level ++ addLeaf newer t := by
  have hlast : (level ++ newer).getLast? = newer.getLast? := by
    rw [List.getLast?_append, List.getLast?_eq_some_getLast h, Option.some_or]
  have hinit : (level ++ newer).dropLast = level ++ newer.dropLast := List.dropLast_append_of_ne_nil h
  unfold addLeaf
  rw [hlast, hinit]
  split
  · rw [List.getLast?_eq_some_getLast h]
    dsimp only
    split <;> rw [List.append_assoc]
  · rw [List.append_assoc]

/-- Behind an arrow, a leaf starts a fragment of its own. -/
theorem addLeaf_arrow (level : List Fragment) {f : Fragment} (hf : f.isArrow = true) (t : Token) :
    addLeaf (level ++ [f]) t = level ++ f :: addLeaf [] t := by
  have hkind : f.kind = some .arrow := by simpa [isArrow] using hf
  cases hs : t.kind.suffix? with
  | none => simp [addLeaf_of_not_suffix hs]
  | some s => simp [addLeaf, TokenKind.suffix?_eq_some.mp hs, hkind]

end Fragment

namespace Forest

open Fragment

theorem isSuffixes_iff {f : Forest} : f.isSuffixes = true ↔ f.unsuffixed = nil := by
  induction f with
  | nil => exact iff_of_true rfl rfl
  | group => exact iff_of_false nofun nofun
  | leaf t plain rest ih =>
    cases hs : t.kind.suffix? with
    | none => simp [isSuffixes, unsuffixed, hs]
    | some s => simp [isSuffixes, unsuffixed, hs, ih]

/-- What a forest adds to a level depends on its newest fragment alone. -/
theorem onto_append (f : Forest) (level : List Fragment) {newer : List Fragment} (h : newer ≠ []) :
    f.onto (level ++ newer) = level ++ f.onto newer := by
  -- Only the newest fragment ever changes, and what is older stays in front of it.
  induction f generalizing newer with
  | nil => rfl
  | leaf t plain rest ih =>
    rw [onto, onto, addLeaf_append level h]
    exact ih (addLeaf_ne_nil newer t)
  | group g opener opens inner closer closes rest _ ih =>
    rw [onto, onto, List.append_assoc]
    exact ih (by simp)

theorem onto_of_suffixes_nil {f : Forest} (h : f.suffixes = []) (level : List Fragment) :
    f.onto level = level ++ f.fragments := by
  cases f with
  | nil => exact (List.append_nil level).symm
  | group g opener opens inner closer closes rest => exact rest.onto_append level (List.cons_ne_nil _ _)
  | leaf t plain rest =>
    have hs : t.kind.suffix? = none := by
      cases hs : t.kind.suffix? with
      | none => rfl
      | some s => simp [suffixes, hs] at h
    rw [onto, fragments, onto, addLeaf_of_not_suffix hs, addLeaf_of_not_suffix hs]
    exact rest.onto_append level (List.cons_ne_nil _ _)

/-- On a level of one fragment, the suffixes in front call it and the rest follows. -/
theorem onto_singleton (f : Forest) {first : Fragment} (h : first.isArrow = false) :
    f.onto [first] = first.call f.suffixes :: f.unsuffixed.fragments := by
  -- The suffixes at the start go to the fragment in front of them, and the first other item ends that.
  induction f generalizing first with
  | nil => rfl
  | group => exact onto_of_suffixes_nil rfl [first]
  | leaf t plain rest ih =>
    cases hs : t.kind.suffix? with
    | none =>
      have hnone : (leaf t plain rest).suffixes = [] := by simp [suffixes, hs]
      have hall : (leaf t plain rest).unsuffixed = leaf t plain rest := by simp [unsuffixed, hs]
      rw [hnone, hall]
      exact onto_of_suffixes_nil hnone [first]
    | some s =>
      rw [onto, addLeaf_singleton_of_suffix hs h, ih rfl, call_call]
      simp [suffixes, unsuffixed, hs]

/-- Behind an arrow, a forest stands as it does alone. -/
theorem onto_arrow (f : Forest) (level : List Fragment) {arrow : Fragment} (h : arrow.isArrow = true) :
    f.onto (level ++ [arrow]) = level ++ arrow :: f.fragments := by
  cases f with
  | nil => rfl
  | leaf t plain rest =>
    have hmore := rest.onto_append (level ++ [arrow]) (addLeaf_ne_nil [] t)
    rw [onto, addLeaf_arrow level h, fragments, onto]
    simpa using hmore
  | group g opener opens inner closer closes rest =>
    have hmore := onto_of_suffixes_nil (f := group g opener opens inner closer closes rest) rfl
      (level ++ [arrow])
    simpa using hmore

variable {t : Token} {plain : t.kind.isDelimiter = false} {rest : Forest}

/-- A leaf takes the suffixes behind it. -/
theorem fragments_leaf (hs : t.kind.suffix? = none) (ha : t.kind ≠ .arrow) :
    (leaf t plain rest).fragments =
      Fragment.call ⟨t.leading ++ t.value, some t.kind⟩ rest.suffixes :: rest.unsuffixed.fragments := by
  rw [fragments, onto, addLeaf_of_not_suffix hs]
  exact rest.onto_singleton (by simpa [isArrow] using ha)

theorem fragments_suffix {s : Suffix} (hs : t.kind.suffix? = some s) :
    (leaf t plain rest).fragments =
      Fragment.call ⟨t.leading ++ s.call, none⟩ rest.suffixes :: rest.unsuffixed.fragments := by
  rw [fragments, onto, addLeaf_nil_of_suffix hs]
  exact rest.onto_singleton rfl

theorem fragments_arrow (ha : t.kind = .arrow) :
    (leaf t plain rest).fragments = ⟨t.leading ++ t.value, some .arrow⟩ :: rest.fragments := by
  have hs : t.kind.suffix? = none := by rw [ha]; rfl
  rw [fragments, onto, addLeaf_of_not_suffix hs, ha]
  exact rest.onto_arrow [] rfl

/-- A group becomes one fragment, which takes the suffixes behind it. -/
theorem fragments_group (g : Group) (opener : Token) (opens : opener.kind = .opener g) (inner : Forest)
    (closer : Token) (closes : closer.kind = .closer g.closer) (rest : Forest) :
    (group g opener opens inner closer closes rest).fragments =
      Fragment.call ⟨opener.leading ++ g.desugar inner.fragments closer.leading, none⟩ rest.suffixes ::
        rest.unsuffixed.fragments :=
  rest.onto_singleton rfl

theorem fragments_ne_nil {f : Forest} (h : f ≠ nil) : f.fragments ≠ [] := by
  cases f with
  | nil => exact absurd rfl h
  | group g opener opens inner closer closes rest =>
    rw [fragments_group]
    exact List.cons_ne_nil _ _
  | leaf t plain rest =>
    cases hs : t.kind.suffix? with
    | some s =>
      rw [fragments_suffix hs]
      exact List.cons_ne_nil _ _
    | none =>
      by_cases ha : t.kind = .arrow
      · rw [fragments_arrow ha]
        exact List.cons_ne_nil _ _
      · rw [fragments_leaf hs ha]
        exact List.cons_ne_nil _ _

end Forest

theorem Text.trimStart_append {b : Text} {c : Char} (hb : ∀ d ∈ b, isBlank d = true) (hc : isBlank c = false)
    (t : Text) : trimStart (b ++ c :: t) = c :: t := by
  rw [trimStart, List.dropWhile_append_of_pos hb, List.dropWhile_cons_of_neg (by simp [hc])]

/-- In front of a token that was read there are only the blanks that it keeps. -/
theorem Token.Spelled.trimStart {t : Token} (h : t.Spelled) (more : Text) :
    Text.trimStart (t.leading ++ t.value ++ more) = t.value ++ more := by
  obtain ⟨c, rest, hvalue, hc⟩ := h.spells.exists_head
  rw [hvalue, List.append_assoc]
  exact Text.trimStart_append h.blank hc (rest ++ more)

theorem Suffix.exists_call (ss : List Suffix) :
    ss.flatMap Suffix.call = [] ∨ ∃ rest, ss.flatMap Suffix.call = '.' :: rest := by
  cases ss with
  | nil => exact .inl rfl
  | cons s ss => cases s <;> exact .inr ⟨_, rfl⟩

theorem Suffix.not_blank_call (ss : List Suffix) : ∀ c ∈ ss.flatMap Suffix.call, isBlank c = false := by
  intro c hc
  obtain ⟨s, -, hcs⟩ := List.mem_flatMap.mp hc
  have hall : ∀ c ∈ s.call, isBlank c = false := Rule.not_blank_of_all (by cases s <;> decide)
  exact hall c hcs

namespace Group

open Fragment

/-- Whatever a group becomes starts with a bracket. -/
theorem exists_desugar (g : Group) (fs : List Fragment) (tail : Text) :
    ∃ (closer : Closer) (rest : Text), g.desugar fs tail = closer.opening :: rest := by
  have hblock (params body : Text) : ∃ (closer : Closer) (rest : Text),
      blockText params body = closer.opening :: rest := ⟨.brace, _, rfl⟩
  cases g with
  | index | map | array => exact ⟨.bracket, _, rfl⟩
  | paren =>
    rw [desugar, desugarParen]
    split
    · exact hblock _ _
    · split
      · exact hblock _ _
      · split
        · exact hblock _ _
        · exact ⟨.paren, _, rfl⟩
  | block =>
    rw [desugar, desugarBlock]
    split
    · exact hblock _ _
    · split
      · split <;> exact hblock _ _
      · exact hblock _ _

/-- A level is a chain exactly if the first character of its text is a dot. -/
theorem isMethodChain_cons {f : Fragment} {c : Char} {t : Text} (h : f.text.trimStart = c :: t)
    (fs : List Fragment) : isMethodChain (f :: fs) = ('.' == c) := by
  rw [isMethodChain, h]
  exact Bool.and_true _

theorem symbolRef?_singleton (f : Fragment) :
    symbolRef? [f] = if referenceMark <+: f.text.trimStart then some (f.text.trim.drop 2) else none := by
  simp only [symbolRef?, List.isPrefixOf_iff_prefix]
  rfl

/-- What does not start with the mark of a reference is none. -/
theorem symbolRef?_of_head {f : Fragment} {c : Char} {t : Text} (h : f.text.trimStart = c :: t) (hc : c ≠ '&')
    (fs : List Fragment) : symbolRef? (f :: fs) = none := by
  cases fs with
  | nil =>
    rw [symbolRef?_singleton, h, if_neg]
    intro hp
    exact hc (List.cons_prefix_cons.mp hp).1.symm
  | cons => rfl

end Group

namespace Forest

open Fragment

variable {t : Token}

/-- The text of a group with its calls starts with a bracket. -/
theorem front_group (g : Group) {opener : Token} (h : opener.Spelled) (fs : List Fragment) (tail : Text)
    (ss : List Suffix) : ∃ (closer : Closer) (rest : Text),
      Text.trimStart (Fragment.call ⟨opener.leading ++ g.desugar fs tail, none⟩ ss).text =
        closer.opening :: rest := by
  obtain ⟨closer, rest, htext⟩ := g.exists_desugar fs tail
  have hsolid : isBlank closer.opening = false := by cases closer <;> decide
  refine ⟨closer, rest ++ ss.flatMap Suffix.call, ?_⟩
  rw [text_call, htext, List.append_assoc]
  exact Text.trimStart_append h.blank hsolid _

/-- A suffix that stands alone starts with a dot. -/
theorem front_suffix (h : t.Spelled) (s : Suffix) (ss : List Suffix) :
    ∃ rest, Text.trimStart (Fragment.call ⟨t.leading ++ s.call, none⟩ ss).text = '.' :: rest := by
  obtain ⟨rest, hcall⟩ : ∃ rest, s.call = '.' :: rest := by cases s <;> exact ⟨_, rfl⟩
  refine ⟨rest ++ ss.flatMap Suffix.call, ?_⟩
  rw [text_call, hcall, List.append_assoc]
  exact Text.trimStart_append h.blank (by decide) _

/-- A parenthesised group is a method chain exactly if its first item is a suffix or an atom with a dot in
front. -/
theorem isMethodChain_fragments {f : Forest} (hf : ∀ t ∈ f.tokens, t.Spelled) :
    Group.isMethodChain f.fragments = f.isChain := by
  cases f with
  | nil => rfl
  | group g opener opens inner closer closes rest =>
    obtain ⟨hopener, -⟩ := List.forall_mem_cons.mp hf
    obtain ⟨shape, text, hfront⟩ := front_group g hopener inner.fragments closer.leading rest.suffixes
    rw [fragments_group, Group.isMethodChain_cons hfront]
    cases shape <;> rfl
  | leaf t plain rest =>
    obtain ⟨ht, -⟩ := List.forall_mem_cons.mp hf
    cases hs : t.kind.suffix? with
    | some s =>
      obtain ⟨text, hfront⟩ := front_suffix ht s rest.suffixes
      rw [fragments_suffix hs, Group.isMethodChain_cons hfront]
      simp [isChain, hs]
    | none =>
      obtain ⟨c, v, hvalue, -⟩ := ht.spells.exists_head
      have hfront (more : Text) : Text.trimStart (t.leading ++ t.value ++ more) = c :: (v ++ more) := by
        rw [ht.trimStart, hvalue]
        rfl
      have hdot : ('.' == c) = (leaf t plain rest).isChain := by
        have hatom : '.' = c → t.kind = .atom := by
          rintro rfl
          exact ht.spells.atom_of_dot ⟨v, hvalue.symm⟩
        rw [isChain, hs, hvalue, Bool.eq_iff_iff]
        simpa [List.isPrefixOf] using hatom
      by_cases ha : t.kind = .arrow
      · have hplain := hfront []
        rw [List.append_nil] at hplain
        rw [fragments_arrow ha, Group.isMethodChain_cons hplain, hdot]
      · rw [fragments_leaf hs ha, Group.isMethodChain_cons (by rw [text_call]; exact hfront _), hdot]

/-- Calls behind a token do not make it a reference, and do not hide that it is one. -/
theorem reference_iff (h : t.Spelled) (ss : List Suffix) :
    referenceMark <+: t.value ++ ss.flatMap Suffix.call ↔ t.kind = .atom ∧ referenceMark <+: t.value := by
  constructor
  · intro hp
    have hvalue : referenceMark <+: t.value := by
      obtain ⟨c, v, hvalue, -⟩ := h.spells.exists_head
      rw [hvalue] at hp ⊢
      obtain ⟨rfl, hcolon⟩ := List.cons_prefix_cons.mp hp
      cases v with
      | cons d v =>
        obtain ⟨rfl, -⟩ := List.cons_prefix_cons.mp hcolon
        exact ⟨v, rfl⟩
      | nil =>
        rcases Suffix.exists_call ss with hnone | ⟨rest, hdot⟩
        · rw [hnone] at hcolon
          exact absurd hcolon.length_le (by decide)
        · rw [hdot] at hcolon
          obtain ⟨hclash, -⟩ := List.cons_prefix_cons.mp hcolon
          cases hclash
    exact ⟨h.spells.atom_of_reference hvalue, hvalue⟩
  · rintro ⟨-, hp⟩
    exact hp.trans (List.prefix_append _ _)

/-- The name that a reference with calls refers to. -/
theorem symbolRef?_call (h : t.Spelled) (kind : Option TokenKind) (ss : List Suffix) :
    Group.symbolRef? [Fragment.call ⟨t.leading ++ t.value, kind⟩ ss] =
      if t.kind = .atom ∧ referenceMark <+: t.value then some (t.value.drop 2 ++ ss.flatMap Suffix.call)
      else none := by
  rw [Group.symbolRef?_singleton, text_call, h.trimStart]
  by_cases hreference : t.kind = .atom ∧ referenceMark <+: t.value
  · obtain ⟨hatom, hp⟩ := hreference
    have hname : Rule.IsName t.value := (hatom ▸ h.spells).name
    have hsolid : ∀ c ∈ t.value ++ ss.flatMap Suffix.call, isBlank c = false :=
      List.forall_mem_append.mpr ⟨hname.not_blank, Suffix.not_blank_call ss⟩
    have htrim : Text.trim (t.leading ++ t.value ++ ss.flatMap Suffix.call) =
        t.value ++ ss.flatMap Suffix.call := by
      rw [List.append_assoc]
      exact Text.trim_append h.blank hsolid
    have hlength : 2 ≤ t.value.length := hp.length_le
    rw [if_pos ((reference_iff h ss).mpr ⟨hatom, hp⟩), if_pos ⟨hatom, hp⟩, htrim,
      List.drop_append_of_le_length hlength]
  · have hnot : ¬ referenceMark <+: t.value ++ ss.flatMap Suffix.call :=
      fun hp => hreference ((reference_iff h ss).mp hp)
    rw [if_neg hnot, if_neg hreference]

/-- A parenthesised group is a symbol reference exactly if its items are an atom with `&:` in front and
nothing but suffixes behind it. -/
theorem symbolRef?_fragments {f : Forest} (hf : ∀ t ∈ f.tokens, t.Spelled) :
    Group.symbolRef? f.fragments = f.reference? := by
  cases f with
  | nil => rfl
  | group g opener opens inner closer closes rest =>
    obtain ⟨hopener, -⟩ := List.forall_mem_cons.mp hf
    obtain ⟨shape, text, hfront⟩ := front_group g hopener inner.fragments closer.leading rest.suffixes
    have hand : shape.opening ≠ '&' := by cases shape <;> decide
    rw [fragments_group, Group.symbolRef?_of_head hfront hand]
    rfl
  | leaf t plain rest =>
    obtain ⟨ht, -⟩ := List.forall_mem_cons.mp hf
    have hnone (h : t.kind ≠ .atom) : (leaf t plain rest).reference? = none := if_neg fun hall => h hall.1
    cases hs : t.kind.suffix? with
    | some s =>
      obtain ⟨text, hfront⟩ := front_suffix ht s rest.suffixes
      rw [fragments_suffix hs, Group.symbolRef?_of_head hfront (by decide), hnone]
      intro hatom
      rw [hatom] at hs
      cases hs
    | none =>
      by_cases ha : t.kind = .arrow
      · have hvalue : t.value = "->".toList := (ha ▸ ht.spells).eq_arrow
        have hfront : Text.trimStart (t.leading ++ t.value) = '-' :: ['>'] := by
          rw [hvalue]
          exact Text.trimStart_append ht.blank (by decide) ['>']
        rw [fragments_arrow ha, Group.symbolRef?_of_head hfront (by decide), hnone]
        rw [ha]
        exact nofun
      · -- A symbol reference is one fragment, so what follows the first token must join that.
        cases hr : rest.isSuffixes with
        | true =>
          have hone : (leaf t plain rest).fragments =
              [Fragment.call ⟨t.leading ++ t.value, some t.kind⟩ rest.suffixes] := by
            rw [fragments_leaf hs ha, isSuffixes_iff.mp hr]
            rfl
          rw [hone, symbolRef?_call ht]
          simp [reference?, hr]
        | false =>
          have hmore : rest.unsuffixed.fragments ≠ [] := by
            apply fragments_ne_nil
            intro hnil
            rw [isSuffixes_iff.mpr hnil] at hr
            cases hr
          obtain ⟨second, others, hcons⟩ := List.exists_cons_of_ne_nil hmore
          rw [fragments_leaf hs ha, hcons]
          simp [Group.symbolRef?, reference?, hr]

end Forest

namespace Fragment

theorem splitArrow?_append {level : List Fragment} (h : ∀ f ∈ level, f.isArrow = false) {arrow : Fragment}
    (ha : arrow.isArrow = true) (body : List Fragment) :
    splitArrow? (level ++ arrow :: body) = some (level, body) := by
  have hall : ∀ f ∈ level, (!f.isArrow) = true := fun f hf => by rw [h f hf]; rfl
  rw [splitArrow?, List.dropWhile_append_of_pos hall, List.takeWhile_append_of_pos hall]
  simp [ha]

theorem splitArrow?_of_none {level : List Fragment} (h : ∀ f ∈ level, f.isArrow = false) :
    splitArrow? level = none := by
  have hdrop : level.dropWhile (!·.isArrow) = [] := List.dropWhile_eq_nil_iff.mpr (by simpa using h)
  rw [splitArrow?, hdrop]

theorem isArrow_addLeaf {level : List Fragment} (h : ∀ f ∈ level, f.isArrow = false) {t : Token}
    (ha : t.kind ≠ .arrow) : ∀ f ∈ addLeaf level t, f.isArrow = false := by
  cases hs : t.kind.suffix? with
  | none =>
    rw [addLeaf_of_not_suffix hs]
    exact List.forall_mem_append.mpr ⟨h, by simpa [isArrow] using ha⟩
  | some s =>
    by_cases hlevel : level = []
    · rw [hlevel, addLeaf_nil_of_suffix hs]
      simp [isArrow]
    · obtain ⟨older, last, rfl⟩ : ∃ older last, level = older ++ [last] :=
        ⟨_, _, (List.dropLast_concat_getLast hlevel).symm⟩
      obtain ⟨holder, hlast⟩ := List.forall_mem_append.mp h
      rw [addLeaf_append older (List.cons_ne_nil _ _), addLeaf_singleton_of_suffix hs (hlast last (by simp))]
      exact List.forall_mem_append.mpr ⟨holder, by simp [isArrow]⟩

end Fragment

namespace Forest

/-- The first arrow of the fragments is that of the items. -/
theorem splitArrow?_onto (f : Forest) {level : List Fragment} (h : ∀ f ∈ level, f.isArrow = false) :
    Fragment.splitArrow? (f.onto level) =
      f.arrow?.map fun (params, body) => (params.onto level, body.fragments) := by
  -- Up to the first arrow the level holds none; from there on the fragments are those of the rest alone.
  induction f generalizing level with
  | nil => exact Fragment.splitArrow?_of_none h
  | group g opener opens inner closer closes rest _ ih =>
    have hgroup : ∀ f ∈ level ++ [⟨opener.leading ++ g.desugar (inner.onto []) closer.leading, none⟩],
        f.isArrow = false := List.forall_mem_append.mpr ⟨h, by simp [Fragment.isArrow]⟩
    rw [onto, ih hgroup, arrow?, Option.map_map]
    rfl
  | leaf t plain rest ih =>
    by_cases ha : t.kind = .arrow
    · have hs : t.kind.suffix? = none := by rw [ha]; rfl
      have harrow : Fragment.isArrow ⟨t.leading ++ t.value, some t.kind⟩ = true := by
        simp [Fragment.isArrow, ha]
      rw [onto, Fragment.addLeaf_of_not_suffix hs, rest.onto_arrow level harrow,
        Fragment.splitArrow?_append h harrow, arrow?, if_pos ha]
      rfl
    · rw [onto, ih (Fragment.isArrow_addLeaf h ha), arrow?, if_neg ha, Option.map_map]
      rfl

/-- A level is split at its first arrow token, whatever arrows the groups on it hold. -/
theorem splitArrow?_fragments (f : Forest) :
    Fragment.splitArrow? f.fragments =
      f.arrow?.map fun (params, body) => (params.fragments, body.fragments) :=
  f.splitArrow?_onto nofun

/-- A level without an arrow among its items has none. -/
theorem arrow?_eq_none {f : Forest} : f.arrow? = none ↔ ∀ t, .token t ∈ f.items → t.kind ≠ .arrow := by
  induction f with
  | nil => simp [arrow?, items]
  | group => simpa [arrow?, items]
  | leaf t plain rest ih =>
    by_cases ha : t.kind = .arrow
    · simp [arrow?, items, ha]
    · simpa [arrow?, items, ha] using ih

/-- What becomes of a parenthesised group, by the items directly in it. -/
theorem desugarParen_fragments {f : Forest} (hf : ∀ t ∈ f.tokens, t.Spelled) (tail : Text) :
    Group.desugarParen f.fragments tail =
      if f.isChain then blockText implicitParam (implicitParam ++ Fragment.trimmed f.fragments)
      else match f.reference? with
        | some name => blockText implicitParam (implicitParam ++ '.' :: name)
        | none =>
          match f.arrow? with
          | some (params, body) =>
            blockText (Fragment.trimmed params.fragments) (Fragment.trimmed body.fragments)
          | none => '(' :: Fragment.concat f.fragments ++ tail ++ [')'] := by
  rw [Group.desugarParen, isMethodChain_fragments hf, symbolRef?_fragments hf, splitArrow?_fragments]
  cases f.arrow? <;> rfl

end Forest

end Shorthand
