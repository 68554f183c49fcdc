import Shorthand.Proofs.Items

/-! The choice of the sugar. What a group is rewritten to is decided by what stands directly in it: its
first item, whether it is one token alone, and where its first arrow stands. What the groups among its items
hold makes no difference. Main statement: `expand_rewrites`. -/
namespace Shorthand

/-- What becomes of a closed group. -/
inductive Rewrite where
  /-- A block that calls the level on its parameter. -/
  | chain
  /-- A block that calls a name on its parameter. -/
  | reference (name : Text)
  /-- A block with what stands before an arrow as parameters and what stands behind it as body. -/
  | split (params body : List Fragment)
  /-- A block that dispatches on a name. -/
  | dispatch (name : Text)
  /-- A block with the whole level as its body. -/
  | whole
  /-- A list with an element for each fragment. -/
  | list
  /-- The level as it is, between its delimiters. -/
  | plain
deriving DecidableEq

namespace Group

open Fragment

def rewrite : Group → List Fragment → Rewrite
  | .paren, fs =>
    if isMethodChain fs then .chain
    else match symbolRef? fs with
      | some name => .reference name
      | none =>
        match splitArrow? fs with
        | some (params, body) => .split params body
        | none => .plain
  | .block, fs =>
    match loneAtom? fs with
    | some name => .dispatch name
    | none =>
      match splitArrow? fs with
      | some (params, body) => .split params body
      | none => .whole
  | .index, _ => .plain
  | .map, _ | .array, _ => .list

/-- The parameters of a block: those written, and in front of them the implicit one if braces stand around
the block. -/
def parameters (g : Group) (written : Text) : Text :=
  if g = .block then implicitParam ++ if written = [] then [] else ", ".toList ++ written else written

end Group

open Fragment in
/-- The text that a group with fragments `fs` and the blanks `tail` in front of its closer is rewritten to. -/
def Rewrite.text (g : Group) (fs : List Fragment) (tail : Text) : Rewrite → Text
  | .chain => blockText implicitParam (implicitParam ++ trimmed fs)
  | .reference name => blockText implicitParam (implicitParam ++ '.' :: name)
  | .split params body => blockText (g.parameters (trimmed params)) (trimmed body)
  | .dispatch name => blockText implicitParam (Group.dispatch name)
  | .whole => blockText implicitParam (trimmed fs)
  | .list => '[' :: elements fs ++ if g = .map then "].to_h".toList else [']']
  | .plain => g.opening ++ concat fs ++ tail ++ [g.closer.char]

/-- The rewriting of a group, in two steps: its form is chosen and the form is written. -/
theorem Group.desugar_eq_text (g : Group) (fs : List Fragment) (tail : Text) :
    g.desugar fs tail = (g.rewrite fs).text g fs tail := by
  cases g with
  | index => simp [desugar, rewrite, Rewrite.text, opening, closer, Closer.char]
  | map | array => simp [desugar, rewrite, Rewrite.text]
  | paren =>
    rw [desugar, desugarParen, rewrite]
    by_cases hchain : isMethodChain fs = true
    · rw [if_pos hchain, if_pos hchain]
      rfl
    · rw [if_neg hchain, if_neg hchain]
      cases symbolRef? fs with
      | some name => rfl
      | none =>
        cases Fragment.splitArrow? fs with
        | some split => simp [Rewrite.text, parameters]
        | none => simp [Rewrite.text, opening, closer, Closer.char]
  | block =>
    rw [desugar, desugarBlock, rewrite]
    cases loneAtom? fs with
    | some name => rfl
    | none =>
      cases Fragment.splitArrow? fs with
      | none => rfl
      | some split =>
        obtain ⟨params, body⟩ := split
        cases hparams : Fragment.trimmed params <;> simp [Rewrite.text, parameters, hparams]

namespace Forest

/-- The first item is a suffix or an atom with a dot in front; a group in front makes no chain. -/
def StartsChain (f : Forest) : Prop :=
  ∃ t, f.items.head? = some (.token t) ∧ (t.kind = .atom ∧ ['.'] <+: t.value ∨ ∃ s, t.kind = .suffix s)

/-- The items are an atom with `&:` in front and nothing but suffixes behind it; its name and their calls
make up `name`. -/
def RefersTo (f : Forest) (name : Text) : Prop :=
  ∃ (t : Token) (us : List Token) (ss : List Suffix), f.items = .token t :: us.map .token ∧
    t.kind = .atom ∧ "&:".toList <+: t.value ∧ us.map Token.kind = ss.map .suffix ∧
    name = t.value.drop 2 ++ ss.flatMap Suffix.call

/-- One of the items is an arrow. -/
def HasArrow (f : Forest) : Prop := ∃ t, .token t ∈ f.items ∧ t.kind = .arrow

/-- The only item is an atom. -/
def IsAtom (f : Forest) (t : Token) : Prop := f.items = [.token t] ∧ t.kind = .atom

/-- The first arrow of a level parts it into the levels `before` and `behind`. -/
structure SplitsAt (f before : Forest) (arrow : Token) (behind : Forest) : Prop where
  tokens : f.tokens = before.tokens ++ arrow :: behind.tokens
  arrow : arrow.kind = .arrow
  first : ¬ before.HasArrow

/-- The items of one level and then those of another. -/
def append : Forest → Forest → Forest
  | nil, f' => f'
  | leaf t plain rest, f' => leaf t plain (rest.append f')
  | group g opener opens inner closer closes rest, f' =>
    group g opener opens inner closer closes (rest.append f')

theorem tokens_append (f f' : Forest) : (f.append f').tokens = f.tokens ++ f'.tokens := by
  induction f with
  | nil => rfl
  | leaf t plain rest ih => rw [append, tokens, tokens, ih, List.cons_append]
  | group g opener opens inner closer closes rest _ ih => simp [append, tokens, ih]

theorem not_hasArrow_iff {f : Forest} : ¬ f.HasArrow ↔ f.arrow? = none := by
  rw [arrow?_eq_none]
  constructor
  · exact fun h t ht ha => h ⟨t, ht, ha⟩
  · rintro h ⟨t, ht, ha⟩
    exact h t ht ha

/-- The test for a chain looks at the first item alone. -/
theorem isChain_iff {f : Forest} : f.isChain = true ↔ f.StartsChain := by
  cases f with
  | nil => simp [isChain, StartsChain, items]
  | group => simp [isChain, StartsChain, items]
  | leaf t plain rest =>
    have hsuffix : t.kind.suffix?.isSome = true ↔ ∃ s, t.kind = .suffix s := by
      simp [Option.isSome_iff_exists, TokenKind.suffix?_eq_some]
    simp only [isChain, StartsChain, items, List.head?_cons, Option.some.injEq, Item.token.injEq,
      exists_eq_left', Bool.or_eq_true, Bool.and_eq_true, decide_eq_true_eq, List.isPrefixOf_iff_prefix,
      hsuffix]
    exact Or.comm

theorem isSuffixes_iff_items {f : Forest} {ss : List Suffix} : f.isSuffixes = true ∧ f.suffixes = ss ↔
    ∃ us : List Token, f.items = us.map .token ∧ us.map Token.kind = ss.map .suffix := by
  -- Item by item; anything but a suffix ends the run on both sides.
  induction f generalizing ss with
  | nil =>
    constructor
    · rintro ⟨-, rfl⟩
      exact ⟨[], rfl, rfl⟩
    · rintro ⟨us, hitems, hkinds⟩
      obtain rfl : us = [] := List.map_eq_nil_iff.mp hitems.symm
      obtain rfl : ss = [] := List.map_eq_nil_iff.mp hkinds.symm
      exact ⟨rfl, rfl⟩
  | group =>
    refine iff_of_false (by simp [isSuffixes]) ?_
    rintro ⟨us, hitems, -⟩
    cases us <;> cases hitems
  | leaf t plain rest ih =>
    constructor
    · rintro ⟨hall, rfl⟩
      rw [isSuffixes, Bool.and_eq_true] at hall
      obtain ⟨s, hs⟩ := Option.isSome_iff_exists.mp hall.1
      obtain ⟨us, hitems, hkinds⟩ := ih.mp ⟨hall.2, rfl⟩
      refine ⟨t :: us, by rw [items, hitems, List.map_cons], ?_⟩
      rw [suffixes, hs, List.map_cons, List.map_cons, hkinds, TokenKind.suffix?_eq_some.mp hs]
    · rintro ⟨us, hitems, hkinds⟩
      cases us with
      | nil => cases hitems
      | cons u us =>
        cases ss with
        | nil => cases hkinds
        | cons s ss =>
          obtain ⟨htoken, hrest⟩ := List.cons.inj hitems
          obtain ⟨hkind, hmore⟩ := List.cons.inj hkinds
          obtain rfl := Item.token.inj htoken
          obtain ⟨hall, rfl⟩ := ih.mpr ⟨us, hrest, hmore⟩
          simp [isSuffixes, suffixes, TokenKind.suffix?_eq_some.mpr hkind, hall]

/-- A level is read as a reference exactly if it is a reference with suffixes behind it. -/
theorem reference?_eq_some {f : Forest} {name : Text} : f.reference? = some name ↔ f.RefersTo name := by
  cases f with
  | nil => simp [reference?, RefersTo, items]
  | group => simp [reference?, RefersTo, items]
  | leaf t plain rest =>
    rw [reference?]
    constructor
    · intro h
      split at h
      · rename_i hall
        obtain ⟨hatom, hp, hr⟩ := hall
        obtain ⟨us, hitems, hkinds⟩ := isSuffixes_iff_items.mp ⟨hr, rfl⟩
        exact ⟨t, us, _, by rw [items, hitems], hatom, hp, hkinds, (Option.some.inj h).symm⟩
      · cases h
    · rintro ⟨u, us, ss, hitems, hatom, hp, hkinds, rfl⟩
      obtain ⟨htoken, hrest⟩ := List.cons.inj hitems
      obtain rfl := Item.token.inj htoken
      obtain ⟨hr, rfl⟩ := isSuffixes_iff_items.mpr ⟨us, hrest, hkinds⟩
      exact if_pos ⟨hatom, hp, hr⟩

theorem arrow?_append {before behind : Forest} {arrow : Token} {plain : arrow.kind.isDelimiter = false}
    (ha : arrow.kind = .arrow) (h : before.arrow? = none) :
    (before.append (leaf arrow plain behind)).arrow? = some (before, behind) := by
  induction before with
  | nil => simp [append, arrow?, ha]
  | leaf t plain' rest ih =>
    rw [arrow?] at h
    split at h
    · cases h
    · rename_i ht
      rw [append, arrow?, if_neg ht, ih (Option.map_eq_none_iff.mp h)]
      rfl
  | group g opener opens inner closer closes rest _ ih =>
    rw [arrow?] at h
    rw [append, arrow?, ih (Option.map_eq_none_iff.mp h)]
    rfl

theorem splitsAt_of_arrow? {f before behind : Forest} (h : f.arrow? = some (before, behind)) :
    ∃ arrow, f.SplitsAt before arrow behind := by
  -- What comes before the first arrow grows by each item that is passed; arrows inside groups do not count.
  induction f generalizing before with
  | nil => cases h
  | leaf t plain rest ih =>
    rw [arrow?] at h
    split at h
    · rename_i ha
      obtain ⟨rfl, rfl⟩ := Prod.mk.inj (Option.some.inj h)
      exact ⟨t, rfl, ha, not_hasArrow_iff.mpr rfl⟩
    · rename_i ht
      obtain ⟨⟨params, body⟩, hsplit, heq⟩ := Option.map_eq_some_iff.mp h
      obtain ⟨rfl, rfl⟩ := Prod.mk.inj heq
      obtain ⟨arrow, htokens, ha, hfirst⟩ := ih hsplit
      have hnone : (leaf t plain params).arrow? = none := by
        rw [arrow?, if_neg ht, not_hasArrow_iff.mp hfirst]
        rfl
      exact ⟨arrow, by rw [tokens, htokens]; rfl, ha, not_hasArrow_iff.mpr hnone⟩
  | group g opener opens inner closer closes rest _ ih =>
    obtain ⟨⟨params, body⟩, hsplit, heq⟩ := Option.map_eq_some_iff.mp h
    obtain ⟨rfl, rfl⟩ := Prod.mk.inj heq
    obtain ⟨arrow, htokens, ha, hfirst⟩ := ih hsplit
    have hnone : (group g opener opens inner closer closes params).arrow? = none := by
      rw [arrow?, not_hasArrow_iff.mp hfirst]
      rfl
    exact ⟨arrow, by simp [tokens, htokens], ha, not_hasArrow_iff.mpr hnone⟩

/-- The arrow that is found is the first one of the level. -/
theorem arrow?_eq_some {f before behind : Forest} :
    f.arrow? = some (before, behind) ↔ ∃ arrow, f.SplitsAt before arrow behind := by
  constructor
  · exact splitsAt_of_arrow?
  · rintro ⟨arrow, htokens, ha, hfirst⟩
    have plain : arrow.kind.isDelimiter = false := by rw [ha]; rfl
    obtain rfl : f = before.append (leaf arrow plain behind) := by
      apply tokens_injective
      rw [htokens, tokens_append]
      rfl
    exact arrow?_append ha (not_hasArrow_iff.mp hfirst)

/-- A level of tokens that were read is a lone atom exactly if an atom is its only item. -/
theorem loneAtom?_fragments {f : Forest} (hf : ∀ t ∈ f.tokens, t.Spelled) {name : Text} :
    Group.loneAtom? f.fragments = some name ↔ ∃ t, f.IsAtom t ∧ name = t.value := by
  rcases dispatched_cases .block f with ⟨t, plain, -, rfl, ha⟩ | ⟨hnone, hlone⟩
  · obtain ⟨ht, -⟩ := List.forall_mem_cons.mp hf
    have htrim : (t.leading ++ t.value).trim = t.value :=
      Text.trim_append ht.blank (ha ▸ ht.spells).name.not_blank
    have hname : Group.loneAtom? (leaf t plain nil).fragments = some t.value := by
      simp [fragments, onto, Fragment.addLeaf, ha, Group.loneAtom?, htrim]
    rw [hname, Option.some.injEq]
    constructor
    · rintro rfl
      exact ⟨t, ⟨rfl, ha⟩, rfl⟩
    · rintro ⟨u, ⟨hitems, -⟩, rfl⟩
      rw [Item.token.inj (List.cons.inj hitems).1]
  · rw [hlone rfl]
    refine iff_of_false (by simp) ?_
    rintro ⟨t, ⟨hitems, ha⟩, -⟩
    cases f with
    | nil => cases hitems
    | group => cases hitems
    | leaf u plain rest =>
      cases rest with
      | nil =>
        obtain rfl := Item.token.inj (List.cons.inj hitems).1
        simp [dispatched, ha] at hnone
      | leaf => cases hitems
      | group => cases hitems

/-- The tokens inside a group at any depth are tokens of the forest. -/
theorem mem_tokens_of_groups {f inner : Forest} {g : Group} (h : (g, inner) ∈ f.groups) :
    ∀ t ∈ inner.tokens, t ∈ f.tokens := by
  induction f with
  | nil => cases h
  | leaf t plain rest ih =>
    intro u hu
    exact List.mem_cons_of_mem t (ih h u hu)
  | group g' opener opens inner' closer closes rest ihi ihr =>
    intro u hu
    rw [groups, List.mem_cons, List.mem_append] at h
    rw [tokens, List.mem_cons, List.mem_append, List.mem_cons]
    rcases h with heq | hinner | hrest
    · obtain ⟨rfl, rfl⟩ := Prod.mk.inj heq
      exact .inr (.inl hu)
    · exact .inr (.inl (ihi hinner u hu))
    · exact .inr (.inr (.inr (ihr hrest u hu)))

/-- The fragments of the levels that the first arrow parts. -/
def Parts (f : Forest) (params body : List Fragment) : Prop :=
  ∃ before arrow behind, f.SplitsAt before arrow behind ∧ params = before.fragments ∧ body = behind.fragments

theorem parts_iff {f : Forest} {params body : List Fragment} : f.Parts params body ↔
    f.arrow?.map (fun (before, behind) => (before.fragments, behind.fragments)) = some (params, body) := by
  rw [Option.map_eq_some_iff]
  constructor
  · rintro ⟨before, arrow, behind, hsplit, rfl, rfl⟩
    exact ⟨(before, behind), arrow?_eq_some.mpr ⟨arrow, hsplit⟩, rfl⟩
  · rintro ⟨⟨before, behind⟩, h, heq⟩
    obtain ⟨rfl, rfl⟩ := Prod.mk.inj heq
    obtain ⟨arrow, hsplit⟩ := arrow?_eq_some.mp h
    exact ⟨before, arrow, behind, hsplit, rfl, rfl⟩

variable {f : Forest}

/-- What becomes of a parenthesised group, by its items. -/
theorem rewrite_paren (hf : ∀ t ∈ f.tokens, t.Spelled) : Group.paren.rewrite f.fragments =
    if f.isChain then .chain
    else match f.reference? with
      | some name => .reference name
      | none =>
        match f.arrow?.map fun (before, behind) => (before.fragments, behind.fragments) with
        | some (params, body) => .split params body
        | none => .plain := by
  rw [Group.rewrite, isMethodChain_fragments hf, symbolRef?_fragments hf, splitArrow?_fragments]
  rfl

/-- A parenthesised group becomes a chain exactly if it starts with a dot. -/
theorem rewrite_paren_eq_chain (hf : ∀ t ∈ f.tokens, t.Spelled) :
    Group.paren.rewrite f.fragments = .chain ↔ f.StartsChain := by
  rw [rewrite_paren hf, ← isChain_iff]
  -- Three answers about the items decide, and each combination of them is settled at once.
  cases f.isChain <;> cases f.reference? <;> cases f.arrow? <;> simp

/-- It becomes a reference exactly if it is one and does not start a chain. -/
theorem rewrite_paren_eq_reference (hf : ∀ t ∈ f.tokens, t.Spelled) {name : Text} :
    Group.paren.rewrite f.fragments = .reference name ↔ ¬ f.StartsChain ∧ f.RefersTo name := by
  rw [rewrite_paren hf, ← isChain_iff, ← reference?_eq_some]
  cases f.isChain <;> cases f.reference? <;> cases f.arrow? <;> simp

theorem not_refersTo_iff : (∀ name, ¬ f.RefersTo name) ↔ f.reference? = none := by
  simp only [← reference?_eq_some, Option.eq_none_iff_forall_ne_some]

/-- It becomes a lambda exactly if it has an arrow and is neither chain nor reference. -/
theorem rewrite_paren_eq_split (hf : ∀ t ∈ f.tokens, t.Spelled) {params body : List Fragment} :
    Group.paren.rewrite f.fragments = .split params body ↔
      ¬ f.StartsChain ∧ (∀ name, ¬ f.RefersTo name) ∧ f.Parts params body := by
  rw [rewrite_paren hf, ← isChain_iff, not_refersTo_iff, parts_iff]
  cases f.isChain <;> cases f.reference? <;> cases f.arrow? <;> simp

/-- It stays as it is in all other cases. -/
theorem rewrite_paren_eq_plain (hf : ∀ t ∈ f.tokens, t.Spelled) :
    Group.paren.rewrite f.fragments = .plain ↔
      ¬ f.StartsChain ∧ (∀ name, ¬ f.RefersTo name) ∧ ¬ f.HasArrow := by
  rw [rewrite_paren hf, ← isChain_iff, not_refersTo_iff, not_hasArrow_iff]
  cases f.isChain <;> cases f.reference? <;> cases f.arrow? <;> simp

/-- What becomes of braces, by their items. -/
theorem rewrite_block (f : Forest) : Group.block.rewrite f.fragments =
    match Group.loneAtom? f.fragments with
    | some name => .dispatch name
    | none =>
      match f.arrow?.map fun (before, behind) => (before.fragments, behind.fragments) with
      | some (params, body) => .split params body
      | none => .whole := by
  rw [Group.rewrite, splitArrow?_fragments]
  rfl

/-- A block becomes a dispatch exactly if an atom is its only item. -/
theorem rewrite_block_eq_dispatch (hf : ∀ t ∈ f.tokens, t.Spelled) {name : Text} :
    Group.block.rewrite f.fragments = .dispatch name ↔ ∃ t, f.IsAtom t ∧ name = t.value := by
  rw [rewrite_block, ← loneAtom?_fragments hf]
  cases Group.loneAtom? f.fragments <;> cases f.arrow? <;> simp

theorem not_isAtom_iff (hf : ∀ t ∈ f.tokens, t.Spelled) :
    (∀ t, ¬ f.IsAtom t) ↔ Group.loneAtom? f.fragments = none := by
  simp only [Option.eq_none_iff_forall_ne_some, ne_eq, loneAtom?_fragments hf]
  constructor
  · rintro h name ⟨t, ht, -⟩
    exact h t ht
  · exact fun h t ht => h t.value ⟨t, ht, rfl⟩

/-- It has parameters exactly if it has an arrow and is no lone atom. -/
theorem rewrite_block_eq_split (hf : ∀ t ∈ f.tokens, t.Spelled) {params body : List Fragment} :
    Group.block.rewrite f.fragments = .split params body ↔ (∀ t, ¬ f.IsAtom t) ∧ f.Parts params body := by
  rw [rewrite_block, not_isAtom_iff hf, parts_iff]
  cases Group.loneAtom? f.fragments <;> cases f.arrow? <;> simp

/-- It is a body alone in all other cases. -/
theorem rewrite_block_eq_whole (hf : ∀ t ∈ f.tokens, t.Spelled) :
    Group.block.rewrite f.fragments = .whole ↔ (∀ t, ¬ f.IsAtom t) ∧ ¬ f.HasArrow := by
  rw [rewrite_block, not_isAtom_iff hf, not_hasArrow_iff]
  cases Group.loneAtom? f.fragments <;> cases f.arrow? <;> simp

end Forest

/-- Each group of a text, at any depth, is rewritten as its own items say. Parentheses make a chain if the
first item is a suffix or an atom with a dot in front; otherwise a reference if the items are one and its
suffixes; otherwise, if one of the items is an arrow, a block split at the first; and else they stay. Braces
dispatch on an atom that is alone, and otherwise are split at their first arrow if they have one. -/
theorem expand_rewrites (t : Text) (file : Option FilePath) (f : Forest) (trailing : Text)
    (h : tokenize t file = .ok (f.tokens, trailing)) :
    expand t file = .ok (f.text ++ trailing) ∧
    (∀ g inner, (g, inner) ∈ f.groups → ∀ tail,
      g.desugar inner.fragments tail = (g.rewrite inner.fragments).text g inner.fragments tail) ∧
    (∀ inner, (Group.paren, inner) ∈ f.groups →
      (Group.paren.rewrite inner.fragments = .chain ↔ inner.StartsChain) ∧
      (∀ name, Group.paren.rewrite inner.fragments = .reference name ↔
        ¬ inner.StartsChain ∧ inner.RefersTo name) ∧
      (∀ params body, Group.paren.rewrite inner.fragments = .split params body ↔
        ¬ inner.StartsChain ∧ (∀ name, ¬ inner.RefersTo name) ∧ inner.Parts params body) ∧
      (Group.paren.rewrite inner.fragments = .plain ↔
        ¬ inner.StartsChain ∧ (∀ name, ¬ inner.RefersTo name) ∧ ¬ inner.HasArrow)) ∧
    ∀ inner, (Group.block, inner) ∈ f.groups →
      (∀ name, Group.block.rewrite inner.fragments = .dispatch name ↔
        ∃ u, inner.IsAtom u ∧ name = u.value) ∧
      (∀ params body, Group.block.rewrite inner.fragments = .split params body ↔
        (∀ u, ¬ inner.IsAtom u) ∧ inner.Parts params body) ∧
      (Group.block.rewrite inner.fragments = .whole ↔ (∀ u, ¬ inner.IsAtom u) ∧ ¬ inner.HasArrow) := by
  have hspelled (g : Group) (inner : Forest) (hg : (g, inner) ∈ f.groups) : ∀ u ∈ inner.tokens, u.Spelled :=
    fun u hu => spelled_of_tokenize h u (Forest.mem_tokens_of_groups hg u hu)
  have hexpand : expand t file = .ok (f.text ++ trailing) :=
    expand_eq_ok_iff.mpr ⟨f.tokens, trailing, f.text, h, f.expandTokens_tokens _, rfl⟩
  refine ⟨hexpand, fun g inner _ tail => g.desugar_eq_text inner.fragments tail, ?_, ?_⟩
  · intro inner hg
    have hinner := hspelled .paren inner hg
    exact ⟨Forest.rewrite_paren_eq_chain hinner, fun _ => Forest.rewrite_paren_eq_reference hinner,
      fun _ _ => Forest.rewrite_paren_eq_split hinner, Forest.rewrite_paren_eq_plain hinner⟩
  · intro inner hg
    have hinner := hspelled .block inner hg
    exact ⟨fun _ => Forest.rewrite_block_eq_dispatch hinner, fun _ _ => Forest.rewrite_block_eq_split hinner,
      Forest.rewrite_block_eq_whole hinner⟩

/-- The braces hold a chain only, so they dispatch on it; but they are a group, so the parentheses around
them are no chain and are split at the arrow behind them. -/
theorem expand_rewrites_braces :
    expand "(\x7b.a\x7d -> b)".toList none = .ok
      "\x7b|\x7b|it|it.respond_to?(:\".a\") ? it.send(:\".a\") : .a(it)\x7d|b\x7d".toList ∧
    ∃ f inner : Forest, tokenize "(\x7b.a\x7d -> b)".toList none = .ok (f.tokens, []) ∧
      (Group.paren, inner) ∈ f.groups ∧ ∃ params body,
        Group.paren.rewrite inner.fragments = .split params body ∧ Fragment.trimmed body = ['b'] := by
  let before : Forest := .group .block ⟨.opener .block, ['\x7b'], 1, 2, []⟩ rfl
    (.leaf ⟨.atom, ".a".toList, 1, 3, []⟩ rfl .nil) ⟨.closer .brace, ['\x7d'], 1, 5, []⟩ rfl .nil
  let behind : Forest := .leaf ⟨.atom, ['b'], 1, 10, [' ']⟩ rfl .nil
  let inner : Forest := before.append (.leaf ⟨.arrow, "->".toList, 1, 7, [' ']⟩ rfl behind)
  let written : Forest := .group .paren ⟨.opener .paren, ['('], 1, 1, []⟩ rfl inner
    ⟨.closer .paren, [')'], 1, 11, []⟩ rfl .nil
  have htokens : tokenize "(\x7b.a\x7d -> b)".toList none = .ok (written.tokens, []) := by decide +kernel
  have htext : written.text ++ [] =
      "\x7b|\x7b|it|it.respond_to?(:\".a\") ? it.send(:\".a\") : .a(it)\x7d|b\x7d".toList := by
    decide +kernel
  obtain ⟨hexpand, -, hparen, -⟩ := expand_rewrites _ none written [] htokens
  rw [htext] at hexpand
  have hinner : (Group.paren, inner) ∈ written.groups := List.mem_cons_self
  obtain ⟨-, -, hsplit, -⟩ := hparen inner hinner
  have hchain : ¬ inner.StartsChain := by
    rintro ⟨u, hu, -⟩
    simp [inner, before, Forest.append, Forest.items] at hu
  have hreference : ∀ name, ¬ inner.RefersTo name := by
    rintro name ⟨u, us, ss, hitems, -⟩
    simp [inner, before, Forest.append, Forest.items] at hitems
  have hfirst : ¬ before.HasArrow := by
    rintro ⟨u, hu, -⟩
    simp [before, Forest.items] at hu
  have hparts : inner.Parts before.fragments behind.fragments :=
    ⟨before, _, behind, ⟨rfl, rfl, hfirst⟩, rfl, rfl⟩
  exact ⟨hexpand, written, inner, htokens, hinner, _, _, (hsplit _ _).mpr ⟨hchain, hreference, hparts⟩,
    by decide⟩

end Shorthand
