import Shorthand.Proofs.Carry
import Shorthand.Proofs.Items

/-! Order under expansion. Each token of a text leaves its piece in the expansion, and the pieces stand
there one behind the other in the order of the tokens, whatever sugar adds between them and trims around
them. Main statement: `expand_inOrder`. -/
namespace Shorthand

/-- The pieces occur in a text one behind the other, none overlapping the next. -/
def Text.InOrder : List Text → Text → Prop
  | [], _ => True
  | piece :: pieces, t => ∃ before behind, t = before ++ piece ++ behind ∧ InOrder pieces behind

/-- What a token leaves in the expansion: the text of an atom, a literal or an operator, the call of a
suffix, and nothing of an arrow or a delimiter. A reference that is `alone` between parentheses loses its
mark. -/
def Token.pieces (alone : Bool) (t : Token) : List Text :=
  match t.kind with
  | .suffix s => [s.call]
  | .atom | .string | .operator =>
    [if alone ∧ referenceMark <+: t.value then t.value.drop 2 else t.value]
  | .arrow | .opener _ | .closer _ => []

/-- The tokens of a level in order, each with whether it is alone between parentheses: whether these stand
around the level and nothing but suffixes follows. -/
def Forest.marked (parenthesised : Bool) : Forest → List (Token × Bool)
  | nil => []
  | leaf t _ rest => (t, parenthesised && rest.isSuffixes) :: rest.marked false
  | group g opener _ inner closer _ rest =>
    (opener, false) :: (inner.marked (g = .paren) ++ (closer, false) :: rest.marked false)

def Forest.pieces (parenthesised : Bool) : Forest → List Text
  | nil => []
  | leaf t _ rest => t.pieces (parenthesised && rest.isSuffixes) ++ rest.pieces false
  | group g _ _ inner _ _ rest => inner.pieces (g = .paren) ++ rest.pieces false

namespace Text

namespace InOrder

variable {ps qs : List Text} {s t : Text}

theorem behind (h : InOrder ps t) (s : Text) : InOrder ps (s ++ t) := by
  cases ps with
  | nil => trivial
  | cons piece ps =>
    obtain ⟨before, rest, rfl, hrest⟩ := h
    exact ⟨s ++ before, rest, by simp, hrest⟩

/-- Two texts one behind the other show the pieces of the first and then those of the second. -/
theorem append (h : InOrder ps s) (h' : InOrder qs t) : InOrder (ps ++ qs) (s ++ t) := by
  induction ps generalizing s with
  | nil => exact h'.behind s
  | cons piece ps ih =>
    obtain ⟨before, rest, rfl, hrest⟩ := h
    exact ⟨before, rest ++ t, by simp, ih hrest⟩

end InOrder

/-- A piece that trimming cannot touch. -/
structure Solid (piece : Text) : Prop where
  first : ∀ c ∈ piece.head?, isBlank c = false
  last : ∀ c ∈ piece.getLast?, isBlank c = false

theorem solid_of_not_blank {piece : Text} (h : ∀ c ∈ piece, isBlank c = false) : Solid piece :=
  ⟨fun c hc => h c (List.mem_of_mem_head? hc), fun c hc => h c (List.mem_of_mem_getLast? hc)⟩

theorem solid_of_all {piece : Text} (h : piece.all (!isBlank ·) = true) : Solid piece :=
  solid_of_not_blank (Rule.not_blank_of_all h)

structure Shows (t : Text) (ps : List Text) : Prop where
  inOrder : InOrder ps t
  solid : ∀ piece ∈ ps, Solid piece

namespace Shows

variable {ps qs : List Text} {s t : Text} {c : Char}

theorem nil (t : Text) : Shows t [] := ⟨trivial, nofun⟩

theorem single {piece : Text} (h : Solid piece) : Shows piece [piece] :=
  ⟨⟨[], [], by simp, trivial⟩, by simpa using h⟩

theorem append (h : Shows s ps) (h' : Shows t qs) : Shows (s ++ t) (ps ++ qs) :=
  ⟨h.inOrder.append h'.inOrder, List.forall_mem_append.mpr ⟨h.solid, h'.solid⟩⟩

theorem behind (h : Shows t ps) (s : Text) : Shows (s ++ t) ps := (nil s).append h

theorem before (h : Shows s ps) (t : Text) : Shows (s ++ t) ps := by
  have happend := h.append (nil t)
  rwa [List.append_nil] at happend

/-- A solid piece does not begin in a blank, so the blanks in front may go. -/
theorem of_blank_cons (hc : isBlank c = true) (h : Shows (c :: t) ps) : Shows t ps := by
  refine ⟨?_, h.solid⟩
  obtain ⟨hin, hsolid⟩ := h
  induction ps with
  | nil => trivial
  | cons piece ps ih =>
    obtain ⟨hpiece, hsolids⟩ := List.forall_mem_cons.mp hsolid
    obtain ⟨before, rest, htext, hrest⟩ := hin
    cases before with
    | cons d before =>
      obtain ⟨-, rfl⟩ := List.cons.inj htext
      exact ⟨before, rest, rfl, hrest⟩
    | nil =>
      cases piece with
      | nil =>
        obtain rfl : c :: t = rest := htext
        exact ⟨[], t, rfl, ih hrest hsolids⟩
      | cons d piece =>
        obtain ⟨rfl, -⟩ := List.cons.inj htext
        have hd := hpiece.first c rfl
        rw [hc] at hd
        cases hd

/-- Nor does it end in one, so the blanks behind may go. -/
theorem of_blank_concat (hc : isBlank c = true) (h : Shows (t ++ [c]) ps) : Shows t ps := by
  refine ⟨?_, h.solid⟩
  obtain ⟨hin, hsolid⟩ := h
  induction ps generalizing t with
  | nil => trivial
  | cons piece ps ih =>
    obtain ⟨hpiece, hsolids⟩ := List.forall_mem_cons.mp hsolid
    obtain ⟨before, rest, htext, hrest⟩ := hin
    rcases List.eq_nil_or_concat rest with rfl | ⟨rest', d, rfl⟩
    · rcases List.eq_nil_or_concat piece with rfl | ⟨piece', d, rfl⟩
      · exact ⟨t, [], by simp, hrest⟩
      · have htext' : t ++ [c] = (before ++ piece') ++ [d] := by simpa using htext
        obtain ⟨-, hlast⟩ := List.append_inj' htext' rfl
        obtain rfl : c = d := (List.cons.inj hlast).1
        have hd := hpiece.last c (by simp)
        rw [hc] at hd
        cases hd
    · have htext' : t ++ [c] = (before ++ piece ++ rest') ++ [d] := by simpa using htext
      obtain ⟨rfl, hlast⟩ := List.append_inj' htext' rfl
      obtain rfl : c = d := (List.cons.inj hlast).1
      rw [List.concat_eq_append] at hrest
      exact ⟨before, rest', rfl, ih hrest hsolids⟩

/-- Trimming takes no piece away. -/
theorem trim (h : Shows t ps) : Shows t.trim ps := by
  apply Text.trim_closed (Q := fun t => Shows t ps) _ _ h
  · intro c t hc
    exact of_blank_cons hc
  · intro c t hc
    exact of_blank_concat hc

theorem additive : Additive Shows where
  nil := nil []
  append := append
  trim := trim
  comma := nil _

theorem calls (ss : List Suffix) : Shows (ss.flatMap Suffix.call) (ss.map Suffix.call) := by
  have hcall (s : Suffix) : Solid s.call := solid_of_all (by cases s <;> decide)
  induction ss with
  | nil => exact nil []
  | cons s ss ih => exact (single (hcall s)).append ih

/-- A block shows its parameters before its body. -/
theorem blockText {params body : Text} (h : Shows params ps) (h' : Shows body qs) :
    Shows (blockText params body) (ps ++ qs) := by
  have hopen := h.behind "\x7b|".toList
  have hbody := (hopen.before "|".toList).append h'
  exact hbody.before "\x7d".toList

end Shows

end Text

open Text

/-- A token that was read does not begin or end in a blank. -/
theorem TokenKind.Spells.solid {kind : TokenKind} {v : Text} (h : kind.Spells v) : Solid v := by
  cases h with
  | opener g => exact solid_of_all (by cases g <;> decide)
  | closer closer => exact solid_of_all (by cases closer <;> decide)
  | suffix s => exact solid_of_all (by cases s <;> decide)
  | arrow => exact solid_of_all (by decide)
  | operator _ hsolid _ _ => exact solid_of_not_blank hsolid
  | atom _ name => exact solid_of_not_blank name.not_blank
  | string body =>
    have hquote : isBlank '"' = false := by decide
    refine ⟨?_, ?_⟩
    · simpa using hquote
    · rw [← List.cons_append, List.getLast?_concat]
      simpa using hquote

namespace Forest

variable {t : Token}

/-- A leaf adds its own pieces to those of a level. -/
theorem carry_addLeaf {level : List Fragment} {ps : List Text} (h : Fragment.Carry Shows level ps)
    (ht : t.Spelled) : Fragment.Carry Shows (Fragment.addLeaf level t) (ps ++ t.pieces false) := by
  apply h.addLeaf Shows.additive
  · intro ha
    simp [Token.pieces, ha]
  · intro hs
    have hvalue := (Shows.single ht.spells.solid).behind t.leading
    cases hk : t.kind with
    | string | operator | atom => simpa [Token.pieces, hk] using hvalue
    | opener | closer | arrow => simpa [Token.pieces, hk] using Shows.nil _
    | suffix s => exact absurd hk (hs s)
  · intro s hs
    have hcall : Shows s.call [s.call] := by simpa using Shows.calls [s]
    simpa [Token.pieces, hs] using And.intro hcall (hcall.behind t.leading)

theorem map_marked (f : Forest) (parenthesised : Bool) :
    (f.marked parenthesised).map Prod.fst = f.tokens := by
  induction f generalizing parenthesised with
  | nil => rfl
  | leaf t plain rest ih => simp [marked, tokens, ih]
  | group g opener opens inner closer closes rest ihi ihr => simp [marked, tokens, ihi, ihr]

/-- The pieces of a forest are those of its tokens, each marked with how it stands. -/
theorem flatMap_marked (f : Forest) (parenthesised : Bool) :
    (f.marked parenthesised).flatMap (fun m => m.1.pieces m.2) = f.pieces parenthesised := by
  induction f generalizing parenthesised with
  | nil => rfl
  | leaf t plain rest ih => simp [marked, pieces, ih]
  | group g opener opens inner closer closes rest ihi ihr =>
    have hopener : opener.pieces false = [] := by simp [Token.pieces, opens]
    have hcloser : closer.pieces false = [] := by simp [Token.pieces, closes]
    simp [marked, pieces, ihi, ihr, hopener, hcloser]

theorem pieces_of_isSuffixes {f : Forest} (h : f.isSuffixes = true) (parenthesised : Bool) :
    f.pieces parenthesised = f.suffixes.map Suffix.call := by
  induction f generalizing parenthesised with
  | nil => rfl
  | group => cases h
  | leaf t plain rest ih =>
    rw [isSuffixes, Bool.and_eq_true] at h
    obtain ⟨s, hs⟩ := Option.isSome_iff_exists.mp h.1
    have hkind : t.kind = .suffix s := TokenKind.suffix?_eq_some.mp hs
    simp [pieces, Token.pieces, hkind, suffixes, TokenKind.suffix?, ih h.2]

/-- Only in a reference does it matter whether the level stands in parentheses. -/
theorem pieces_of_reference?_eq_none {f : Forest} (hf : ∀ t ∈ f.tokens, t.Spelled) (h : f.reference? = none) :
    f.pieces true = f.pieces false := by
  cases f with
  | nil | group => rfl
  | leaf t plain rest =>
    obtain ⟨ht, -⟩ := List.forall_mem_cons.mp hf
    have hmark : ¬ (rest.isSuffixes = true ∧ referenceMark <+: t.value) := by
      rintro ⟨hr, hp⟩
      rw [reference?, if_pos ⟨ht.spells.atom_of_reference hp, hp, hr⟩] at h
      cases h
    have hpieces : t.pieces (true && rest.isSuffixes) = t.pieces (false && rest.isSuffixes) := by
      cases hk : t.kind <;> simp [Token.pieces, hk, hmark]
    rw [pieces, pieces, hpieces]

theorem reference?_of_isChain {f : Forest} (h : f.isChain = true) : f.reference? = none := by
  cases f with
  | nil | group => rfl
  | leaf t plain rest =>
    apply if_neg
    rintro ⟨hatom, hp, -⟩
    have hdot : ['.'] <+: t.value := by
      rw [isChain, hatom] at h
      exact List.isPrefixOf_iff_prefix.mp (by simpa [TokenKind.suffix?] using h)
    obtain ⟨v, hv⟩ := hdot
    rw [← hv] at hp
    cases (List.cons_prefix_cons.mp hp).1

/-- A reference shows its name and its calls. -/
theorem shows_reference {f : Forest} {name : Text} (hf : ∀ t ∈ f.tokens, t.Spelled)
    (h : f.reference? = some name) : Shows name (f.pieces true) := by
  cases f with
  | nil | group => cases h
  | leaf t plain rest =>
    obtain ⟨ht, -⟩ := List.forall_mem_cons.mp hf
    rw [reference?] at h
    split at h
    · rename_i hreference
      obtain ⟨hatom, hp, hr⟩ := hreference
      obtain rfl := Option.some.inj h
      have hname : Rule.IsName t.value := (hatom ▸ ht.spells).name
      -- Without its mark an atom has no blank either, so trimming further out leaves the name alone.
      have hsolid : Solid (t.value.drop 2) :=
        solid_of_not_blank fun c hc => hname.not_blank c (List.mem_of_mem_drop hc)
      have hown : t.pieces (true && rest.isSuffixes) = [t.value.drop 2] := by
        simp [Token.pieces, hatom, hr, hp]
      rw [pieces, hown, pieces_of_isSuffixes hr]
      exact (Shows.single hsolid).append (Shows.calls rest.suffixes)
    · cases h

/-- A parenthesised group shows the pieces of its level, whatever its form. -/
theorem shows_desugarParen {f : Forest} (hf : ∀ t ∈ f.tokens, t.Spelled)
    (h : Fragment.Carry Shows f.fragments (f.pieces false)) (tail : Text) :
    Shows (Group.desugarParen f.fragments tail) (f.pieces true) := by
  have hall := h.concat Shows.additive
  rw [desugarParen_fragments hf tail]
  split
  · rename_i hchain
    rw [pieces_of_reference?_eq_none hf (reference?_of_isChain hchain)]
    exact (Shows.nil implicitParam).blockText (hall.trim.behind implicitParam)
  · cases hreference : f.reference? with
    | some name =>
      have hbody := (shows_reference hf hreference).behind (implicitParam ++ ['.'])
      rw [List.append_assoc] at hbody
      exact (Shows.nil implicitParam).blockText hbody
    | none =>
      rw [pieces_of_reference?_eq_none hf hreference]
      cases harrow : f.arrow? with
      | none => exact ((hall.behind ['(']).before tail).before [')']
      | some split =>
        obtain ⟨params, body⟩ := split
        have hsplit : Fragment.splitArrow? f.fragments = some (params.fragments, body.fragments) := by
          rw [splitArrow?_fragments, harrow]
          rfl
        obtain ⟨before, behind, hpieces, hparams, hbody⟩ := h.splitArrow? hsplit
        rw [hpieces]
        exact (hparams.concat Shows.additive).trim.blockText (hbody.concat Shows.additive).trim

theorem shows_dispatch {name : Text} (h : Solid name) :
    Shows (blockText implicitParam (Group.dispatch name)) [name] := by
  have hfirst := (Shows.single h).behind (implicitParam ++ ".respond_to?(:\"".toList)
  have hbody := hfirst.before ("\") ? ".toList ++ implicitParam ++ ".send(:\"".toList ++ name ++
    "\") : ".toList ++ name ++ "(".toList ++ implicitParam ++ ")".toList)
  have hdispatch : Shows (Group.dispatch name) [name] := by
    simpa [Group.dispatch] using hbody
  exact (Shows.nil implicitParam).blockText hdispatch

/-- So does a block. -/
theorem shows_desugarBlock {f : Forest} (hf : ∀ t ∈ f.tokens, t.Spelled)
    (h : Fragment.Carry Shows f.fragments (f.pieces false)) :
    Shows (Group.desugarBlock f.fragments) (f.pieces false) := by
  rcases dispatched_cases .block f with ⟨t, plain, -, rfl, ha⟩ | ⟨-, hlone⟩
  · obtain ⟨ht, -⟩ := List.forall_mem_cons.mp hf
    have hname : Rule.IsName t.value := (ha ▸ ht.spells).name
    have htrim : (t.leading ++ t.value).trim = t.value := Text.trim_append ht.blank hname.not_blank
    simpa [fragments, onto, Fragment.addLeaf, ha, Group.desugarBlock, Group.loneAtom?, htrim, pieces,
      Token.pieces] using shows_dispatch ht.spells.solid
  · simp only [Group.desugarBlock, hlone rfl]
    split
    · rename_i params body hsplit
      obtain ⟨before, behind, hpieces, hparams, hbody⟩ := h.splitArrow? hsplit
      have hbefore := (hparams.concat Shows.additive).trim
      have hbehind := (hbody.concat Shows.additive).trim
      rw [hpieces]
      split
      · rename_i hempty
        rw [Fragment.trimmed] at hempty
        rw [hempty] at hbefore
        have hparam := hbefore.behind implicitParam
        rw [List.append_nil] at hparam
        exact hparam.blockText hbehind
      · exact (hbefore.behind (implicitParam ++ ", ".toList)).blockText hbehind
    · exact (Shows.nil implicitParam).blockText (h.concat Shows.additive).trim

/-- So does every group. -/
theorem shows_desugar (g : Group) {f : Forest} (hf : ∀ t ∈ f.tokens, t.Spelled)
    (h : Fragment.Carry Shows f.fragments (f.pieces false)) (tail : Text) :
    Shows (g.desugar f.fragments tail) (f.pieces (g = .paren)) := by
  cases g with
  | paren => exact shows_desugarParen hf h tail
  | block => exact shows_desugarBlock hf h
  | index => exact (((h.concat Shows.additive).behind ['[']).before tail).before [']']
  | map => exact ((h.elements Shows.additive).behind ['[']).before "].to_h".toList
  | array => exact ((h.elements Shows.additive).behind ['[']).before [']']

/-- By induction over the forest: a level shows the pieces of its tokens in order. -/
theorem carry_onto (f : Forest) (hf : ∀ t ∈ f.tokens, t.Spelled) {level : List Fragment} {ps : List Text}
    (h : Fragment.Carry Shows level ps) : Fragment.Carry Shows (f.onto level) (ps ++ f.pieces false) := by
  induction f generalizing level ps with
  | nil =>
    rw [pieces, List.append_nil]
    exact h
  | leaf t plain rest ih =>
    obtain ⟨ht, hrest⟩ := List.forall_mem_cons.mp hf
    rw [pieces, ← List.append_assoc]
    exact ih hrest (carry_addLeaf h ht)
  | group g opener opens inner closer closes rest ihi ihr =>
    obtain ⟨-, hinner, -, hrest⟩ := forall_tokens_group hf
    have hinside : Fragment.Carry Shows inner.fragments (inner.pieces false) := ihi hinner .nil
    have hgroup := (shows_desugar g hinner hinside closer.leading).behind opener.leading
    rw [pieces, ← List.append_assoc]
    exact ihr hrest (h.append (.composite hgroup))

end Forest

/-- No token of a text that expands is lost or moved: what the tokens leave, one after the other, stands in
the expansion in that order. -/
theorem expand_inOrder (t out : Text) (file : Option FilePath) (cap : Option Int)
    (h : expand t file cap = .ok out) :
    ∃ (f : Forest) (trailing : Text), tokenize t file = .ok (f.tokens, trailing) ∧
      (f.marked false).map Prod.fst = f.tokens ∧
      InOrder ((f.marked false).flatMap fun m => m.1.pieces m.2) out := by
  obtain ⟨f, trailing, htokens, rfl⟩ := exists_forest_of_expand h
  have hcarry := f.carry_onto (spelled_of_tokenize htokens) .nil
  have hshown : Shows f.text (f.pieces false) := hcarry.concat Shows.additive
  refine ⟨f, trailing, htokens, f.map_marked false, ?_⟩
  rw [f.flatMap_marked]
  exact (hshown.before trailing).inOrder

/-- The reference loses its mark, the arrow leaves nothing, and the rest stands in order. -/
theorem expand_inOrder_reference :
    expand "(&:size++)(a -> \"b\")".toList none (some 1) =
      .ok "\x7b|it|it.size.succ\x7d\x7b|a|\"b\"\x7d".toList ∧
    InOrder ["size".toList, ".succ".toList, ['a'], "\"b\"".toList]
      "\x7b|it|it.size.succ\x7d\x7b|a|\"b\"\x7d".toList := by
  have hexpand : expand "(&:size++)(a -> \"b\")".toList none (some 1) =
      .ok "\x7b|it|it.size.succ\x7d\x7b|a|\"b\"\x7d".toList := by decide +kernel
  let written : Forest := .group .paren ⟨.opener .paren, ['('], 1, 1, []⟩ rfl
    (.leaf ⟨.atom, "&:size".toList, 1, 2, []⟩ rfl <| .leaf ⟨.suffix .succ, "++".toList, 1, 8, []⟩ rfl .nil)
    ⟨.closer .paren, [')'], 1, 10, []⟩ rfl <|
    .group .paren ⟨.opener .paren, ['('], 1, 11, []⟩ rfl
      (.leaf ⟨.atom, ['a'], 1, 12, []⟩ rfl <| .leaf ⟨.arrow, "->".toList, 1, 14, [' ']⟩ rfl <|
        .leaf ⟨.string, "\"b\"".toList, 1, 17, [' ']⟩ rfl .nil)
      ⟨.closer .paren, [')'], 1, 20, []⟩ rfl .nil
  have htokens : tokenize "(&:size++)(a -> \"b\")".toList none = .ok (written.tokens, []) := by
    decide +kernel
  obtain ⟨f, trailing, hread, -, horder⟩ := expand_inOrder _ _ none (some 1) hexpand
  have hf : f = written :=
    Forest.tokens_injective (Prod.mk.inj (Except.ok.inj (hread.symm.trans htokens))).1
  have hpieces : ((written.marked false).flatMap fun m => m.1.pieces m.2) =
      ["size".toList, ".succ".toList, ['a'], "\"b\"".toList] := by decide
  rw [hf, hpieces] at horder
  exact ⟨hexpand, horder⟩

end Shorthand
