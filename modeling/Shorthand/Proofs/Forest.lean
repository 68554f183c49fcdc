import Shorthand.Proofs.Nesting

/-! Forests: well-nested tokens read as leaves and groups. Tokens are well nested exactly if a forest
yields them, and no two forests yield the same tokens. Main statement: without a cap, reading tokens
with a stack of open groups gives the text that recursion over the forest gives
(`expandTokens_wellNested`). -/
namespace Shorthand

/-- One level of tokens: leaves, and groups with the level inside them. -/
inductive Forest where
  | nil
  | leaf (t : Token) (plain : t.kind.isDelimiter = false) (rest : Forest)
  | group (g : Group) (opener : Token) (opens : opener.kind = .opener g) (inner : Forest)
      (closer : Token) (closes : closer.kind = .closer g.closer) (rest : Forest)

/-- Every token fits and no group stays open. -/
def WellNested (ts : List Token) : Prop := Admissible none [] ts ∧ openers [] ts = []

/-- A level after one more token that is no delimiter. A suffix joins the last fragment, whose text then
is no single token's any more; an arrow takes none, and the suffix stands alone. -/
def Fragment.addLeaf (level : List Fragment) (t : Token) : List Fragment :=
  match t.kind with
  | .suffix suffix =>
    match level.getLast? with
    | none => [⟨t.leading ++ suffix.call, none⟩]
    | some last =>
      if last.kind = some .arrow then level ++ [⟨t.leading ++ suffix.call, none⟩]
      else level.dropLast ++ [⟨last.text ++ suffix.call, none⟩]
  | kind => level ++ [⟨t.leading ++ t.value, some kind⟩]

namespace Forest

def tokens : Forest → List Token
  | nil => []
  | leaf t _ rest => t :: rest.tokens
  | group _ opener _ inner closer _ rest => opener :: (inner.tokens ++ closer :: rest.tokens)

/-- The fragments of a level that starts with the fragments `level` and goes on with a forest. -/
def onto : List Fragment → Forest → List Fragment
  | level, nil => level
  | level, leaf t _ rest => rest.onto (Fragment.addLeaf level t)
  | level, group g opener _ inner closer _ rest =>
    rest.onto (level ++ [⟨opener.leading ++ g.desugar (inner.onto []) closer.leading, none⟩])

def fragments (f : Forest) : List Fragment := f.onto []

def text (f : Forest) : Text := Fragment.concat f.fragments

theorem forall_tokens_group {P : Token → Prop} {g : Group} {opener closer : Token}
    {opens : opener.kind = .opener g} {closes : closer.kind = .closer g.closer} {inner rest : Forest}
    (h : ∀ t ∈ (group g opener opens inner closer closes rest).tokens, P t) :
    P opener ∧ (∀ t ∈ inner.tokens, P t) ∧ P closer ∧ ∀ t ∈ rest.tokens, P t := by
  rw [tokens, List.forall_mem_cons, List.forall_mem_append, List.forall_mem_cons] at h
  exact h

end Forest

/-- The openers left by two lists of tokens are those that the second leaves on those of the first. -/
theorem openers_append (stack a b : List Token) :
    openers stack (a ++ b) = openers (openers stack a) b := List.foldl_append

/-- Tokens fit exactly if the first of them fit and the others fit behind those. -/
theorem admissible_append {cap : Option Int} {stack a b : List Token} :
    Admissible cap stack (a ++ b) ↔ Admissible cap stack a ∧ Admissible cap (openers stack a) b := by
  induction a generalizing stack with
  | nil => simp [admissible_nil]
  | cons t a ih => rw [List.cons_append, admissible_cons, ih, admissible_cons, openers_cons, and_assoc]

namespace Forest

/-- By induction over the forest: its tokens fit on any stack and leave it as it was. -/
theorem nested_tokens (f : Forest) (stack : List Token) :
    Admissible none stack f.tokens ∧ openers stack f.tokens = stack := by
  induction f generalizing stack with
  | nil => exact ⟨admissible_nil none stack, rfl⟩
  | leaf t plain rest ih =>
    obtain ⟨ha, ho⟩ := ih stack
    rw [tokens, admissible_cons, openers_cons, nest_of_plain plain]
    exact ⟨⟨fits_of_plain plain none stack, ha⟩, ho⟩
  | group g opener opens inner closer closes rest ihi ihr =>
    obtain ⟨hai, hoi⟩ := ihi (opener :: stack)
    obtain ⟨har, hor⟩ := ihr stack
    have hasks : (opener :: stack).head?.bind Token.closer? = some g.closer := by
      simp [Token.closer?, opens]
    rw [tokens, admissible_cons, openers_cons, nest_of_opener opens, admissible_append, openers_append,
      hoi, admissible_cons, openers_cons, nest_of_closer closes, List.tail_cons]
    exact ⟨⟨fits_of_opener opens stack, hai, fits_of_closer closes hasks none, har⟩, hor⟩

/-- The tokens of a forest are well nested. -/
theorem wellNested_tokens (f : Forest) : WellNested f.tokens := f.nested_tokens []

/-- Behind the open openers `stack`, the tokens are a level, then the closer of the innermost opener and
what follows behind the outer ones. -/
inductive Levels : List Token → List Token → Prop where
  | bottom (f : Forest) : Levels [] f.tokens
  | level {g : Group} {opener closer : Token} {outer rest : List Token} (f : Forest)
      (opens : opener.kind = .opener g) (closes : closer.kind = .closer g.closer)
      (behind : Levels outer rest) : Levels (opener :: outer) (f.tokens ++ closer :: rest)

theorem Levels.leaf {t : Token} {stack ts : List Token} (plain : t.kind.isDelimiter = false)
    (h : Levels stack ts) : Levels stack (t :: ts) := by
  cases h with
  | bottom f => exact .bottom (.leaf t plain f)
  | level f opens closes behind => exact .level (.leaf t plain f) opens closes behind

theorem Levels.group {t : Token} {g : Group} {stack ts : List Token} (opens : t.kind = .opener g)
    (h : Levels (t :: stack) ts) : Levels stack (t :: ts) := by
  cases h with
  | @level g' _ closer _ rest f opens' closes behind =>
    obtain rfl : g = g' := TokenKind.opener.inj (opens.symm.trans opens')
    cases behind with
    | bottom f' => exact .bottom (.group g t opens f closer closes f')
    | @level _ _ closer' _ rest' f' opens'' closes'' behind =>
      have hts : t :: (f.tokens ++ closer :: (f'.tokens ++ closer' :: rest')) =
          (Forest.group g t opens f closer closes f').tokens ++ closer' :: rest' := by
        simp [tokens]
      rw [hts]
      exact .level _ opens'' closes'' behind

/-- Tokens that close all they open are forests between the closers of the stack. -/
theorem levels_of_admissible {stack ts : List Token} (ha : Admissible none stack ts)
    (ho : openers stack ts = []) : Levels stack ts := by
  induction ts generalizing stack with
  | nil =>
    obtain rfl : stack = [] := ho
    exact .bottom .nil
  | cons t ts ih =>
    obtain ⟨hf, ha⟩ := admissible_cons.mp ha
    have hlevels : Levels (t.nest stack) ts := ih ha ho
    cases ht : t.kind with
    | opener g =>
      rw [nest_of_opener ht] at hlevels
      exact hlevels.group ht
    | closer c =>
      rw [nest_of_closer ht] at hlevels
      have hm := hf.matched c ht
      cases stack with
      | nil => simp at hm
      | cons opener outer =>
        simp only [List.head?_cons, Option.bind_some, Token.closer?] at hm
        split at hm
        · rename_i g hg
          have hc : t.kind = .closer g.closer := by rw [ht, Option.some.inj hm]
          exact .level .nil hg hc hlevels
        · cases hm
    | arrow | suffix | string | operator | atom =>
      have plain : t.kind.isDelimiter = false := by rw [ht]; rfl
      rw [nest_of_plain plain] at hlevels
      exact hlevels.leaf plain

/-- Well nested tokens are those of a forest. -/
theorem exists_of_wellNested {ts : List Token} (h : WellNested ts) : ∃ f : Forest, f.tokens = ts := by
  have hlevels := levels_of_admissible h.1 h.2
  generalize hs : ([] : List Token) = stack at hlevels
  cases hlevels with
  | bottom f => exact ⟨f, rfl⟩
  | level => cases hs

/-- A list of tokens that is empty or starts with a closer, as any that follows a whole level. -/
def Stops (ts : List Token) : Prop := ∀ t ∈ ts.head?, ∃ closer, t.kind = .closer closer

theorem stops_nil : Stops [] := by
  intro t ht
  cases ht

theorem stops_cons {t : Token} {closer : Closer} (h : t.kind = .closer closer) (ts : List Token) :
    Stops (t :: ts) := by
  intro u hu
  obtain rfl : t = u := Option.some.inj hu
  exact ⟨closer, h⟩

theorem Stops.kind {t : Token} {ts : List Token} (h : Stops (t :: ts)) :
    ∃ closer, t.kind = .closer closer := h t rfl

/-- A level ends where the first closer without an opener stands, so its forest can be read off. -/
theorem tokens_append_inj {f f' : Forest} {ts ts' : List Token} (hs : Stops ts) (hs' : Stops ts')
    (h : f.tokens ++ ts = f'.tokens ++ ts') : f = f' ∧ ts = ts' := by
  have hplain {t : Token} {rest : List Token} (plain : t.kind.isDelimiter = false) :
      ¬ Stops (t :: rest) := by
    intro hst
    obtain ⟨c, hc⟩ := hst.kind
    rw [hc] at plain
    cases plain
  have hopens {t : Token} {g : Group} {rest : List Token} (opens : t.kind = .opener g) :
      ¬ Stops (t :: rest) := by
    intro hst
    obtain ⟨c, hc⟩ := hst.kind
    rw [opens] at hc
    cases hc
  -- A token that opens a group or is no delimiter continues the level, and a closer ends it.
  induction f generalizing f' ts ts' with
  | nil =>
    cases f' with
    | nil => exact ⟨rfl, h⟩
    | leaf t plain rest =>
      have hts : ts = t :: (rest.tokens ++ ts') := h
      rw [hts] at hs
      exact absurd hs (hplain plain)
    | group g opener opens inner closer closes rest =>
      have hts : ts = opener :: (inner.tokens ++ closer :: rest.tokens ++ ts') := h
      rw [hts] at hs
      exact absurd hs (hopens opens)
  | leaf t plain rest ih =>
    cases f' with
    | nil =>
      have hts : ts' = t :: (rest.tokens ++ ts) := h.symm
      rw [hts] at hs'
      exact absurd hs' (hplain plain)
    | leaf t' plain' rest' =>
      obtain ⟨rfl, htail⟩ := List.cons.inj h
      obtain ⟨rfl, rfl⟩ := ih hs hs' htail
      exact ⟨rfl, rfl⟩
    | group g opener opens inner closer closes rest' =>
      obtain ⟨rfl, -⟩ := List.cons.inj h
      rw [opens] at plain
      cases plain
  | group g opener opens inner closer closes rest ihi ihr =>
    cases f' with
    | nil =>
      have hts : ts' = opener :: (inner.tokens ++ closer :: rest.tokens ++ ts) := h.symm
      rw [hts] at hs'
      exact absurd hs' (hopens opens)
    | leaf t plain rest' =>
      obtain ⟨rfl, -⟩ := List.cons.inj h
      rw [opens] at plain
      cases plain
    | group g' opener' opens' inner' closer' closes' rest' =>
      obtain ⟨rfl, -⟩ := List.cons.inj h
      obtain rfl : g = g' := TokenKind.opener.inj (opens.symm.trans opens')
      have htail : inner.tokens ++ closer :: (rest.tokens ++ ts) =
          inner'.tokens ++ closer' :: (rest'.tokens ++ ts') := by
        simpa [tokens] using h
      obtain ⟨rfl, hbehind⟩ := ihi (stops_cons closes _) (stops_cons closes' _) htail
      obtain ⟨rfl, hrest⟩ := List.cons.inj hbehind
      obtain ⟨rfl, rfl⟩ := ihr hs hs' hrest
      exact ⟨rfl, rfl⟩

/-- Tokens are nested in one way only. -/
theorem tokens_injective {f f' : Forest} (h : f.tokens = f'.tokens) : f = f' := by
  have happ : f.tokens ++ [] = f'.tokens ++ [] := by rw [h]
  exact (tokens_append_inj stops_nil stops_nil happ).1

end Forest

theorem wellNested_iff {ts : List Token} : WellNested ts ↔ ∃ f : Forest, f.tokens = ts := by
  refine ⟨Forest.exists_of_wellNested, ?_⟩
  intro h
  obtain ⟨f, rfl⟩ := h
  exact f.wellNested_tokens

theorem Fragment.reverse_addLeaf {t : Token} {suffix : Suffix} (ht : t.kind = .suffix suffix)
    (newest : List Fragment) :
    (addLeaf newest.reverse t).reverse = attach suffix t.leading newest := by
  cases newest with
  | nil => simp [addLeaf, ht, attach]
  | cons last older =>
    by_cases ha : last.kind = some .arrow <;> simp [addLeaf, ht, attach, isArrow, ha]

namespace Expansion

/-- Reading a leaf is adding it to the level. -/
theorem step_leaf {t : Token} (plain : t.kind.isDelimiter = false) (e : Expansion) :
    e.step none t = .ok { e with fragments := (Fragment.addLeaf e.fragments.reverse t).reverse } := by
  cases ht : t.kind with
  | opener | closer =>
    rw [ht] at plain
    cases plain
  | suffix suffix => simp only [step, ht, Fragment.reverse_addLeaf ht]
  | arrow | string | operator | atom => simp [step, ht, push, Fragment.addLeaf]

/-- Whatever groups are open, reading the tokens of a forest adds the forest to the innermost level. -/
theorem run_tokens (f : Forest) (e : Expansion) (ts : List Token) :
    run none e (f.tokens ++ ts) =
      run none { e with fragments := (f.onto e.fragments.reverse).reverse } ts := by
  induction f generalizing e ts with
  | nil => simp [Forest.tokens, Forest.onto]
  | leaf t plain rest ih =>
    rw [Forest.tokens, List.cons_append, run_cons_of_ok (step_leaf plain e), ih, List.reverse_reverse]
    rfl
  | group g opener opens inner closer closes rest ihi ihr =>
    have hopen : e.step none opener = .ok ⟨⟨g, opener, e.fragments⟩ :: e.pending, []⟩ := by
      simp only [step, opens, openGroup]
    -- The level inside starts empty, so its fragments are those of the inner forest alone.
    have hclose : step none ⟨⟨g, opener, e.fragments⟩ :: e.pending, (inner.onto []).reverse⟩ closer =
        .ok ⟨e.pending, ⟨opener.leading ++ g.desugar (inner.onto []) closer.leading, none⟩ ::
          e.fragments⟩ := by
      simp only [step, closes, closeGroup, if_true, List.reverse_reverse]
    rw [Forest.tokens, List.cons_append, run_cons_of_ok hopen, List.append_assoc, List.cons_append, ihi]
    simp only [List.reverse_nil]
    rw [run_cons_of_ok hclose, ihr, List.reverse_cons]
    rfl

end Expansion

/-- The machine gives for the tokens of a forest the text that the forest has by recursion. -/
theorem Forest.expandTokens_tokens (f : Forest) (origin : Origin) :
    expandTokens f.tokens origin = .ok f.text := by
  have hrun := Expansion.run_tokens f {} []
  rw [List.append_nil] at hrun
  refine expandTokens_eq_ok_iff.mpr ⟨f.fragments, ?_, rfl⟩
  rw [hrun]
  simp [Expansion.run, Expansion.finish, Forest.fragments]

/-- A cap refuses tokens or changes nothing. -/
theorem Forest.expandTokens_capped {f : Forest} {origin : Origin} {cap : Option Int} {out : Text} :
    expandTokens f.tokens origin cap = .ok out ↔ Admissible cap [] f.tokens ∧ f.text = out := by
  have hloosens : Expansion.Loosens cap none := by
    rintro limit hlimit
    cases hlimit
  constructor
  · intro h
    obtain ⟨fs, hrun, -⟩ := expandTokens_eq_ok_iff.mp h
    have hout := expandTokens_loosen hloosens h
    rw [f.expandTokens_tokens] at hout
    exact ⟨((Expansion.run_ok_iff cap f.tokens).mp ⟨fs, hrun⟩).1, Except.ok.inj hout⟩
  · rintro ⟨hadmissible, rfl⟩
    obtain ⟨fs, hrun⟩ := (Expansion.run_ok_iff cap f.tokens).mpr ⟨hadmissible, (f.nested_tokens []).2⟩
    have hok : expandTokens f.tokens origin cap = .ok (Fragment.concat fs) :=
      expandTokens_eq_ok_iff.mpr ⟨fs, hrun, rfl⟩
    have hout := expandTokens_loosen hloosens hok
    rw [f.expandTokens_tokens] at hout
    rw [hok, Except.ok.inj hout]

/-- A text that expands is one forest and the blanks behind it. -/
theorem exists_forest_of_expand {t out : Text} {file : Option FilePath} {cap : Option Int}
    (h : expand t file cap = .ok out) :
    ∃ (f : Forest) (trailing : Text), tokenize t file = .ok (f.tokens, trailing) ∧
      f.text ++ trailing = out := by
  -- A cap only refuses, so the text is what it is without one.
  have hnone : Expansion.Loosens cap none := nofun
  obtain ⟨tokens, trailing, inner, ht, hi, rfl⟩ := expand_eq_ok_iff.mp (expand_loosen hnone h)
  obtain ⟨fs, hrun, -⟩ := expandTokens_eq_ok_iff.mp hi
  obtain ⟨f, rfl⟩ := wellNested_iff.mp ((Expansion.run_ok_iff none tokens).mp ⟨fs, hrun⟩)
  have htext : f.text = inner := Except.ok.inj ((f.expandTokens_tokens _).symm.trans hi)
  exact ⟨f, trailing, ht, by rw [htext]⟩

/-- Well-nested tokens are those of exactly one forest, and without a cap they expand to its text. -/
theorem expandTokens_wellNested (ts : List Token) (origin : Origin) (h : WellNested ts) :
    ∃ f : Forest, f.tokens = ts ∧ (∀ f' : Forest, f'.tokens = ts → f' = f) ∧
      expandTokens ts origin = .ok f.text := by
  obtain ⟨f, rfl⟩ := wellNested_iff.mp h
  exact ⟨f, rfl, fun f' hf' => Forest.tokens_injective hf', f.expandTokens_tokens origin⟩

/-- A suffix behind an arrow stands alone, and a suffix behind a group joins what the group became. -/
theorem expandTokens_wellNested_suffix :
    ∃ f : Forest, f.tokens = [⟨.opener .paren, ['('], 1, 1, []⟩, ⟨.atom, ['a'], 1, 2, []⟩,
        ⟨.arrow, "->".toList, 1, 4, [' ']⟩, ⟨.suffix .succ, "++".toList, 1, 6, []⟩,
        ⟨.closer .paren, [')'], 1, 8, []⟩, ⟨.suffix .pred, "--".toList, 1, 9, []⟩] ∧
      f.text = "\x7b|a|.succ\x7d.pred".toList ∧ expandTokens f.tokens = .ok f.text := by
  let written : Forest := .group .paren ⟨.opener .paren, ['('], 1, 1, []⟩ rfl
    (.leaf ⟨.atom, ['a'], 1, 2, []⟩ rfl <| .leaf ⟨.arrow, "->".toList, 1, 4, [' ']⟩ rfl <|
      .leaf ⟨.suffix .succ, "++".toList, 1, 6, []⟩ rfl .nil)
    ⟨.closer .paren, [')'], 1, 8, []⟩ rfl (.leaf ⟨.suffix .pred, "--".toList, 1, 9, []⟩ rfl .nil)
  obtain ⟨f, hf, hunique, hexpand⟩ :=
    expandTokens_wellNested written.tokens {} (wellNested_iff.mpr ⟨written, rfl⟩)
  obtain rfl : written = f := hunique written rfl
  exact ⟨written, rfl, by decide, hexpand⟩

end Shorthand
