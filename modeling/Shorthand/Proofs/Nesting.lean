import Shorthand.Expansion
import Shorthand.Proofs.Segmentation

/-! Nesting of tokens, read off the openers that are open in front of each token. The first token that
does not fit ends an expansion; if every token fits, the innermost group left open does. So the tokens tell
what an expansion accepts and where it ends otherwise, and a wider cap keeps the output. -/
namespace Shorthand

def TokenKind.isDelimiter : TokenKind → Bool
  | .opener _ | .closer _ => true
  | _ => false

/-- The closer that a token asks for, if it opens a group. -/
def Token.closer? (t : Token) : Option Closer :=
  match t.kind with
  | .opener group => some group.closer
  | _ => none

/-- The open openers behind a token, innermost first, if `stack` are open in front of it. -/
def Token.nest (stack : List Token) (t : Token) : List Token :=
  match t.kind with
  | .opener _ => t :: stack
  | .closer _ => stack.tail
  | _ => stack

/-- The open openers behind `ts`, innermost first, if `stack` are open in front of it. -/
def openers (stack ts : List Token) : List Token := ts.foldl Token.nest stack

/-- A token fits behind the open openers `stack`: a closer is that of the innermost one, and an opener
finds fewer groups open than the cap allows. -/
structure Fits (cap : Option Int) (stack : List Token) (t : Token) : Prop where
  matched : ∀ closer, t.kind = .closer closer → stack.head?.bind Token.closer? = some closer
  shallow : ∀ group limit, t.kind = .opener group → cap = some limit → (stack.length : Int) < limit

/-- Every token of `ts` fits where it stands, if `stack` are open in front of `ts`. -/
def Admissible (cap : Option Int) (stack ts : List Token) : Prop :=
  ∀ before t after, ts = before ++ t :: after → Fits cap (openers stack before) t

/-- The token of a violation does not fit behind the open openers `stack`, for the reason it names. -/
inductive Misfit (cap : Option Int) (stack : List Token) : Violation → Prop where
  | tooDeep {group : Group} {limit : Int} {t : Token} (opens : t.kind = .opener group)
      (capped : cap = some limit) (full : limit ≤ stack.length) : Misfit cap stack ⟨.tooDeep limit, t⟩
  | unexpectedCloser {closer : Closer} {t : Token} (closes : t.kind = .closer closer)
      (other : stack.head?.bind Token.closer? ≠ some closer) :
      Misfit cap stack ⟨.unexpectedCloser t.value, t⟩

/-- A violation ends `ts`: it is about the first token that does not fit or, if all of them fit, about
the innermost group that is still open. -/
inductive EndsAt (cap : Option Int) (stack ts : List Token) : Violation → Prop where
  | misfit {before after : List Token} {v : Violation} (split : ts = before ++ v.token :: after)
      (admissible : Admissible cap stack before) (misfit : Misfit cap (openers stack before) v) :
      EndsAt cap stack ts v
  | unclosed {group : Group} {opener : Token} {outer : List Token} (admissible : Admissible cap stack ts)
      (stays : openers stack ts = opener :: outer) (opens : opener.kind = .opener group) :
      EndsAt cap stack ts ⟨.unclosed group, opener⟩

@[simp] theorem openers_nil (stack : List Token) : openers stack [] = stack := rfl

@[simp] theorem openers_cons (stack : List Token) (t : Token) (ts : List Token) :
    openers stack (t :: ts) = openers (t.nest stack) ts := rfl

theorem nest_of_plain {t : Token} (h : t.kind.isDelimiter = false) (stack : List Token) :
    t.nest stack = stack := by
  cases ht : t.kind with
  | opener | closer =>
    rw [ht] at h
    cases h
  | arrow | suffix | string | operator | atom => simp only [Token.nest, ht]

theorem nest_of_opener {t : Token} {g : Group} (ht : t.kind = .opener g) (stack : List Token) :
    t.nest stack = t :: stack := by
  simp only [Token.nest, ht]

theorem nest_of_closer {t : Token} {closer : Closer} (ht : t.kind = .closer closer)
    (stack : List Token) : t.nest stack = stack.tail := by
  simp only [Token.nest, ht]

theorem fits_of_plain {t : Token} (h : t.kind.isDelimiter = false) (cap : Option Int)
    (stack : List Token) : Fits cap stack t := by
  constructor
  · intro closer hc
    rw [hc] at h
    cases h
  · intro group _ hg
    rw [hg] at h
    cases h

theorem fits_of_opener {t : Token} {g : Group} (ht : t.kind = .opener g) (stack : List Token) :
    Fits none stack t := by
  constructor
  · intro closer hc
    rw [ht] at hc
    cases hc
  · intro _ _ _ hn
    cases hn

/-- A closer fits where the innermost opener asks for it. -/
theorem fits_of_closer {t : Token} {closer : Closer} (ht : t.kind = .closer closer) {stack : List Token}
    (ho : stack.head?.bind Token.closer? = some closer) (cap : Option Int) : Fits cap stack t := by
  constructor
  · intro closer' hc
    rw [ho, TokenKind.closer.inj (ht.symm.trans hc)]
  · intro g _ hg
    rw [ht] at hg
    cases hg

/-- A violation is at a token that does not fit. -/
theorem Misfit.not_fits {cap : Option Int} {stack : List Token} {v : Violation}
    (h : Misfit cap stack v) : ¬ Fits cap stack v.token := by
  intro hf
  cases h with
  | tooDeep opens capped full =>
    have hlt := hf.shallow _ _ opens capped
    omega
  | unexpectedCloser closes other => exact other (hf.matched _ closes)

theorem admissible_nil (cap : Option Int) (stack : List Token) : Admissible cap stack [] := by
  intro before t after h
  simp at h

/-- Tokens fit exactly if the first of them fits and the others fit behind it. -/
theorem admissible_cons {cap : Option Int} {stack : List Token} {t : Token} {ts : List Token} :
    Admissible cap stack (t :: ts) ↔ Fits cap stack t ∧ Admissible cap (t.nest stack) ts := by
  constructor
  · intro h
    refine ⟨h [] t ts rfl, ?_⟩
    intro before u after hs
    have hsplit : t :: ts = (t :: before) ++ u :: after := by rw [hs, List.cons_append]
    exact h (t :: before) u after hsplit
  · intro h before u after hs
    obtain ⟨hf, ha⟩ := h
    rcases List.cons_eq_append_iff.mp hs with ⟨rfl, hu⟩ | ⟨before', rfl, hts⟩
    · obtain ⟨rfl, -⟩ := List.cons.inj hu
      exact hf
    · exact ha before' u after hts

theorem Token.head?_closer_of_kinds {stack stack' : List Token}
    (h : stack'.map Token.kind = stack.map Token.kind) :
    stack'.head?.bind Token.closer? = stack.head?.bind Token.closer? := by
  cases stack with
  | nil =>
    obtain rfl := List.map_eq_nil_iff.mp h
    rfl
  | cons t outer =>
    obtain ⟨t', outer', rfl, hkind, -⟩ := List.map_eq_cons_iff.mp h
    simp only [List.head?_cons, Option.bind_some, Token.closer?, hkind]

theorem Token.nest_of_kinds {stack stack' : List Token} {t t' : Token}
    (h : stack'.map Token.kind = stack.map Token.kind) (hk : t'.kind = t.kind) :
    (t'.nest stack').map Token.kind = (t.nest stack).map Token.kind := by
  rw [nest, nest, hk]
  split
  · rw [List.map_cons, List.map_cons, hk, h]
  · rw [List.map_tail, List.map_tail, h]
  · exact h

/-- Whether a token fits is a matter of kinds alone. -/
theorem Fits.of_kinds {cap : Option Int} {stack stack' : List Token} {t t' : Token} (h : Fits cap stack t)
    (hstack : stack'.map Token.kind = stack.map Token.kind) (hk : t'.kind = t.kind) : Fits cap stack' t' := by
  have hlength : stack'.length = stack.length := by
    simpa using congrArg List.length hstack
  constructor
  · intro closer hc
    rw [Token.head?_closer_of_kinds hstack]
    exact h.matched closer (hk.symm.trans hc)
  · intro g limit hg hcap
    rw [hlength]
    exact h.shallow g limit (hk.symm.trans hg) hcap

/-- Whether tokens fit is a matter of their kinds. -/
theorem Admissible.of_kinds {cap : Option Int} {stack stack' ts ts' : List Token}
    (h : Admissible cap stack ts) (hstack : stack'.map Token.kind = stack.map Token.kind)
    (hts : ts'.map Token.kind = ts.map Token.kind) : Admissible cap stack' ts' := by
  induction ts generalizing stack stack' ts' with
  | nil =>
    obtain rfl := List.map_eq_nil_iff.mp hts
    exact admissible_nil cap stack'
  | cons t ts ih =>
    obtain ⟨t', ts', rfl, hkind, hmore⟩ := List.map_eq_cons_iff.mp hts
    obtain ⟨hfits, hrest⟩ := admissible_cons.mp h
    exact admissible_cons.mpr ⟨hfits.of_kinds hstack hkind, ih hrest (Token.nest_of_kinds hstack hkind) hmore⟩

/-- Behind the last token, the violation is the innermost opener left. -/
theorem endsAt_nil {cap : Option Int} {stack : List Token} {v : Violation} :
    EndsAt cap stack [] v ↔ ∃ group opener outer, stack = opener :: outer ∧
      opener.kind = .opener group ∧ v = ⟨.unclosed group, opener⟩ := by
  constructor
  · intro h
    cases h with
    | misfit split => simp at split
    | unclosed _ stays opens => exact ⟨_, _, _, stays, opens, rfl⟩
  · intro h
    obtain ⟨group, opener, outer, hs, ho, rfl⟩ := h
    exact .unclosed (admissible_nil cap stack) hs ho

/-- The violation is the first token, or it is found behind it. -/
theorem endsAt_cons {cap : Option Int} {stack : List Token} {t : Token} {ts : List Token}
    {v : Violation} : EndsAt cap stack (t :: ts) v ↔
      (v.token = t ∧ Misfit cap stack v) ∨ (Fits cap stack t ∧ EndsAt cap (t.nest stack) ts v) := by
  constructor
  · intro h
    cases h with
    | misfit split admissible misfit =>
      rcases List.cons_eq_append_iff.mp split with ⟨rfl, hv⟩ | ⟨before', rfl, hts⟩
      · exact .inl ⟨(List.cons.inj hv).1, misfit⟩
      · obtain ⟨hf, ha⟩ := admissible_cons.mp admissible
        exact .inr ⟨hf, .misfit hts ha misfit⟩
    | unclosed admissible stays opens =>
      obtain ⟨hf, ha⟩ := admissible_cons.mp admissible
      exact .inr ⟨hf, .unclosed ha stays opens⟩
  · intro h
    rcases h with ⟨rfl, hm⟩ | ⟨hf, he⟩
    · exact .misfit rfl (admissible_nil cap stack) hm
    · cases he with
      | @misfit before after _ split admissible misfit =>
        have hsplit : t :: ts = (t :: before) ++ v.token :: after := by rw [split, List.cons_append]
        have hbefore : Admissible cap stack (t :: before) := admissible_cons.mpr ⟨hf, admissible⟩
        exact .misfit hsplit hbefore misfit
      | unclosed admissible stays opens =>
        have hall : Admissible cap stack (t :: ts) := admissible_cons.mpr ⟨hf, admissible⟩
        exact .unclosed hall stays opens

theorem Misfit.unique {cap : Option Int} {stack : List Token} {v w : Violation} (hv : Misfit cap stack v)
    (hw : Misfit cap stack w) (ht : v.token = w.token) : v = w := by
  cases hv with
  | tooDeep opens capped _ =>
    cases hw with
    | tooDeep opens' capped' _ =>
      obtain rfl := Option.some.inj (capped.symm.trans capped')
      simp only at ht
      rw [ht]
    | unexpectedCloser closes _ =>
      simp only at ht
      rw [ht, closes] at opens
      cases opens
  | unexpectedCloser closes _ =>
    cases hw with
    | tooDeep opens _ _ =>
      simp only at ht
      rw [ht, opens] at closes
      cases closes
    | unexpectedCloser _ _ =>
      simp only at ht
      rw [ht]

/-- There is one first violation. -/
theorem EndsAt.unique {cap : Option Int} {stack ts : List Token} {v w : Violation}
    (hv : EndsAt cap stack ts v) (hw : EndsAt cap stack ts w) : v = w := by
  induction ts generalizing stack with
  | nil =>
    obtain ⟨g, o, outer, hs, ho, rfl⟩ := endsAt_nil.mp hv
    obtain ⟨g', o', outer', hs', ho', rfl⟩ := endsAt_nil.mp hw
    obtain ⟨rfl, -⟩ := List.cons.inj (hs.symm.trans hs')
    obtain rfl : g = g' := TokenKind.opener.inj (ho.symm.trans ho')
    rfl
  | cons t ts ih =>
    rcases endsAt_cons.mp hv with ⟨hvt, hvm⟩ | ⟨hvf, hve⟩ <;>
      rcases endsAt_cons.mp hw with ⟨hwt, hwm⟩ | ⟨hwf, hwe⟩
    · exact hvm.unique hwm (hvt.trans hwt.symm)
    · rw [← hvt] at hwf
      exact absurd hwf hvm.not_fits
    · rw [← hwt] at hvf
      exact absurd hvf hwm.not_fits
    · exact ih hve hwe

/-- Where there is a violation, the tokens do not close all they open. -/
theorem EndsAt.not_closed {cap : Option Int} {stack ts : List Token} {v : Violation}
    (h : EndsAt cap stack ts v) : ¬ (Admissible cap stack ts ∧ openers stack ts = []) := by
  intro hclosed
  obtain ⟨ha, ho⟩ := hclosed
  cases h with
  | misfit split _ misfit => exact misfit.not_fits (ha _ _ _ split)
  | unclosed _ stays _ => simp [ho] at stays

namespace Expansion

/-- The groups that an expansion holds open are those of the openers `stack`. -/
structure Tracks (e : Expansion) (stack : List Token) : Prop where
  map_opener : e.pending.map Pending.opener = stack
  opens : ∀ p ∈ e.pending, p.opener.kind = .opener p.group

theorem tracks_initial : Tracks {} [] := ⟨rfl, by simp⟩

/-- Opening a group: it fits and is tracked, or it is the violation. -/
theorem openGroup_outcome (cap : Option Int) {e : Expansion} {stack : List Token} {t : Token}
    {group : Group} (he : e.Tracks stack) (ht : t.kind = .opener group) :
    (Fits cap stack t ∧ ∃ e', e.openGroup cap group t = .ok e' ∧ e'.Tracks (t :: stack)) ∨
      ∃ v, e.openGroup cap group t = .error v ∧ v.token = t ∧ Misfit cap stack v := by
  have hlen : e.pending.length = stack.length := by
    rw [← he.map_opener, List.length_map]
  have htracks : Tracks ⟨⟨group, t, e.fragments⟩ :: e.pending, []⟩ (t :: stack) := by
    refine ⟨by rw [List.map_cons, he.map_opener], ?_⟩
    intro p hp
    rcases List.mem_cons.mp hp with rfl | hp
    · exact ht
    · exact he.opens p hp
  have hfits : Fits none stack t := fits_of_opener ht stack
  cases cap with
  | none => exact .inl ⟨hfits, _, rfl, htracks⟩
  | some limit =>
    -- The cap counts the groups that are open in front of the opener, not the opener's own.
    by_cases hfull : limit ≤ (e.pending.length : Int)
    · have hstep : e.openGroup (some limit) group t = .error ⟨.tooDeep limit, t⟩ := by
        simp [openGroup, hfull]
      have hmisfit : Misfit (some limit) stack ⟨.tooDeep limit, t⟩ := by
        apply Misfit.tooDeep ht rfl
        omega
      exact .inr ⟨_, hstep, rfl, hmisfit⟩
    · have hshallow : Fits (some limit) stack t := by
        refine ⟨hfits.matched, ?_⟩
        intro _ tight _ hcap
        have hlimit := Option.some.inj hcap
        omega
      exact .inl ⟨hshallow, _, by simp [openGroup, hfull], htracks⟩

/-- Closing a group: it fits and is tracked, or it is the violation. -/
theorem closeGroup_outcome (cap : Option Int) {e : Expansion} {stack : List Token} {t : Token}
    {closer : Closer} (he : e.Tracks stack) (ht : t.kind = .closer closer) :
    (Fits cap stack t ∧ ∃ e', e.closeGroup closer t = .ok e' ∧ e'.Tracks stack.tail) ∨
      ∃ v, e.closeGroup closer t = .error v ∧ v.token = t ∧ Misfit cap stack v := by
  obtain ⟨pending, fragments⟩ := e
  cases pending with
  | nil =>
    obtain rfl : [] = stack := he.map_opener
    exact .inr ⟨_, rfl, rfl, .unexpectedCloser ht (by simp)⟩
  | cons p outer =>
    obtain rfl : p.opener :: outer.map Pending.opener = stack := he.map_opener
    have hp : p.opener.kind = .opener p.group := he.opens p List.mem_cons_self
    have hhead : (p.opener :: outer.map Pending.opener).head?.bind Token.closer? =
        some p.group.closer := by
      simp [Token.closer?, hp]
    by_cases hc : p.group.closer = closer
    · rw [hc] at hhead
      refine .inl ⟨fits_of_closer ht hhead cap, _, if_pos hc, rfl, ?_⟩
      intro q hq
      exact he.opens q (List.mem_cons_of_mem p hq)
    · have hother : (p.opener :: outer.map Pending.opener).head?.bind Token.closer? ≠ some closer := by
        rw [hhead]
        exact fun h => hc (Option.some.inj h)
      exact .inr ⟨_, if_neg hc, rfl, .unexpectedCloser ht hother⟩

/-- One token: it fits and the groups stay tracked, or it is the violation. -/
theorem step_outcome (cap : Option Int) {e : Expansion} {stack : List Token} (t : Token)
    (he : e.Tracks stack) :
    (Fits cap stack t ∧ ∃ e', e.step cap t = .ok e' ∧ e'.Tracks (t.nest stack)) ∨
      ∃ v, e.step cap t = .error v ∧ v.token = t ∧ Misfit cap stack v := by
  cases ht : t.kind with
  | opener group =>
    simpa only [step, Token.nest, ht] using openGroup_outcome cap he ht
  | closer closer =>
    simpa only [step, Token.nest, ht] using closeGroup_outcome cap he ht
  | arrow | suffix | string | operator | atom =>
    have plain : t.kind.isDelimiter = false := by
      rw [ht]
      rfl
    rw [nest_of_plain plain]
    refine .inl ⟨fits_of_plain plain cap stack, ?_⟩
    simp only [step, ht, push]
    exact ⟨_, rfl, he.map_opener, he.opens⟩

theorem run_cons_of_ok {cap : Option Int} {e e' : Expansion} {t : Token} (h : e.step cap t = .ok e')
    (ts : List Token) : run cap e (t :: ts) = run cap e' ts := by
  simp only [run, h]

/-- By induction over the tokens: all fit and nothing stays open, or the run ends at the first violation. -/
theorem run_outcome (cap : Option Int) {e : Expansion} {stack : List Token} (ts : List Token)
    (he : e.Tracks stack) :
    ((Admissible cap stack ts ∧ openers stack ts = []) ∧ ∃ fs, (run cap e ts).1 = .ok fs) ∨
      ∃ v, (run cap e ts).1 = .error v ∧ EndsAt cap stack ts v := by
  -- The openers open in front of each token are those of the groups that the expansion holds open.
  induction ts generalizing e stack with
  | nil =>
    obtain ⟨pending, fragments⟩ := e
    cases pending with
    | nil =>
      obtain rfl : [] = stack := he.map_opener
      exact .inl ⟨⟨admissible_nil cap [], rfl⟩, _, rfl⟩
    | cons p outer =>
      have hp : p.opener.kind = .opener p.group := he.opens p List.mem_cons_self
      exact .inr ⟨_, rfl, endsAt_nil.mpr ⟨_, _, _, he.map_opener.symm, hp, rfl⟩⟩
  | cons t ts ih =>
    rcases step_outcome cap t he with ⟨hf, e', hs, he'⟩ | ⟨v, hs, hvt, hm⟩
    · rw [run_cons_of_ok hs]
      rcases ih he' with ⟨⟨ha, ho⟩, hok⟩ | ⟨v, hv, hends⟩
      · have hall : Admissible cap stack (t :: ts) := admissible_cons.mpr ⟨hf, ha⟩
        exact .inl ⟨⟨hall, ho⟩, hok⟩
      · have hlater : EndsAt cap stack (t :: ts) v := endsAt_cons.mpr (.inr ⟨hf, hends⟩)
        exact .inr ⟨v, hv, hlater⟩
    · have hrun : (run cap e (t :: ts)).1 = .error v := by simp only [run, hs]
      have hhere : EndsAt cap stack (t :: ts) v := endsAt_cons.mpr (.inl ⟨hvt, hm⟩)
      exact .inr ⟨v, hrun, hhere⟩

theorem run_ok_iff (cap : Option Int) (ts : List Token) :
    (∃ fs, (run cap {} ts).1 = .ok fs) ↔ Admissible cap [] ts ∧ openers [] ts = [] := by
  rcases run_outcome cap ts tracks_initial with ⟨hc, hok⟩ | ⟨v, hv, hends⟩
  · exact iff_of_true hok hc
  · refine iff_of_false ?_ hends.not_closed
    intro hok
    obtain ⟨fs, hfs⟩ := hok
    rw [hv] at hfs
    cases hfs

theorem run_error_iff (cap : Option Int) (ts : List Token) (v : Violation) :
    (run cap {} ts).1 = .error v ↔ EndsAt cap [] ts v := by
  rcases run_outcome cap ts tracks_initial with ⟨hc, fs, hfs⟩ | ⟨w, hw, hends⟩
  · refine iff_of_false ?_ fun h => h.not_closed hc
    rw [hfs]
    exact nofun
  · rw [hw]
    constructor
    · intro h
      obtain rfl : w = v := Except.error.inj h
      exact hends
    · intro h
      rw [hends.unique h]

/-- The cap `wide` bounds no nesting that `cap` does not bound. -/
def Loosens (cap wide : Option Int) : Prop :=
  ∀ limit, wide = some limit → ∃ tight, cap = some tight ∧ tight ≤ limit

/-- What a cap lets pass a wider one lets pass. -/
theorem step_loosen {cap wide : Option Int} (hw : Loosens cap wide) {e e' : Expansion} {t : Token}
    (h : e.step cap t = .ok e') : e.step wide t = .ok e' := by
  cases ht : t.kind with
  | opener group =>
    simp only [step, ht] at h ⊢
    cases wide with
    | none =>
      cases cap with
      | none => exact h
      | some tight =>
        simp only [openGroup] at h
        split at h
        · cases h
        · exact h
    | some limit =>
      obtain ⟨tight, rfl, hle⟩ := hw limit rfl
      simp only [openGroup] at h ⊢
      split at h
      · cases h
      · rw [if_neg (by omega)]
        exact h
  | closer | arrow | suffix | string | operator | atom =>
    simpa only [step, ht] using h

/-- So does a run under a wider cap, by induction over the tokens. -/
theorem run_loosen {cap wide : Option Int} (hw : Loosens cap wide) {e : Expansion} {ts : List Token}
    {fs : List Fragment} (h : (run cap e ts).1 = .ok fs) : (run wide e ts).1 = .ok fs := by
  induction ts generalizing e with
  | nil => exact h
  | cons t ts ih =>
    cases hs : e.step cap t with
    | error v =>
      simp only [run, hs] at h
      cases h
    | ok e' =>
      rw [run_cons_of_ok hs] at h
      rw [run_cons_of_ok (step_loosen hw hs)]
      exact ih h

end Expansion

theorem expandTokens_eq_ok_iff {ts : List Token} {origin : Origin} {cap : Option Int} {out : Text} :
    expandTokens ts origin cap = .ok out ↔
      ∃ fs, (Expansion.run cap {} ts).1 = .ok fs ∧ Fragment.concat fs = out := by
  rw [expandTokens, expandFragments]
  cases (Expansion.run cap {} ts).1 with
  | error v =>
    refine iff_of_false nofun ?_
    intro hok
    obtain ⟨fs, hfs, -⟩ := hok
    cases hfs
  | ok fs =>
    constructor
    · intro h
      exact ⟨fs, rfl, Except.ok.inj h⟩
    · intro h
      obtain ⟨fs', hfs, rfl⟩ := h
      obtain rfl : fs = fs' := Except.ok.inj hfs
      rfl

theorem expandTokens_eq_error_iff {ts : List Token} {origin : Origin} {cap : Option Int}
    {d : Diagnostic} : expandTokens ts origin cap = .error d ↔
      ∃ v, (Expansion.run cap {} ts).1 = .error v ∧ v.diagnose origin = d := by
  rw [expandTokens, expandFragments]
  cases (Expansion.run cap {} ts).1 with
  | error v =>
    constructor
    · intro h
      exact ⟨v, rfl, Except.error.inj h⟩
    · intro h
      obtain ⟨v', hv, rfl⟩ := h
      obtain rfl : v = v' := Except.error.inj hv
      rfl
  | ok fs =>
    refine iff_of_false nofun ?_
    intro hfails
    obtain ⟨v, hv, -⟩ := hfails
    cases hv

/-- Tokens that expand under a cap expand to the same text under a wider one. -/
theorem expandTokens_loosen {cap wide : Option Int} (hw : Expansion.Loosens cap wide) {ts : List Token}
    {origin : Origin} {out : Text} (h : expandTokens ts origin cap = .ok out) :
    expandTokens ts origin wide = .ok out := by
  obtain ⟨fs, hrun, rfl⟩ := expandTokens_eq_ok_iff.mp h
  exact expandTokens_eq_ok_iff.mpr ⟨fs, Expansion.run_loosen hw hrun, rfl⟩

theorem expand_eq_ok_iff {t : Text} {file : Option FilePath} {cap : Option Int} {out : Text} :
    expand t file cap = .ok out ↔ ∃ tokens trailing inner, tokenize t file = .ok (tokens, trailing) ∧
      expandTokens tokens ⟨file, some t⟩ cap = .ok inner ∧ inner ++ trailing = out := by
  cases ht : tokenize t file with
  | error d => simp [expand, ht]
  | ok r =>
    obtain ⟨tokens, trailing⟩ := r
    simp only [expand, ht]
    constructor
    · intro h
      cases hx : expandTokens tokens ⟨file, some t⟩ cap with
      | error d =>
        rw [hx] at h
        cases h
      | ok inner =>
        rw [hx] at h
        exact ⟨tokens, trailing, inner, rfl, hx, Except.ok.inj h⟩
    · intro h
      obtain ⟨tokens', trailing', inner, hr, hx, rfl⟩ := h
      obtain ⟨rfl, rfl⟩ := Prod.mk.inj (Except.ok.inj hr)
      rw [hx]
      rfl

/-- So does a text. -/
theorem expand_loosen {cap wide : Option Int} (hw : Expansion.Loosens cap wide) {t : Text}
    {file : Option FilePath} {out : Text} (h : expand t file cap = .ok out) :
    expand t file wide = .ok out := by
  obtain ⟨tokens, trailing, inner, ht, hi, ho⟩ := expand_eq_ok_iff.mp h
  exact expand_eq_ok_iff.mpr ⟨tokens, trailing, inner, ht, expandTokens_loosen hw hi, ho⟩

theorem fault_ne_openString {cap : Option Int} {stack ts : List Token} {v : Violation}
    (h : EndsAt cap stack ts v) : v.fault ≠ .openString := by
  cases h with
  | misfit _ _ misfit => cases misfit <;> exact nofun
  | unclosed => exact nofun

/-- A text has no tokens exactly if its expansion is refused for an open string. -/
theorem tokenize_error_iff {t : Text} {file : Option FilePath} {cap : Option Int} {d : Diagnostic} :
    tokenize t file = .error d ↔ expand t file cap = .error d ∧ d.fault = .openString := by
  constructor
  · intro h
    exact ⟨by simp only [expand, h], fault_of_tokenize_error h⟩
  · intro h
    obtain ⟨he, hd⟩ := h
    cases ht : tokenize t file with
    | error d' =>
      simp only [expand, ht] at he
      rw [Except.error.inj he]
    | ok r =>
      obtain ⟨tokens, trailing⟩ := r
      simp only [expand, ht] at he
      cases hx : expandTokens tokens ⟨file, some t⟩ cap with
      | ok inner =>
        rw [hx] at he
        cases he
      | error d' =>
        rw [hx] at he
        obtain rfl : d' = d := Except.error.inj he
        obtain ⟨v, hv, rfl⟩ := expandTokens_eq_error_iff.mp hx
        exact absurd hd (fault_ne_openString ((Expansion.run_error_iff cap tokens v).mp hv))

theorem message_unclosed (group : Group) : (Fault.unclosed group).message =
    "Expected '".toList ++ group.closer.char :: "', got EOF".toList := by
  cases group <;> decide

end Shorthand
