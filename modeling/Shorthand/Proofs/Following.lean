import Shorthand.Proofs.Nesting

/-! Tokens behind other tokens. Behind tokens that expand, an expansion goes on as it does from the start:
its outermost level shows the same text behind what was there before, and it breaks at the same token for
the same reason. Where tokens stand changes nothing but the place that a refusal names. -/
namespace Shorthand

/-- A map of tokens that changes nothing but their places. -/
def Token.Relocates (ρ : Token → Token) : Prop :=
  ∀ t, (ρ t).kind = t.kind ∧ (ρ t).value = t.value ∧ (ρ t).leading = t.leading

def Token.behind (gap : Text) (t : Token) : Token := { t with leading := gap ++ t.leading }

/-- Two violations with the same fault at the same place. -/
structure Violation.Alike (v v' : Violation) : Prop where
  fault : v'.fault = v.fault
  line : v'.token.line = v.token.line
  column : v'.token.column = v.token.column

/-- Two outcomes that succeed with related results, or fail alike. -/
inductive Violation.Together {α : Type} (R : α → α → Prop) :
    Except Violation α → Except Violation α → Prop where
  | ok {a a' : α} (related : R a a') : Together R (.ok a) (.ok a')
  | error {v v' : Violation} (alike : v.Alike v') : Together R (.error v) (.error v')

theorem Violation.Together.imp {α : Type} {R S : α → α → Prop} {r r' : Except Violation α}
    (h : Together R r r') (hrs : ∀ a a', R a a' → S a a') : Together S r r' := by
  cases h with
  | ok related => exact .ok (hrs _ _ related)
  | error alike => exact .error alike

namespace Expansion

open Violation

/-- Newest first, the fragments `fs` show some text behind `x`, and `fs'` show the same text behind `x'`.
Either both end with an arrow or neither. -/
structure Level (x x' : Text) (fs fs' : List Fragment) : Prop where
  shown : ∃ z, Fragment.concat fs.reverse = x ++ z ∧ Fragment.concat fs'.reverse = x' ++ z
  newest : ∃ f f' older older', fs = f :: older ∧ fs' = f' :: older' ∧ f'.isArrow = f.isArrow

/-- Two expansions that differ on the outermost level only: there the first shows some text behind `x`, and
the second the same behind `x'`. -/
inductive Follows (x x' : Text) : Expansion → Expansion → Prop where
  | outer {fs fs' : List Fragment} (level : Level x x' fs fs') : Follows x x' ⟨[], fs⟩ ⟨[], fs'⟩
  | inner (inside : List Pending) {p p' : Pending} {fs : List Fragment} (group : p'.group = p.group)
      (line : p'.opener.line = p.opener.line) (column : p'.opener.column = p.opener.column)
      (shown : ∃ z, Fragment.concat p.before.reverse ++ p.opener.leading = x ++ z ∧
        Fragment.concat p'.before.reverse ++ p'.opener.leading = x' ++ z) :
      Follows x x' ⟨inside ++ [p], fs⟩ ⟨inside ++ [p'], fs⟩

variable {x x' : Text} {fs fs' : List Fragment} {e e' : Expansion}

theorem concat_reverse_cons (f : Fragment) (fs : List Fragment) :
    Fragment.concat (f :: fs).reverse = Fragment.concat fs.reverse ++ f.text := by
  simp [Fragment.concat]

theorem Level.push (h : Level x x' fs fs') (f : Fragment) : Level x x' (f :: fs) (f :: fs') := by
  obtain ⟨z, hz, hz'⟩ := h.shown
  refine ⟨⟨z ++ f.text, ?_, ?_⟩, f, f, fs, fs', rfl, rfl, rfl⟩
  · rw [concat_reverse_cons, hz, List.append_assoc]
  · rw [concat_reverse_cons, hz', List.append_assoc]

/-- A suffix is attached to the same fragment on either level. -/
theorem Level.attach (h : Level x x' fs fs') (suffix : Suffix) (leading : Text) :
    Level x x' (Fragment.attach suffix leading fs) (Fragment.attach suffix leading fs') := by
  -- Whether the suffix joins the newest fragment depends only on whether that is an arrow.
  obtain ⟨f, f', older, older', rfl, rfl, harrow⟩ := h.newest
  by_cases ha : f.isArrow = true
  · have ha' : f'.isArrow = true := harrow.trans ha
    rw [Fragment.attach, Fragment.attach, if_pos ha, if_pos ha']
    exact h.push _
  · have ha' : ¬ f'.isArrow = true := by rwa [harrow]
    obtain ⟨z, hz, hz'⟩ := h.shown
    rw [concat_reverse_cons] at hz hz'
    rw [Fragment.attach, Fragment.attach, if_neg ha, if_neg ha']
    refine ⟨⟨z ++ suffix.call, ?_, ?_⟩, _, _, older, older', rfl, rfl, rfl⟩
    · rw [concat_reverse_cons, ← List.append_assoc, hz, List.append_assoc]
    · rw [concat_reverse_cons, ← List.append_assoc, hz', List.append_assoc]

theorem Follows.length_pending (h : Follows x x' e e') : e'.pending.length = e.pending.length := by
  cases h with
  | outer => rfl
  | inner => simp

/-- A group opens on both sides or on neither. -/
theorem openGroup_follows (h : Follows x x' e e') (cap : Option Int) (g : Group) (t : Token) :
    Together (Follows x x') (e.openGroup cap g t) (e'.openGroup cap g t) := by
  have hopen : Follows x x' ⟨⟨g, t, e.fragments⟩ :: e.pending, []⟩
      ⟨⟨g, t, e'.fragments⟩ :: e'.pending, []⟩ := by
    cases h with
    | @outer fs fs' level =>
      obtain ⟨z, hz, hz'⟩ := level.shown
      refine Follows.inner [] rfl rfl rfl ⟨z ++ t.leading, ?_, ?_⟩
      · rw [hz, List.append_assoc]
      · rw [hz', List.append_assoc]
    | @inner inside p p' fs group line column shown =>
      exact .inner (⟨g, t, fs⟩ :: inside) group line column shown
  cases cap with
  | none => exact .ok hopen
  | some limit =>
    simp only [openGroup, h.length_pending]
    split
    · exact .error ⟨rfl, rfl, rfl⟩
    · exact .ok hopen

/-- A group closes on both sides or on neither, and becomes the same text. -/
theorem closeGroup_follows (h : Follows x x' e e') (closer : Closer) (t : Token) :
    Together (Follows x x') (e.closeGroup closer t) (e'.closeGroup closer t) := by
  cases h with
  | outer => exact .error ⟨rfl, rfl, rfl⟩
  | @inner inside p p' fs group line column shown =>
    cases inside with
    | nil =>
      -- The group that closes is the one that differs, so its text goes to the outermost level.
      simp only [closeGroup, List.nil_append, group]
      split
      · obtain ⟨z, hz, hz'⟩ := shown
        refine .ok (.outer ⟨⟨z ++ p.group.desugar fs.reverse t.leading, ?_, ?_⟩, ?_⟩)
        · rw [concat_reverse_cons, ← List.append_assoc, hz, List.append_assoc]
        · rw [concat_reverse_cons, ← List.append_assoc, hz', List.append_assoc]
        · exact ⟨_, _, _, _, rfl, rfl, rfl⟩
      · exact .error ⟨rfl, rfl, rfl⟩
    | cons q inside =>
      simp only [closeGroup, List.cons_append]
      split
      · exact .ok (.inner inside group line column shown)
      · exact .error ⟨rfl, rfl, rfl⟩

/-- One token keeps two expansions together. -/
theorem step_follows (h : Follows x x' e e') (cap : Option Int) (t : Token) :
    Together (Follows x x') (e.step cap t) (e'.step cap t) := by
  cases ht : t.kind with
  | opener g => simpa only [step, ht] using openGroup_follows h cap g t
  | closer closer => simpa only [step, ht] using closeGroup_follows h closer t
  | suffix suffix =>
    simp only [step, ht]
    cases h with
    | outer level => exact .ok (.outer (level.attach suffix t.leading))
    | inner inside group line column shown => exact .ok (.inner inside group line column shown)
  | arrow | string | operator | atom =>
    simp only [step, ht, push]
    cases h with
    | outer level => exact .ok (.outer (level.push _))
    | inner inside group line column shown => exact .ok (.inner inside group line column shown)

/-- So do all tokens, by induction: what is added is the same. -/
theorem run_follows (h : Follows x x' e e') (cap : Option Int) (ts : List Token) :
    Together (fun fs fs' => ∃ z, Fragment.concat fs = x ++ z ∧ Fragment.concat fs' = x' ++ z)
      (run cap e ts).1 (run cap e' ts).1 := by
  -- Every step keeps `Follows`, so at the end the outermost levels differ only in what they start with.
  induction ts generalizing e e' with
  | nil =>
    cases h with
    | outer level => exact .ok level.shown
    | @inner inside p p' fs group line column shown =>
      cases inside with
      | nil => exact .error ⟨congrArg Fault.unclosed group, line, column⟩
      | cons q inside => exact .error ⟨rfl, rfl, rfl⟩
  | cons t ts ih =>
    have hstep := step_follows h cap t
    rw [run, run]
    generalize e.step cap t = r at hstep
    generalize e'.step cap t = r' at hstep
    cases hstep with
    | ok related => exact ih related
    | error alike => exact .error alike

theorem attach_cons (suffix : Suffix) (leading : Text) (fs : List Fragment) :
    ∃ f older, Fragment.attach suffix leading fs = f :: older ∧ f.isArrow = false := by
  cases fs with
  | nil => exact ⟨_, [], rfl, rfl⟩
  | cons last older =>
    rw [Fragment.attach]
    split
    · exact ⟨_, last :: older, rfl, rfl⟩
    · exact ⟨_, older, rfl, rfl⟩

/-- Behind fragments that are done, the first token goes as it does at the start; unless it is a suffix,
they stay as they are. -/
theorem step_start (cap : Option Int) (older : List Fragment) (gap : Text) (t : Token) :
    ∃ y y', Together (Follows y y') (step cap {} t) (step cap ⟨[], older⟩ (t.behind gap)) ∧
      ((∀ suffix, t.kind ≠ .suffix suffix) → y = [] ∧ y' = Fragment.concat older.reverse ++ gap) := by
  have hkind : (t.behind gap).kind = t.kind := rfl
  -- Only a suffix touches what stands in front of it; any other token starts afresh behind the gap.
  cases ht : t.kind with
  | opener g =>
    refine ⟨[], Fragment.concat older.reverse ++ gap, ?_, fun _ => ⟨rfl, rfl⟩⟩
    have hopen : Follows [] (Fragment.concat older.reverse ++ gap) ⟨[⟨g, t, []⟩], []⟩
        ⟨[⟨g, t.behind gap, older⟩], []⟩ :=
      .inner [] rfl rfl rfl ⟨t.leading, rfl, (List.append_assoc ..).symm⟩
    simp only [step, hkind, ht, openGroup]
    cases cap with
    | none => exact .ok hopen
    | some limit =>
      dsimp only
      split
      · exact .error ⟨rfl, rfl, rfl⟩
      · exact .ok hopen
  | closer closer =>
    refine ⟨[], _, ?_, fun _ => ⟨rfl, rfl⟩⟩
    simp only [step, hkind, ht]
    exact .error ⟨rfl, rfl, rfl⟩
  | suffix suffix =>
    obtain ⟨f', older', hattach, harrow⟩ := attach_cons suffix (gap ++ t.leading) older
    let attached := Fragment.attach suffix (gap ++ t.leading) older
    have hlevel : Level (t.leading ++ suffix.call) (Fragment.concat attached.reverse)
        (Fragment.attach suffix t.leading []) attached := by
      refine ⟨⟨[], ?_, (List.append_nil _).symm⟩, _, f', [], older', rfl, hattach, harrow⟩
      simp [Fragment.attach, Fragment.concat]
    refine ⟨t.leading ++ suffix.call, Fragment.concat attached.reverse, ?_, fun h => absurd rfl (h suffix)⟩
    simp only [step, hkind, ht]
    exact .ok (.outer hlevel)
  | arrow | string | operator | atom =>
    have hlevel : Level [] (Fragment.concat older.reverse ++ gap) [⟨t.leading ++ t.value, some t.kind⟩]
        (⟨(t.behind gap).leading ++ t.value, some t.kind⟩ :: older) := by
      refine ⟨⟨t.leading ++ t.value, by simp [Fragment.concat], ?_⟩, _, _, _, _, rfl, rfl, rfl⟩
      rw [concat_reverse_cons]
      simp [Token.behind]
    refine ⟨[], Fragment.concat older.reverse ++ gap, ?_, fun _ => ⟨rfl, rfl⟩⟩
    rw [ht] at hlevel
    simp only [step, hkind, ht, push]
    exact .ok (.outer hlevel)

/-- Tokens that leave no group open are read first, and the others go on behind their fragments. -/
theorem run_append {cap : Option Int} {ts : List Token} (h : (run cap e ts).1 = .ok fs) (us : List Token) :
    run cap e (ts ++ us) = run cap ⟨[], fs.reverse⟩ us := by
  induction ts generalizing e with
  | nil =>
    obtain ⟨pending, fragments⟩ := e
    cases pending with
    | nil =>
      obtain rfl : fragments.reverse = fs := Except.ok.inj h
      rw [List.reverse_reverse]
      rfl
    | cons p outer => cases h
  | cons t ts ih =>
    cases hs : e.step cap t with
    | error v =>
      simp only [run, hs] at h
      cases h
    | ok r =>
      rw [run_cons_of_ok hs] at h
      rw [List.cons_append, run_cons_of_ok hs]
      exact ih h

/-- Behind tokens that expand and a gap, further tokens show the text that they show alone, unless the first
is a suffix; and they fail as they fail alone. -/
theorem run_behind {cap : Option Int} {ts : List Token} (h : (run cap {} ts).1 = .ok fs) (gap : Text)
    (u : Token) (us : List Token) :
    Together (fun gs gs' => (∀ suffix, u.kind ≠ .suffix suffix) →
        Fragment.concat gs' = Fragment.concat fs ++ gap ++ Fragment.concat gs)
      (run cap {} (u :: us)).1 (run cap {} (ts ++ u.behind gap :: us)).1 := by
  obtain ⟨y, y', hstep, hplain⟩ := step_start cap fs.reverse gap u
  rw [run_append h, run, run]
  generalize step cap {} u = r at hstep
  generalize step cap ⟨[], fs.reverse⟩ (u.behind gap) = r' at hstep
  cases hstep with
  | error alike => exact .error alike
  | ok related =>
    apply (run_follows related cap us).imp
    rintro gs gs' ⟨z, hz, hz'⟩ hu
    obtain ⟨rfl, rfl⟩ := hplain hu
    rw [List.reverse_reverse] at hz'
    rw [hz', hz, List.nil_append]

/-- An expansion whose open groups were opened elsewhere. -/
def relocate (ρ : Token → Token) (e : Expansion) : Expansion :=
  { e with pending := e.pending.map fun p => { p with opener := ρ p.opener } }

variable {ρ : Token → Token}

/-- A step does not look at places: tokens elsewhere give the same, elsewhere. -/
theorem step_relocate (hρ : Token.Relocates ρ) (cap : Option Int) (e : Expansion) (t : Token) :
    (e.relocate ρ).step cap (ρ t) =
      ((e.step cap t).map (relocate ρ)).mapError fun v => ⟨v.fault, ρ v.token⟩ := by
  obtain ⟨hkind, hvalue, hleading⟩ := hρ t
  -- A step reads the kind, the text and the blanks of a token, and its place goes only into the violation.
  cases ht : t.kind with
  | opener g =>
    cases cap with
    | none =>
      simp only [step, hkind, ht, openGroup]
      rfl
    | some limit =>
      simp only [step, hkind, ht, openGroup, relocate, List.length_map]
      split <;> rfl
  | closer closer =>
    obtain ⟨pending, fragments⟩ := e
    cases pending with
    | nil =>
      simp only [step, hkind, ht, closeGroup, hvalue]
      rfl
    | cons p outer =>
      obtain ⟨-, -, hopener⟩ := hρ p.opener
      simp only [step, hkind, ht, closeGroup, relocate, List.map_cons, hvalue, hleading, hopener]
      split <;> rfl
  | suffix suffix =>
    simp only [step, hkind, ht, hleading]
    rfl
  | arrow | string | operator | atom =>
    simp only [step, hkind, ht, hvalue, hleading]
    rfl

/-- Nor does a run, by induction over the tokens. -/
theorem run_relocate (hρ : Token.Relocates ρ) (cap : Option Int) (e : Expansion) (ts : List Token) :
    (run cap (e.relocate ρ) (ts.map ρ)).1 =
      (run cap e ts).1.mapError fun v => ⟨v.fault, ρ v.token⟩ := by
  induction ts generalizing e with
  | nil =>
    obtain ⟨pending, fragments⟩ := e
    cases pending <;> rfl
  | cons t ts ih =>
    rw [List.map_cons, run, run, step_relocate hρ]
    cases e.step cap t with
    | error v => rfl
    | ok r => exact ih r

end Expansion

end Shorthand
