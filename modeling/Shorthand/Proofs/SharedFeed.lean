import Shorthand.Proofs.Nesting

/-! Feeds that several readers share. Whoever reads from a feed finds what the others have left: an
expansion goes as it does on a new feed of the tokens that are left, and it stops behind the last token or
behind the one that breaks the nesting. Unless the feed is set back, no token is handed out twice. Main
statement: `feed_shared`. -/
namespace Shorthand

namespace Expansion

def reads (cap : Option Int) (e : Expansion) : List Token → Nat
  | [] => 0
  | t :: ts =>
    match e.step cap t with
    | .error _ => 1
    | .ok e' => reads cap e' ts + 1

variable {cap : Option Int} {e e' : Expansion} {stack ts : List Token} {t : Token} {v : Violation}

theorem reads_cons_of_ok (h : e.step cap t = .ok e') (ts : List Token) :
    reads cap e (t :: ts) = reads cap e' ts + 1 := by
  simp only [reads, h]

theorem reads_cons_of_error (h : e.step cap t = .error v) (ts : List Token) :
    reads cap e (t :: ts) = 1 := by
  simp only [reads, h]

theorem run_cons_of_error (h : e.step cap t = .error v) (ts : List Token) :
    run cap e (t :: ts) = (.error v, ts) := by
  simp only [run, h]

/-- What an expansion does not read is what it leaves. -/
theorem length_run_unread (cap : Option Int) (e : Expansion) (ts : List Token) :
    reads cap e ts + (run cap e ts).2.length = ts.length := by
  induction ts generalizing e with
  | nil => rfl
  | cons t ts ih =>
    cases hs : e.step cap t with
    | error v =>
      rw [reads_cons_of_error hs, run_cons_of_error hs, List.length_cons]
      exact Nat.add_comm 1 ts.length
    | ok e' =>
      have hrest := ih e'
      rw [reads_cons_of_ok hs, run_cons_of_ok hs, List.length_cons]
      omega

/-- An expansion that succeeds, or that finds a group left open, reads every token. Any other one reads up
to the first token that does not fit. -/
theorem reads_outcome (cap : Option Int) (ts : List Token) (he : e.Tracks stack) :
    (reads cap e ts = ts.length ∧ ((∃ fs, (run cap e ts).1 = .ok fs) ∨
      ∃ group opener, (run cap e ts).1 = .error ⟨.unclosed group, opener⟩)) ∨
    ∃ before after v, ts = before ++ v.token :: after ∧ reads cap e ts = before.length + 1 ∧
      (run cap e ts).1 = .error v ∧ Admissible cap stack before ∧ Misfit cap (openers stack before) v := by
  induction ts generalizing e stack with
  | nil =>
    refine .inl ⟨rfl, ?_⟩
    obtain ⟨pending, fragments⟩ := e
    cases pending with
    | nil => exact .inl ⟨_, rfl⟩
    | cons p outer => exact .inr ⟨_, _, rfl⟩
  | cons t ts ih =>
    rcases step_outcome cap t he with ⟨hf, e', hs, he'⟩ | ⟨v, hs, rfl, hm⟩
    · rw [run_cons_of_ok hs, reads_cons_of_ok hs]
      rcases ih he' with ⟨hall, hend⟩ | ⟨before, after, v, rfl, hread, hv, ha, hm⟩
      · exact .inl ⟨by rw [hall, List.length_cons], hend⟩
      · have hbefore : Admissible cap stack (t :: before) := admissible_cons.mpr ⟨hf, ha⟩
        exact .inr ⟨t :: before, after, v, rfl, by rw [hread, List.length_cons], hv, hbefore, hm⟩
    · rw [run_cons_of_error hs, reads_cons_of_error hs]
      exact .inr ⟨[], ts, v, rfl, rfl, rfl, admissible_nil cap stack, hm⟩

end Expansion

inductive FeedStep where
  | peek
  | next
  | seek (n : Nat)
  | expand (origin : Origin) (cap : Option Int)
deriving DecidableEq, Repr

def FeedStep.isSeek : FeedStep → Bool
  | .seek _ => true
  | _ => false

namespace TokenFeed

def after (f : TokenFeed) : FeedStep → TokenFeed
  | .peek => f
  | .next => f.next.2
  | .seek n => f.seek n
  | .expand origin cap => (f.expand origin cap).2

/-- The positions of the tokens that a step hands out. -/
def taken (f : TokenFeed) : FeedStep → List Nat
  | .peek | .seek _ => []
  | .next => if f.next.1.isSome then [f.position] else []
  | .expand _ cap => List.range' f.position (Expansion.reads cap {} f.rest)

def afterAll (f : TokenFeed) (steps : List FeedStep) : TokenFeed := steps.foldl after f

/-- The positions of the tokens that some steps hand out, in order. -/
def takenAll (f : TokenFeed) : List FeedStep → List Nat
  | [] => []
  | step :: steps => f.taken step ++ (f.after step).takenAll steps

/-- The position of a feed is that of one of its tokens, or their number. -/
def Inside (f : TokenFeed) : Prop := f.position ≤ f.tokens.length

variable {f : TokenFeed} {step : FeedStep}

@[simp] theorem tokens_next (f : TokenFeed) : f.next.2.tokens = f.tokens := by
  rw [next]
  split <;> rfl

@[simp] theorem tokens_expand (f : TokenFeed) (origin : Origin) (cap : Option Int) :
    (f.expand origin cap).2.tokens = f.tokens := rfl

/-- No step changes the tokens. -/
theorem tokens_after (f : TokenFeed) (step : FeedStep) : (f.after step).tokens = f.tokens := by
  cases step with
  | peek | seek => rfl
  | next => exact tokens_next f
  | expand origin cap => exact tokens_expand f origin cap

theorem length_rest (f : TokenFeed) : f.rest.length = f.tokens.length - f.position :=
  List.length_drop

/-- An expansion moves the feed by the tokens that it reads. -/
theorem position_expand (f : TokenFeed) (origin : Origin) (cap : Option Int) :
    (f.expand origin cap).2.position = f.position + Expansion.reads cap {} f.rest := by
  have hread := Expansion.length_run_unread cap {} f.rest
  have hmove : (f.expand origin cap).2.position =
      f.position + (f.rest.length - (Expansion.run cap {} f.rest).2.length) := rfl
  omega

/-- An expansion knows nothing of the tokens that are consumed already. -/
theorem outcome_expand (f : TokenFeed) (origin : Origin) (cap : Option Int) :
    (f.expand origin cap).1 = expandTokens f.rest origin cap := rfl

/-- Taking the next token moves on by what it hands out. -/
theorem position_next (f : TokenFeed) :
    f.next.2.position = f.position + (f.taken .next).length := by
  rw [taken, next]
  split <;> rfl

/-- No step leaves the tokens. -/
theorem inside_after (h : f.Inside) (step : FeedStep) : (f.after step).Inside := by
  rw [Inside, tokens_after]
  cases step with
  | peek => exact h
  | next =>
    rw [after, next]
    split
    · exact h
    · rename_i t hpeek
      exact (List.getElem?_eq_some_iff.mp hpeek).1
  | seek n => exact Nat.min_le_right n f.tokens.length
  | expand origin cap =>
    have hread := Expansion.length_run_unread cap {} f.rest
    have hrest := f.length_rest
    have hin : f.position ≤ f.tokens.length := h
    rw [after, position_expand]
    omega

/-- So no sequence of steps does, by induction over the steps. -/
theorem inside_afterAll (h : f.Inside) (steps : List FeedStep) : (f.afterAll steps).Inside := by
  induction steps generalizing f with
  | nil => exact h
  | cons step steps ih => exact ih (inside_after h step)

theorem tokens_afterAll (f : TokenFeed) (steps : List FeedStep) :
    (f.afterAll steps).tokens = f.tokens := by
  induction steps generalizing f with
  | nil => rfl
  | cons step steps ih => exact (ih (f.after step)).trans (tokens_after f step)

/-- A step that does not set the feed back hands out the tokens that it passes, each of them once. -/
theorem taken_eq (h : step.isSeek = false) : ∃ n, f.taken step = List.range' f.position n ∧
    (f.after step).position = f.position + n := by
  cases step with
  | peek => exact ⟨0, rfl, rfl⟩
  | seek n => cases h
  | next =>
    refine ⟨(f.taken .next).length, ?_, position_next f⟩
    rw [taken]
    split <;> rfl
  | expand origin cap => exact ⟨_, rfl, position_expand f origin cap⟩

/-- So do several steps, one behind the other. -/
theorem takenAll_eq {steps : List FeedStep} (h : ∀ step ∈ steps, step.isSeek = false) :
    ∃ n, f.takenAll steps = List.range' f.position n ∧ (f.afterAll steps).position = f.position + n := by
  induction steps generalizing f with
  | nil => exact ⟨0, rfl, rfl⟩
  | cons step steps ih =>
    obtain ⟨hstep, hsteps⟩ := List.forall_mem_cons.mp h
    obtain ⟨n, htaken, hmove⟩ := taken_eq (f := f) hstep
    obtain ⟨m, hrest, hend⟩ := ih (f := f.after step) hsteps
    refine ⟨n + m, ?_, ?_⟩
    · rw [takenAll, htaken, hrest, hmove, List.range'_append_1]
    · rw [afterAll, List.foldl_cons, ← afterAll, hend, hmove, Nat.add_assoc]

/-- What is passed and what is left are all the tokens. -/
theorem position_add_size (h : f.Inside) : f.position + f.size = f.tokens.length :=
  Nat.add_sub_cancel' h

theorem hasMore_iff (f : TokenFeed) : f.hasMore = true ↔ 0 < f.size := by
  rw [hasMore, decide_eq_true_iff, size, Nat.sub_pos_iff_lt]

theorem next_eq_peek (f : TokenFeed) : f.next.1 = f.peek := by
  rw [next]
  split <;> simp_all

/-- Where an expansion leaves the feed. -/
theorem expand_stops (h : f.Inside) (origin : Origin) (cap : Option Int) :
    ((f.expand origin cap).2.position = f.tokens.length ∧ ((∃ out, (f.expand origin cap).1 = .ok out) ∨
      ∃ d group, (f.expand origin cap).1 = .error d ∧ d.fault = .unclosed group)) ∨
    ∃ i v, f.tokens[i]? = some v.token ∧ f.position ≤ i ∧ (f.expand origin cap).2.position = i + 1 ∧
      (f.expand origin cap).1 = .error (v.diagnose origin) ∧
      Admissible cap [] (f.rest.take (i - f.position)) ∧
      Misfit cap (openers [] (f.rest.take (i - f.position))) v := by
  have hin : f.position ≤ f.tokens.length := h
  have hrest := f.length_rest
  rw [outcome_expand, position_expand]
  rcases Expansion.reads_outcome cap f.rest Expansion.tracks_initial with
    ⟨hread, hend⟩ | ⟨before, after, v, hsplit, hread, hrun, ha, hm⟩
  · refine .inl ⟨by omega, ?_⟩
    rcases hend with ⟨fs, hfs⟩ | ⟨group, opener, hopen⟩
    · exact .inl ⟨_, expandTokens_eq_ok_iff.mpr ⟨fs, hfs, rfl⟩⟩
    · exact .inr ⟨_, group, expandTokens_eq_error_iff.mpr ⟨_, hopen, rfl⟩, rfl⟩
  · have hplace : f.tokens[f.position + before.length]? = some v.token := by
      rw [← List.getElem?_drop]
      change f.rest[before.length]? = _
      rw [hsplit, List.getElem?_append_right (Nat.le_refl _), Nat.sub_self]
      rfl
    have hbefore : f.rest.take (f.position + before.length - f.position) = before := by
      rw [hsplit, Nat.add_sub_cancel_left, List.take_left]
    refine .inr ⟨f.position + before.length, v, hplace, Nat.le_add_right _ _, by omega, ?_, ?_, ?_⟩
    · exact expandTokens_eq_error_iff.mpr ⟨v, hrun, rfl⟩
    · rw [hbefore]
      exact ha
    · rw [hbefore]
      exact hm

end TokenFeed

open TokenFeed

/-- A feed behind any steps is one of the tokens that are left. It is inside its tokens and counts what is
left; an expansion gives what it gives on a new feed of what is left, which is the same text or the same
diagnostic, so that the same is raised for it, be it the diagnostic's text or an obstacle. It stops behind the
last token if it succeeds or finds a group left open, else behind the first token that does not fit, which is
the one that it finds fault with. Steps that do not set the feed back only move it forwards, and hand out the
tokens that they pass, one after the other and each of them once. -/
theorem feed_shared (tokens : List Token) (steps : List FeedStep) :
    let f := ({ tokens } : TokenFeed).afterAll steps
    (f.tokens = tokens ∧ f.position ≤ tokens.length ∧ f.position + f.size = tokens.length ∧
      (f.hasMore = true ↔ 0 < f.size) ∧ f.after .peek = f ∧ f.peek = tokens[f.position]? ∧
      f.next.1 = f.peek) ∧
    (∀ origin cap,
      let fresh : TokenFeed := { tokens := tokens.drop f.position }
      let behind := (f.expand origin cap).2.position
      (f.expand origin cap).1 = (fresh.expand origin cap).1 ∧
      ((behind = tokens.length ∧ ((∃ out, (f.expand origin cap).1 = .ok out) ∨
        ∃ d group, (f.expand origin cap).1 = .error d ∧ d.fault = .unclosed group)) ∨
      ∃ i v, tokens[i]? = some v.token ∧ f.position ≤ i ∧ behind = i + 1 ∧
        (f.expand origin cap).1 = .error (v.diagnose origin) ∧
        Admissible cap [] (fresh.tokens.take (i - f.position)) ∧
        Misfit cap (openers [] (fresh.tokens.take (i - f.position))) v)) ∧
    ∀ more, (∀ step ∈ more, step.isSeek = false) →
      f.position ≤ (f.afterAll more).position ∧ (f.takenAll more).Nodup ∧
      f.takenAll more = List.range' f.position ((f.afterAll more).position - f.position) := by
  intro f
  have hinside : f.Inside := inside_afterAll (Nat.zero_le _) steps
  have htokens : f.tokens = tokens := tokens_afterAll _ steps
  refine ⟨⟨htokens, htokens ▸ hinside, htokens ▸ position_add_size hinside, hasMore_iff f, rfl, htokens ▸ rfl,
    next_eq_peek f⟩, fun origin cap => ?_, fun more hmore => ?_⟩
  · intro fresh behind
    refine ⟨?_, ?_⟩
    · rw [outcome_expand, outcome_expand, rest, rest, htokens]
      rfl
    · have hstops := expand_stops hinside origin cap
      rw [rest, htokens] at hstops
      exact hstops
  · obtain ⟨n, htaken, hmove⟩ := takenAll_eq (f := f) hmore
    refine ⟨by omega, ?_, ?_⟩
    · rw [htaken]
      exact List.nodup_range'
    · rw [htaken, hmove, Nat.add_sub_cancel_left]

/-- A feed that has been set back hands out three tokens again: a stray closer ends the first expansion, and
the token behind it is left for the next reader. -/
theorem feed_shared_stray :
    let tokens : List Token := [⟨.atom, ['a'], 1, 1, []⟩, ⟨.closer .paren, [')'], 1, 2, []⟩,
      ⟨.atom, ['b'], 1, 3, []⟩]
    let f := ({ tokens } : TokenFeed).afterAll [.next, .seek 9, .peek, .seek 0]
    let more : List FeedStep := [.expand {} none, .next, .expand {} (some 0)]
    (∀ step ∈ more, step.isSeek = false) ∧ (f.takenAll more).Nodup ∧ f.takenAll more = [0, 1, 2] := by
  intro tokens f more
  have hmore : ∀ step ∈ more, step.isSeek = false := by decide
  obtain ⟨-, -, hforwards⟩ := feed_shared tokens [.next, .seek 9, .peek, .seek 0]
  obtain ⟨-, honce, htaken⟩ := hforwards more hmore
  exact ⟨hmore, honce, htaken.trans (by decide)⟩

end Shorthand
