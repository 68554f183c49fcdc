import Mathlib.Data.Nat.Digits.Defs
import Shorthand.Proofs.Pointing

/-! What is raised where shorthand is refused. The first violation decides the diagnostic, and the diagnostic
is raised with its text. Only numbers that cannot be written prevent that: those of a cap or of a position
that somebody has made up, but none that comes with a text. Main statement: `expansion_outcome`. -/
namespace Shorthand

namespace Text

/-- The least number with more than the given number of digits. -/
def leastBeyond (digits : Nat) : Nat := Nat.pow 10 digits

/-- The least number with more digits than are written. -/
def numeralBound : Nat := leastBeyond maxDigits

theorem length_ofNat_le_iff {n digits : Nat} (h : 0 < digits) :
    (ofNat n).length ≤ digits ↔ n < leastBeyond digits :=
  Nat.length_toDigits_le_iff (by decide) h

/-- No word of 64 bits has too many digits. -/
theorem pow_le_numeralBound : 2 ^ 64 ≤ numeralBound := by decide +kernel

/-- An integer is written exactly if it is less than the first one with too many digits. -/
theorem isWritable_iff {n : Int} : isWritable n = true ↔ n.natAbs < numeralBound := by
  rw [isWritable, decide_eq_true_iff, length_ofNat_le_iff (by decide), numeralBound]

theorem isWritable_of_le {m n : Nat} (h : isWritable n = true) (hle : m ≤ n) : isWritable m = true := by
  rw [isWritable_iff, Int.natAbs_natCast] at h ⊢
  exact Nat.lt_of_le_of_lt hle h

end Text

namespace Site

variable {s : Site} {n : Nat} {lines : List Text}

/-- The row of carets stands below the site's own line, and no number up to there is too long. -/
theorem rowsObstacle?_of_not_indent (hline : Text.isWritable s.line = true) {i : Nat} (hi : i < lines.length)
    (hn : ((n + i : Nat) : Int) = s.line) (hbeyond : isIndent (s.indent (n + i)) = false) :
    s.rowsObstacle? n lines = some .indent := by
  induction lines generalizing n i with
  | nil => cases hi
  | cons line lines ih =>
    have hwritten : Text.isWritable n = true := by
      rw [← hn] at hline
      exact Text.isWritable_of_le hline (Nat.le_add_right n i)
    rw [rowsObstacle?, hwritten, if_neg (by decide)]
    cases i with
    | zero => exact if_pos ⟨hn, hbeyond⟩
    | succ i =>
      have hnext : n + 1 + i = n + (i + 1) := by omega
      rw [if_neg (by omega)]
      exact ih (Nat.lt_of_succ_lt_succ hi) (hnext ▸ hn) (hnext ▸ hbeyond)

/-- With carets that stand in a column, only the numbers of the rows are left to be too long. -/
theorem rowsObstacle?_of_indent (hindent : ∀ i < lines.length, ((n + i : Nat) : Int) = s.line →
      isIndent (s.indent (n + i)) = true) :
    s.rowsObstacle? n lines =
      if ∀ i < lines.length, Text.isWritable (n + i : Nat) = true then none else some .digits := by
  induction lines generalizing n with
  | nil => exact (if_pos nofun).symm
  | cons line lines ih =>
    have hfirst : ¬ ((n : Int) = s.line ∧ isIndent (s.indent n) = false) := by
      rintro ⟨hn, hbeyond⟩
      exact Bool.eq_false_iff.mp hbeyond (hindent 0 (Nat.zero_lt_succ _) hn)
    have hnext : ∀ i, n + (i + 1) = n + 1 + i := by omega
    have hrest := ih (n := n + 1) fun i hi hline =>
      hnext i ▸ hindent (i + 1) (Nat.succ_lt_succ hi) (hnext i ▸ hline)
    rw [rowsObstacle?, if_neg hfirst, hrest]
    cases hn : Text.isWritable n with
    | false =>
      have hall : ¬ ∀ i < (line :: lines).length, Text.isWritable (n + i : Nat) = true := by
        exact fun hall => Bool.eq_false_iff.mp hn (hall 0 (Nat.zero_lt_succ _))
      rw [if_neg hall]
      rfl
    | true =>
      rw [if_neg (by decide)]
      refine if_congr ?_ rfl rfl
      constructor
      · intro hall i hi
        cases i with
        | zero => exact hn
        | succ i => exact hnext i ▸ hall i (Nat.lt_of_succ_lt_succ hi)
      · exact fun hall i hi => hnext i ▸ hall (i + 1) (Nat.succ_lt_succ hi)

end Site

namespace Diagnostic

variable {d : Diagnostic} {r : Except Obstacle Text}

/-- The number in the words for the fault, the line and the column have no more digits than are written. -/
structure Numbered (d : Diagnostic) : Prop where
  offset : ∀ offset flaw, d.fault = .undecodable offset flaw → offset < Text.numeralBound
  limit : ∀ limit, d.fault = .tooDeep limit → limit.natAbs < Text.numeralBound
  line : d.site.line.natAbs < Text.numeralBound
  column : d.site.column.natAbs < Text.numeralBound

/-- If the line is shown, its carets are indented by a number that is a signed word of 64 bits. -/
def Marked (d : Diagnostic) : Prop :=
  ∀ i < d.site.shown.length, ((d.site.firstLine + i : Nat) : Int) = d.site.line →
    -0x8000000000000000 ≤ d.site.indent (d.site.firstLine + i) ∧
      d.site.indent (d.site.firstLine + i) < 0x8000000000000000

/-- The numbers of the lines shown have no more digits than are written. -/
def Counted (d : Diagnostic) : Prop :=
  ∀ i < d.site.shown.length, d.site.firstLine + i < Text.numeralBound

/-- What a diagnostic is raised as. Its words and its label come first, then its rows. -/
inductive RaisedAs (d : Diagnostic) : Except Obstacle Text → Prop where
  | number (unnumbered : ¬ d.Numbered) : RaisedAs d (.error .digits)
  | carets (numbered : d.Numbered) (unmarked : ¬ d.Marked) : RaisedAs d (.error .indent)
  | row (numbered : d.Numbered) (marked : d.Marked) (uncounted : ¬ d.Counted) : RaisedAs d (.error .digits)
  | text (numbered : d.Numbered) (marked : d.Marked) (counted : d.Counted) : RaisedAs d (.ok d.message)

theorem isWritable_fault_iff : d.fault.isWritable = true ↔
    (∀ offset flaw, d.fault = .undecodable offset flaw → offset < Text.numeralBound) ∧
      ∀ limit, d.fault = .tooDeep limit → limit.natAbs < Text.numeralBound := by
  cases hfault : d.fault with
  | undecodable offset flaw =>
    rw [Fault.isWritable, Text.isWritable_iff, Int.natAbs_natCast]
    simp
  | tooDeep limit =>
    rw [Fault.isWritable, Text.isWritable_iff]
    simp
  | openString | unexpectedCloser | unclosed => simp [Fault.isWritable]

theorem numbered_iff : d.Numbered ↔ (d.fault.isWritable = true ∧ Text.isWritable d.site.line = true ∧
    Text.isWritable d.site.column = true) := by
  rw [isWritable_fault_iff, Text.isWritable_iff, Text.isWritable_iff]
  constructor
  · rintro ⟨hoffset, hlimit, hline, hcolumn⟩
    exact ⟨⟨hoffset, hlimit⟩, hline, hcolumn⟩
  · rintro ⟨⟨hoffset, hlimit⟩, hline, hcolumn⟩
    exact ⟨hoffset, hlimit, hline, hcolumn⟩

/-- A numeral that is too long comes before any row. -/
theorem raised_of_unnumbered (h : ¬ d.Numbered) : d.raised = .error .digits := by
  rw [numbered_iff] at h
  cases hfault : d.fault.isWritable with
  | false => rw [raised, hfault, if_neg Bool.false_ne_true]
  | true =>
    have hlabel : (Text.isWritable d.site.line && Text.isWritable d.site.column) = false := by
      rw [Bool.and_eq_false_iff, ← Bool.not_eq_true, ← Bool.not_eq_true]
      by_contra hboth
      rw [not_or, not_not, not_not] at hboth
      exact h ⟨hfault, hboth⟩
    have hobstacle : d.site.obstacle? = some .digits := by
      rw [Site.obstacle?, hlabel, if_neg Bool.false_ne_true]
    rw [raised, hfault, if_pos rfl, Site.write, hobstacle, Option.elim_some]

/-- Behind its words and its label, a diagnostic is written row by row. -/
theorem raised_of_numbered (h : d.Numbered) :
    d.raised = (d.site.rowsObstacle? d.site.firstLine d.site.shown).elim (.ok d.message) .error := by
  obtain ⟨hfault, hline, hcolumn⟩ := numbered_iff.mp h
  have hobstacle : d.site.obstacle? = d.site.rowsObstacle? d.site.firstLine d.site.shown := by
    rw [Site.obstacle?, hline, hcolumn, Bool.and_self, if_pos rfl]
  rw [raised, hfault, if_pos rfl, Site.write, hobstacle, message]

theorem marked_iff : d.Marked ↔ ∀ i < d.site.shown.length,
    ((d.site.firstLine + i : Nat) : Int) = d.site.line →
      isIndent (d.site.indent (d.site.firstLine + i)) = true := by
  simp only [Marked, isIndent, Bool.and_eq_true, decide_eq_true_eq]

theorem counted_iff : d.Counted ↔
    ∀ i < d.site.shown.length, Text.isWritable (d.site.firstLine + i : Nat) = true := by
  simp only [Counted, Text.isWritable_iff, Int.natAbs_natCast]

/-- Carets that cannot be indented come before the rows below them. -/
theorem raised_of_unmarked (h : d.Numbered) (hm : ¬ d.Marked) : d.raised = .error .indent := by
  rw [marked_iff] at hm
  push Not at hm
  obtain ⟨i, hi, hline, hbeyond⟩ := hm
  have hwritten := (numbered_iff.mp h).2.1
  rw [raised_of_numbered h, Site.rowsObstacle?_of_not_indent hwritten hi hline (Bool.eq_false_iff.mpr hbeyond),
    Option.elim_some]

theorem raised_of_uncounted (h : d.Numbered) (hm : d.Marked) (hc : ¬ d.Counted) :
    d.raised = .error .digits := by
  rw [raised_of_numbered h, Site.rowsObstacle?_of_indent (marked_iff.mp hm), if_neg (mt counted_iff.mpr hc),
    Option.elim_some]

/-- Without an obstacle, the full text is raised. -/
theorem raised_of_counted (h : d.Numbered) (hm : d.Marked) (hc : d.Counted) : d.raised = .ok d.message := by
  rw [raised_of_numbered h, Site.rowsObstacle?_of_indent (marked_iff.mp hm), if_pos (counted_iff.mp hc),
    Option.elim_none]

theorem raisedAs_raised (d : Diagnostic) : d.RaisedAs d.raised := by
  by_cases hnumbered : d.Numbered
  · by_cases hmarked : d.Marked
    · by_cases hcounted : d.Counted
      · rw [raised_of_counted hnumbered hmarked hcounted]
        exact .text hnumbered hmarked hcounted
      · rw [raised_of_uncounted hnumbered hmarked hcounted]
        exact .row hnumbered hmarked hcounted
    · rw [raised_of_unmarked hnumbered hmarked]
      exact .carets hnumbered hmarked
  · rw [raised_of_unnumbered hnumbered]
    exact .number hnumbered

theorem RaisedAs.raised_eq (h : d.RaisedAs r) : d.raised = r := by
  cases h with
  | number unnumbered => exact raised_of_unnumbered unnumbered
  | carets numbered unmarked => exact raised_of_unmarked numbered unmarked
  | row numbered marked uncounted => exact raised_of_uncounted numbered marked uncounted
  | text numbered marked counted => exact raised_of_counted numbered marked counted

/-- The four cases exclude each other and cover all diagnostics. -/
theorem raised_eq_iff : d.raised = r ↔ d.RaisedAs r :=
  ⟨fun h => h ▸ raisedAs_raised d, RaisedAs.raised_eq⟩

end Diagnostic

section Texts

variable {t : Text} {file : Option FilePath} {cap : Option Int} {stack ts : List Token} {v : Violation}
  {d : Diagnostic} {limit : Int}

/-- There are no more tokens than characters. -/
theorem Token.Placed.length_le {n : Nat} (h : Token.Placed t n ts) : ts.length ≤ t.length - n := by
  induction h with
  | nil => exact Nat.zero_le _
  | @cons n o u us later stands nonempty _ ih =>
    have hpos := List.length_pos_iff.mpr nonempty
    have hvalue := congrArg List.length stands.value
    rw [List.length_take, List.length_drop] at hvalue
    rw [List.length_cons]
    omega

/-- No more groups are open than tokens have been read. -/
theorem length_openers_le (stack ts : List Token) :
    (openers stack ts).length ≤ stack.length + ts.length := by
  induction ts generalizing stack with
  | nil => exact Nat.le_refl _
  | cons u ts ih =>
    have hnest : (u.nest stack).length ≤ stack.length + 1 := by
      rw [Token.nest]
      split
      · exact Nat.le_refl _
      · rw [List.length_tail]
        omega
      · exact Nat.le_succ _
    have hrest := ih (u.nest stack)
    rw [openers_cons, List.length_cons]
    omega

/-- A cap that is exceeded is no more than the number of tokens. -/
theorem EndsAt.limit_le (h : EndsAt cap [] ts v) (hv : v.fault = .tooDeep limit) : limit ≤ ts.length := by
  cases h with
  | unclosed => cases hv
  | @misfit before after _ split _ misfit =>
    have hlength := congrArg List.length split
    have hopen := length_openers_le [] before
    rw [List.length_append] at hlength
    rw [List.length_nil] at hopen
    cases misfit with
    | unexpectedCloser => cases hv
    | tooDeep _ _ full =>
      obtain rfl := Fault.tooDeep.inj hv
      omega

/-- A text is never refused for its encoding, and for its depth only under a cap of no more than its length. -/
theorem Culprit.limit_le {before : Text} {c : Char} {fault : Fault}
    (h : Culprit t file cap before c fault) : (∀ offset flaw, fault ≠ .undecodable offset flaw) ∧
      ∀ limit, fault = .tooDeep limit → cap = some limit ∧ limit ≤ t.length := by
  cases h with
  | quote => exact ⟨nofun, nofun⟩
  | closer _ _ _ _ fault =>
    rw [fault]
    exact ⟨nofun, nofun⟩
  | opener reads ends _ _ _ fault =>
    have hlength := (placed_of_tokenize reads).length_le
    rcases fault with hunclosed | ⟨limit, hcap, hdeep⟩
    · rw [hunclosed]
      exact ⟨nofun, nofun⟩
    · refine ⟨by rw [hdeep]; exact nofun, fun limit' hlimit => ?_⟩
      obtain rfl := Fault.tooDeep.inj (hdeep.symm.trans hlimit)
      have hle := ends.limit_le hdeep
      exact ⟨hcap, by omega⟩

/-- The gutter of a line whose number has at most 20 digits. -/
theorem Site.length_gutter_le (number : Nat) (h : number < 10 ^ 20) : (gutter number).length ≤ 23 := by
  have hdigits := Nat.toDigits_length 10 number 20 (by decide) h
  rw [gutter, List.length_append, List.length_leftpad]
  exact Nat.add_le_add_right (Nat.max_le.mpr ⟨by decide, hdigits⟩) 3

/-- A site shows three lines of a text at most. -/
theorem Site.length_shown_le {s : Site} {k : Nat} (hline : s.line = (k : Int) + 1)
    (he : s.excerpt = some (Shorthand.excerpt t s.line)) : s.shown.length ≤ 3 := by
  rw [hline, excerpt_eq] at he
  have hwindow : (t.window (k + 1)).length ≤ 3 := by
    rw [Text.window_eq, List.length_zipIdx, List.length_drop, List.length_take]
    omega
  by_cases hnil : t.window (k + 1) = []
  · rw [shown, he, hnil]
    exact Nat.zero_le 3
  · rw [shown, he]
    split
    · exact Nat.zero_le 3
    · exact Nat.zero_le 3
    · rename_i hshown
      rw [← Option.some.inj hshown, Text.lines_join_window hnil, List.length_map]
      exact hwindow

/-- Whatever keeps a text from being expanded, its diagnostic can be written, unless there are more than 2⁶⁰
characters or the cap is a number that cannot be written. -/
theorem Diagnostic.raised_of_expand (h : expand t file cap = .error d) (ht : t.length < 2 ^ 60)
    (hcap : ∀ limit, cap = some limit → -(Text.numeralBound : Int) < limit) : d.raised = .ok d.message := by
  obtain ⟨before, c, after, hsplit, -, hculprit, hline, hcolumn, hexcerpt⟩ := exists_culprit_of_expand h
  have hbefore : before.length < 2 ^ 60 := by
    have hlength := congrArg List.length hsplit
    rw [List.length_append, List.length_cons] at hlength
    omega
  have hfeeds : before.count '\n' ≤ before.length := List.count_le_length
  have hlast : (Text.lastLine before).length ≤ before.length := by
    rw [Text.lastLine, List.length_reverse]
    exact (List.takeWhile_sublist _).length_le.trans_eq List.length_reverse
  have hbound := Text.pow_le_numeralBound
  obtain ⟨hdecoded, hlimits⟩ := hculprit.limit_le
  have hk : d.site.line = (before.count '\n' : Int) + 1 := by omega
  refine raised_eq_iff.mpr (.text ⟨?offset, ?limit, ?line, ?column⟩ ?marked ?counted)
  case offset => exact fun offset flaw hfault => absurd hfault (hdecoded offset flaw)
  case limit =>
    intro limit hfault
    obtain ⟨hsome, hle⟩ := hlimits limit hfault
    have hleast := hcap limit hsome
    omega
  case line => omega
  case column => omega
  case marked =>
    intro i _ hi
    have hgutter := Site.length_gutter_le (d.site.firstLine + i) (by omega)
    rw [Site.indent]
    omega
  case counted =>
    intro i hi
    have hshown := Site.length_shown_le hk hexcerpt
    have hfirst : d.site.firstLine = (max 1 (d.site.line - 2)).toNat := rfl
    omega

end Texts

/-- An expansion gives a text exactly if every token fits and no group stays open. Otherwise it reports, at
its own place, the first token that does not fit, and only if all of them fit the innermost opener left,
by its closer. The report is raised with its text, unless a numeral in it has too many digits or its carets
are indented beyond 64 bits; no text of a size that memories have brings that about by itself. A text without
tokens is refused whatever its nesting. What succeeds under a cap gives the same under any wider one and under
none. -/
theorem expansion_outcome (ts : List Token) (origin : Origin) (cap : Option Int) :
    ((∃ out, expandTokens ts origin cap = .ok out) ↔ Admissible cap [] ts ∧ openers [] ts = []) ∧
    (∀ d, expandTokens ts origin cap = .error d ↔ ∃ v, EndsAt cap [] ts v ∧ d = v.diagnose origin ∧
      d.fault = v.fault ∧ d.site.file = origin.file ∧ d.site.line = v.token.line ∧
      d.site.column = v.token.column ∧ ∀ group, v.fault = .unclosed group →
        d.fault.message = "Expected '".toList ++ group.closer.char :: "', got EOF".toList) ∧
    (∀ d, expandTokens ts origin cap = .error d → ∀ r, d.raised = r ↔ d.RaisedAs r) ∧
    (∀ t file d, expand t file cap = .error d → t.length < 2 ^ 60 →
      (∀ limit, cap = some limit → -(Text.numeralBound : Int) < limit) → d.raised = .ok d.message) ∧
    (∀ t file d, tokenize t file = .error d ↔ expand t file cap = .error d ∧ d.fault = .openString) ∧
    (∀ limit, cap = some limit → ∀ wide, wide = none ∨ (∃ limit' ≥ limit, wide = some limit') →
      (∀ out, expandTokens ts origin cap = .ok out → expandTokens ts origin wide = .ok out) ∧
      ∀ t file out, expand t file cap = .ok out → expand t file wide = .ok out) := by
  refine ⟨?_, ?_, fun d _ r => Diagnostic.raised_eq_iff, fun t file d h => Diagnostic.raised_of_expand h,
    fun t file d => tokenize_error_iff, ?_⟩
  · rw [← Expansion.run_ok_iff]
    constructor
    · intro h
      obtain ⟨out, hout⟩ := h
      obtain ⟨fs, hrun, -⟩ := expandTokens_eq_ok_iff.mp hout
      exact ⟨fs, hrun⟩
    · intro h
      obtain ⟨fs, hrun⟩ := h
      exact ⟨_, expandTokens_eq_ok_iff.mpr ⟨fs, hrun, rfl⟩⟩
  · intro d
    rw [expandTokens_eq_error_iff]
    constructor
    · intro h
      obtain ⟨v, hv, rfl⟩ := h
      refine ⟨v, (Expansion.run_error_iff cap ts v).mp hv, rfl, rfl, rfl, rfl, rfl, ?_⟩
      intro group hg
      rw [← message_unclosed, ← hg]
      rfl
    · intro h
      obtain ⟨v, hv, rfl, -⟩ := h
      exact ⟨v, (Expansion.run_error_iff cap ts v).mpr hv, rfl⟩
  · intro limit hcap wide hwide
    subst hcap
    have hw : Expansion.Loosens (some limit) wide := by
      intro limit' hlimit
      subst hlimit
      rcases hwide with hn | ⟨limit'', hle, hs⟩
      · cases hn
      · exact ⟨limit, rfl, by rw [Option.some.inj hs]; exact hle⟩
    exact ⟨fun out h => expandTokens_loosen hw h, fun t file out h => expand_loosen hw h⟩

/-- A group that expands under the cap of one group expands without a cap. Under a cap that is below all
numbers that are written, the group is too deep, but the words for this cannot be written. -/
theorem expansion_outcome_paren :
    let opener : Token := ⟨.opener .paren, ['('], 1, 1, []⟩
    let group := [opener, ⟨.atom, ['a'], 1, 2, []⟩, ⟨.closer .paren, [')'], 1, 3, []⟩]
    let least : Int := -Text.numeralBound
    let tooDeep : Diagnostic := ⟨.tooDeep least, ⟨none, 1, 1, none⟩⟩
    expandTokens group {} (some 1) = .ok "(a)".toList ∧ expandTokens group {} none = .ok "(a)".toList ∧
    expandTokens [opener] {} (some least) = .error tooDeep ∧ tooDeep.raised = .error .digits := by
  intro opener group least tooDeep
  have hok : expandTokens group {} (some 1) = .ok "(a)".toList := rfl
  have hdeep : expandTokens [opener] {} (some least) = .error tooDeep := by decide +kernel
  obtain ⟨-, -, -, -, -, hwider⟩ := expansion_outcome group {} (some 1)
  obtain ⟨-, -, hraised, -⟩ := expansion_outcome [opener] {} (some least)
  have hunnumbered : ¬ tooDeep.Numbered := fun h => absurd (h.limit least rfl) (by decide +kernel)
  exact ⟨hok, (hwider 1 rfl none (.inl rfl)).1 _ hok, hdeep, (hraised _ hdeep _).mpr (.number hunnumbered)⟩

/-- A stray closer far to the left of its source is not reported: the carets of the report cannot be indented
by its column. -/
theorem not_raised_of_farColumn : ¬ ∀ (ts : List Token) (origin : Origin) (cap : Option Int) (d : Diagnostic),
    expandTokens ts origin cap = .error d → ∃ text, d.raised = .ok text := by
  intro hall
  let d : Diagnostic := ⟨.unexpectedCloser [')'], ⟨none, 1, -0x8000000000000007, some [')']⟩⟩
  have herror : expandTokens [⟨.closer .paren, [')'], 1, -0x8000000000000007, []⟩] ⟨none, some [')']⟩ none =
      .error d := by decide +kernel
  have hraised : d.raised = .error .indent := by decide +kernel
  obtain ⟨text, htext⟩ := hall _ _ _ d herror
  rw [hraised] at htext
  cases htext

end Shorthand
