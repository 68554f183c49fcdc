import Mathlib.Data.Fin.Tuple.Basic
import Mathlib.Order.Fin.Basic
import Shorthand.Proofs.Reading

/-! Where tokens stand. Every token is found in its text at an offset of its own, and its line and column
count the line feeds in front of that offset and the characters behind the last of them. Tokens do not
overlap, so lines and columns increase from each token to the next. Main statement: `tokenize_placement`. -/
namespace Shorthand

/-- Reading anything moves forwards. -/
theorem Position.advance_lt (p : Position) {chunk : Text} (h : chunk ≠ []) :
    p.line < (p.advance chunk).line ∨
      p.line = (p.advance chunk).line ∧ p.column < (p.advance chunk).column := by
  by_cases hline : '\n' ∈ chunk
  · have hcount := List.count_pos_iff.mpr hline
    have hadvance := p.line_advance chunk
    exact .inl (by omega)
  · have hlen := List.length_pos_iff.mpr h
    simp only [Position.advance, hline, if_false]
    exact .inr ⟨trivial, by omega⟩

namespace Token

/-- A token is found in a text at offset `o`, and its line and column are those of that offset. -/
structure StandsAt (t : Text) (u : Token) (o : Nat) : Prop where
  value : (t.drop o).take u.value.length = u.value
  line : u.line = 1 + (t.take o).count '\n'
  column : u.column = 1 + (Text.lastLine (t.take o)).length

/-- Tokens stand one behind the other, the first of them at offset `n` or later. -/
inductive Placed (t : Text) : Nat → List Token → Prop where
  | nil (n : Nat) : Placed t n []
  | cons {n o : Nat} {u : Token} {us : List Token} (later : n ≤ o) (stands : u.StandsAt t o)
      (nonempty : u.value ≠ []) (behind : Placed t (o + u.value.length) us) : Placed t n (u :: us)

namespace Placed

variable {t : Text} {n : Nat} {us : List Token}

theorem mono (h : Placed t n us) {m : Nat} (hm : m ≤ n) : Placed t m us := by
  cases h with
  | nil => exact .nil m
  | cons later stands nonempty behind => exact .cons (Nat.le_trans hm later) stands nonempty behind

/-- The places of placed tokens, as a function of their number. -/
theorem exists_offset (h : Placed t n us) : ∃ offset : Fin us.length → Nat, (∀ i, n ≤ offset i) ∧
    (∀ i : Fin us.length, us[i].StandsAt t (offset i) ∧ us[i].value ≠ []) ∧
    ∀ i j : Fin us.length, i < j → offset i + us[i].value.length ≤ offset j := by
  induction h with
  | nil => exact ⟨Fin.elim0, fun i => i.elim0, fun i => i.elim0, fun i => i.elim0⟩
  | @cons n o u us later stands nonempty _ ih =>
    obtain ⟨offset, hfrom, hstands, hapart⟩ := ih
    refine ⟨Fin.cons o offset, ?_, ?_, ?_⟩
    · intro i
      cases i using Fin.cases with
      | zero => exact later
      | succ i =>
        have hi : o + u.value.length ≤ offset i := hfrom i
        change n ≤ offset i
        omega
    · intro i
      cases i using Fin.cases with
      | zero => exact ⟨stands, nonempty⟩
      | succ i => exact hstands i
    · intro i j hij
      cases j using Fin.cases with
      | zero => exact absurd hij (Fin.not_lt_zero i)
      | succ j =>
        cases i using Fin.cases with
        | zero => exact hfrom j
        | succ i => exact hapart i j (Fin.succ_lt_succ_iff.mp hij)

end Placed

/-- The tokens that are read behind `before` are placed behind it. -/
theorem Reads.placed {p : Position} {leading rest trailing stuck : Text} {ts : List Token}
    (h : Reads p leading rest ts trailing stuck) (before : Text) (hp : p = Position.advance {} before) :
    Placed (before ++ rest) before.length ts := by
  -- The position is always that of the text already passed, which grows by what is read.
  induction h generalizing before with
  | nil | stuck => exact .nil _
  | @blank p leading t _ _ _ c separates _ ih =>
    have hbehind := ih (before ++ [c]) (by rw [hp, Position.advance_append])
    rw [List.append_assoc, List.singleton_append, List.length_append] at hbehind
    exact hbehind.mono (Nat.le_add_right _ _)
  | @comment p leading t _ _ body _ line ends _ ih =>
    have hbehind := ih (before ++ '#' :: body) (by rw [hp, Position.advance_append])
    rw [List.append_assoc, List.cons_append, List.length_append] at hbehind
    exact hbehind.mono (Nat.le_add_right _ _)
  | @token p leading t _ _ _ l kind first shown _ ih =>
    have hbehind := ih (before ++ l.text) (by rw [hp, Position.advance_append])
    rw [List.append_assoc, List.length_append] at hbehind
    obtain ⟨-, hm, -⟩ := Lexeme.read?_eq_some_iff.mp first
    refine .cons (Nat.le_refl _) ?_ hm.ne_nil hbehind
    constructor
    · rw [List.drop_left]
      exact List.take_left
    · rw [List.take_left, hp, Position.advance_start]
      push_cast
      rfl
    · rw [List.take_left, hp, Position.advance_start]
      push_cast
      rfl

end Token

/-- The tokens of a text stand in it, one behind the other. -/
theorem placed_of_tokenize {t : Text} {file : Option FilePath} {tokens : List Token} {trailing : Text}
    (h : tokenize t file = .ok (tokens, trailing)) : Token.Placed t 0 tokens :=
  (tokenize_eq_ok_iff_reads.mp h).placed [] rfl

/-- One token is on a line above that of another, or further left on its line. -/
def Token.Before (u v : Token) : Prop := u.line < v.line ∨ (u.line = v.line ∧ u.column < v.column)

/-- Of two tokens, the one at the smaller offset is before the other. -/
theorem Token.StandsAt.before {t : Text} {u v : Token} {o o' : Nat} (hu : u.StandsAt t o)
    (hv : v.StandsAt t o') (hlt : o < o') (hne : u.value ≠ []) : u.Before v := by
  have hbehind : t.drop o ≠ [] := by
    intro hnil
    have hvalue := hu.value
    rw [hnil, List.take_nil] at hvalue
    exact hne hvalue.symm
  have hchunk : (t.drop o).take (o' - o) ≠ [] := by
    rw [Ne, List.take_eq_nil_iff]
    exact not_or.mpr ⟨by omega, hbehind⟩
  have hsplit : t.take o' = t.take o ++ (t.drop o).take (o' - o) := by
    rw [← List.take_add, Nat.add_sub_cancel' (Nat.le_of_lt hlt)]
  have hadvance := (Position.advance {} (t.take o)).advance_lt hchunk
  rw [← Position.advance_append, ← hsplit, Position.advance_start, Position.advance_start] at hadvance
  rw [Before, hu.line, hv.line, hu.column, hv.column]
  simp only at hadvance ⊢
  omega

theorem TokenKind.label_inj {k l : TokenKind} (h : k.label = l.label) : k = l := by
  rcases k with (_ | _ | _ | _ | _) | (_ | _ | _) | _ | (_ | _) | _ | _ | _ <;>
    rcases l with (_ | _ | _ | _ | _) | (_ | _ | _) | _ | (_ | _) | _ | _ | _ <;>
      first | rfl | exact absurd h (by decide)

theorem TokenKind.comma_notMem_label (k : TokenKind) : ',' ∉ k.label.toList := by
  rcases k with (_ | _ | _ | _ | _) | (_ | _ | _) | _ | (_ | _) | _ | _ | _ <;> decide

/-- What stands before the first occurrence of a separator, and what stands behind it. -/
theorem Text.append_cons_inj {c : Char} {s s' t t' : Text} (hs : c ∉ s) (ht : c ∉ t)
    (h : s ++ c :: s' = t ++ c :: t') : s = t ∧ s' = t' := by
  induction s generalizing t with
  | nil =>
    cases t with
    | nil => exact ⟨rfl, (List.cons.inj h).2⟩
    | cons d t => exact absurd ((List.cons.inj h).1 ▸ List.mem_cons_self) ht
  | cons d s ih =>
    cases t with
    | nil => exact absurd ((List.cons.inj h).1 ▸ List.mem_cons_self) hs
    | cons d' t =>
      obtain ⟨rfl, htail⟩ := List.cons.inj h
      obtain ⟨rfl, hbehind⟩ := ih (fun hm => hs (List.mem_cons_of_mem d hm))
        (fun hm => ht (List.mem_cons_of_mem d hm)) htail
      exact ⟨rfl, hbehind⟩

/-- A description starts with the kind and ends with the line and the column. -/
theorem Token.parts_of_describe? {u : Token} {d : Text} (h : u.describe? = some d) :
    (∃ behind, d = "Token(".toList ++ (u.kind.label.toList ++ ',' :: behind)) ∧
      ∃ before, d.reverse =
        ')' :: ((Text.ofInt u.column).reverse ++ ':' :: ((Text.ofInt u.line).reverse ++ ' ' :: before)) := by
  rw [describe?] at h
  split at h
  · obtain rfl := Option.some.inj h
    constructor
    · exact ⟨' ' :: (u.value.quoted ++ ", ".toList ++ Text.ofInt u.line ++ ':' :: Text.ofInt u.column ++
        [')']), by simp⟩
    · exact ⟨',' :: ("Token(".toList ++ u.kind.label.toList ++ ", ".toList ++ u.value.quoted).reverse, by simp⟩
  · cases h

/-- A description tells the kind of a token and its place, whatever the text of the token holds. -/
theorem Token.place_of_describe? {u v : Token} {d : Text} (hu : u.describe? = some d)
    (hv : v.describe? = some d) : u.kind = v.kind ∧ u.line = v.line ∧ u.column = v.column := by
  have hnumeral : ∀ {n : Int} {c : Char}, c.isDigit = false → c ≠ '-' → c ∉ (Text.ofInt n).reverse := by
    intro n c hdigit hminus hmem
    rcases Text.mem_ofInt (List.mem_reverse.mp hmem) with h | h
    · exact Bool.eq_false_iff.mp hdigit h
    · exact hminus h
  obtain ⟨⟨behind, hfront⟩, before, hend⟩ := parts_of_describe? hu
  obtain ⟨⟨behind', hfront'⟩, before', hend'⟩ := parts_of_describe? hv
  have hlabels := Text.append_cons_inj u.kind.comma_notMem_label v.kind.comma_notMem_label
    (List.append_cancel_left (hfront.symm.trans hfront'))
  have hcolumns := Text.append_cons_inj (hnumeral (by decide) (by decide)) (hnumeral (by decide) (by decide))
    (List.cons.inj (hend.symm.trans hend')).2
  have hlines := Text.append_cons_inj (hnumeral (by decide) (by decide)) (hnumeral (by decide) (by decide))
    hcolumns.2
  exact ⟨TokenKind.label_inj (String.toList_inj.mp hlabels.1), Text.ofInt_inj (List.reverse_inj.mp hlines.1),
    Text.ofInt_inj (List.reverse_inj.mp hcolumns.1)⟩

/-- The tokens of a text stand at increasing offsets, none of them inside another, each at the line and the
column of its offset; and these increase with them, so they tell any two tokens apart. -/
theorem tokenize_placement (t : Text) (file : Option FilePath) (tokens : List Token) (trailing : Text)
    (h : tokenize t file = .ok (tokens, trailing)) :
    ∃ offset : Fin tokens.length → Nat,
      StrictMono offset ∧
      (∀ i : Fin tokens.length, tokens[i].StandsAt t (offset i)) ∧
      (∀ i j : Fin tokens.length, i < j → offset i + tokens[i].value.length ≤ offset j) ∧
      (∀ i j : Fin tokens.length, i < j → tokens[i].Before tokens[j]) ∧
      Function.Injective fun i : Fin tokens.length => (tokens[i].line, tokens[i].column) := by
  obtain ⟨offset, -, hstands, hapart⟩ := (placed_of_tokenize h).exists_offset
  have hincreasing : StrictMono offset := by
    intro i j hij
    have hlen := List.length_pos_iff.mpr (hstands i).2
    have hle := hapart i j hij
    omega
  have hbefore : ∀ i j : Fin tokens.length, i < j → tokens[i].Before tokens[j] := by
    intro i j hij
    exact (hstands i).1.before (hstands j).1 (hincreasing hij) (hstands i).2
  refine ⟨offset, hincreasing, fun i => (hstands i).1, hapart, hbefore, ?_⟩
  intro i j hij
  have hline : tokens[i].line = tokens[j].line := (Prod.mk.inj hij).1
  have hcolumn : tokens[i].column = tokens[j].column := (Prod.mk.inj hij).2
  rcases lt_trichotomy i j with hlt | heq | hgt
  · rcases hbefore i j hlt with h | ⟨-, h⟩ <;> omega
  · exact heq
  · rcases hbefore j i hgt with h | ⟨-, h⟩ <;> omega

/-- A literal over two lines, a comment and a gap of several lines stand in front of the last token. -/
theorem tokenize_placement_lines :
    tokenize "\"a\nb\" # c\n\n  x".toList none = .ok ([⟨.string, "\"a\nb\"".toList, 1, 1, []⟩,
      ⟨.atom, ['x'], 4, 3, " \n\n  ".toList⟩], []) ∧
    ∃ o, (⟨.atom, ['x'], 4, 3, " \n\n  ".toList⟩ : Token).StandsAt "\"a\nb\" # c\n\n  x".toList o := by
  have h : tokenize "\"a\nb\" # c\n\n  x".toList none = .ok ([⟨.string, "\"a\nb\"".toList, 1, 1, []⟩,
      ⟨.atom, ['x'], 4, 3, " \n\n  ".toList⟩], []) := by decide +kernel
  obtain ⟨offset, -, hstands, -⟩ := tokenize_placement _ none _ _ h
  exact ⟨h, offset ⟨1, by decide⟩, hstands ⟨1, by decide⟩⟩

end Shorthand
