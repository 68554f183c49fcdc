import Shorthand.Terminal.EmojiName
import Shorthand.Terminal.CellWidth

/-! Text for terminals. Messages go to a console that knows style tags in square brackets, emoji names and
tab stops. A message is escaped before it is shown, so every tag in it is shown as it is written; what
else the console makes of it is what this module says. -/
namespace Shorthand.Terminal

/-- A character that the name of a style tag may begin with. -/
def startsTag (c : Char) : Bool := ('a' ≤ c && c ≤ 'z') || c ∈ ['#', '/', '@']

/-- What stands up to the first closing bracket, provided that no opening one comes before it, and what
follows. -/
def upToBracket : Text → Option (Text × Text)
  | [] => none
  | c :: rest =>
    if c = ']' then some ([c], rest)
    else if c = '[' then none
    else (upToBracket rest).map fun (inside, after) => (c :: inside, after)

/-- A style tag at the start of a text, with its brackets, and what follows it. -/
def tag? : Text → Option (Text × Text)
  | '[' :: c :: rest =>
    if startsTag c then (upToBracket rest).map fun (inside, after) => ('[' :: c :: inside, after)
    else none
  | _ => none

theorem length_of_upToBracket {t inside after : Text} (h : upToBracket t = some (inside, after)) :
    after.length < t.length := by
  induction t generalizing inside with
  | nil => simp [upToBracket] at h
  | cons c rest ih =>
    simp only [upToBracket] at h
    split at h
    · simp only [Option.some.injEq, Prod.mk.injEq] at h
      simp [← h.2]
    · split at h
      · simp at h
      · obtain ⟨⟨i, a⟩, hi, he⟩ := Option.map_eq_some_iff.1 h
        simp only [Prod.mk.injEq] at he
        have := ih (he.2 ▸ hi)
        simp only [List.length_cons]
        omega

theorem length_of_tag? {t tag after : Text} (h : tag? t = some (tag, after)) :
    after.length < t.length := by
  unfold tag? at h
  split at h
  · split at h
    · obtain ⟨⟨i, a⟩, hi, he⟩ := Option.map_eq_some_iff.1 h
      simp only [Prod.mk.injEq] at he
      have := length_of_upToBracket (he.2 ▸ hi)
      simp only [List.length_cons]
      omega
    · simp at h
  · simp at h

/-- The pieces of a message: its style tags, the backslashes in front of each, and what stands between. -/
def pieces : Text → List Text
  | [] => [[]]
  | c :: rest =>
    match _h : tag? (c :: rest) with
    | some (tag, after) => [] :: tag :: pieces after
    | none =>
      let slashes := (c :: rest).takeWhile (· = '\\')
      match tag? ((c :: rest).dropWhile (· = '\\')) with
      | some _ =>
        if _hs : slashes = [] then Text.prepend c (pieces rest)
        else [] :: slashes :: pieces ((c :: rest).dropWhile (· = '\\'))
      | none => Text.prepend c (pieces rest)
termination_by t => t.length
decreasing_by
  · exact length_of_tag? _h
  · exact Text.length_lt_cons c rest
  · have hlen := congrArg List.length (List.takeWhile_append_dropWhile (p := (· = '\\')) (l := c :: rest))
    rw [List.length_append] at hlen
    have hpos : 0 < ((c :: rest).takeWhile (· = '\\')).length := List.length_pos_iff.2 _hs
    omega
  · exact Text.length_lt_cons c rest

/-- Takes away the backslash before each opening bracket. -/
def unescape : Text → Text
  | '\\' :: '[' :: rest => '[' :: unescape rest
  | c :: rest => c :: unescape rest
  | [] => []

/-- A control character that the console leaves out. -/
def isDropped (c : Char) : Bool := c ∈ ['\x07', '\x08', '\x0b', '\x0c', '\r']

def guardEnd (t : Text) : Text :=
  if ['\\'].isSuffixOf t ∧ ¬ ['\\', '\\'].isSuffixOf t then t ++ ['\\'] else t

/-- A message as the console shows it behind a heading. -/
def shown (heading message : Text) : Text :=
  let text := (pieces (heading ++ guardEnd message)).flatMap fun piece =>
    (replaceEmoji (unescape piece)).filter fun c => !isDropped c
  Text.join ['\n'] ((Text.lines text).map expandTabs)

/-- A character that may stand between the bracket and the letter of a style code. -/
def isCodeParameter (c : Char) : Bool := c = ';' || c = '?' || c.isDigit

/-- What follows a style code at the start of a text: escape, bracket, parameters and a letter. -/
def afterStyle? : Text → Option Text
  | '\x1b' :: '[' :: rest =>
    match rest.dropWhile isCodeParameter with
    | letter :: after => if letter.isAlpha then some after else none
    | [] => none
  | _ => none

theorem length_of_afterStyle? {t after : Text} (h : afterStyle? t = some after) :
    after.length < t.length := by
  unfold afterStyle? at h
  split at h
  · rename_i rest
    split at h
    · rename_i letter tail htail
      have hle := (List.dropWhile_sublist (l := rest) isCodeParameter).length_le
      split at h
      · simp only [Option.some.injEq] at h
        simp only [htail, List.length_cons, h] at hle ⊢
        omega
      · simp at h
    · simp at h
  · simp at h

/-- Leaves out the style codes in a text, which only a terminal could show. -/
def withoutStyles : Text → Text
  | [] => []
  | c :: rest =>
    match _h : afterStyle? (c :: rest) with
    | some after => withoutStyles after
    | none => c :: withoutStyles rest
termination_by t => t.length
decreasing_by
  · exact length_of_afterStyle? _h
  · exact Text.length_lt_cons c rest

end Shorthand.Terminal
