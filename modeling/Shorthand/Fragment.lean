import Shorthand.Text.Character
import Shorthand.Token

/-! Fragments of output and the sugar of the groups. A closed group is replaced, by the rule of its
opening delimiter, by one piece of text that depends only on the fragments directly inside it and on
the blanks in front of its closer. -/
namespace Shorthand

/-- A piece of output, with the blanks in front of it. -/
structure Fragment where
  text : Text
  /-- The kind of the token it came from, or nothing for a replaced group or a value with a suffix. -/
  kind : Option TokenKind := none
deriving DecidableEq, Repr

namespace Fragment

def concat (fs : List Fragment) : Text := fs.flatMap text

def trimmed (fs : List Fragment) : Text := (concat fs).trim

def elements (fs : List Fragment) : Text :=
  Text.join ", ".toList ((fs.map fun f => f.text.trim).filter (· ≠ []))

def isArrow (f : Fragment) : Bool := f.kind = some .arrow

def splitArrow? (fs : List Fragment) : Option (List Fragment × List Fragment) :=
  match fs.dropWhile (!·.isArrow) with
  | [] => none
  | _ :: body => some (fs.takeWhile (!·.isArrow), body)

end Fragment

def blockText (params body : Text) : Text :=
  "\x7b|".toList ++ params ++ "|".toList ++ body ++ "\x7d".toList

/-- The name of the parameter that sugar leaves unsaid. -/
def implicitParam : Text := "it".toList

namespace Group

open Fragment

def symbolRef? : List Fragment → Option Text
  | [f] => if "&:".toList.isPrefixOf f.text.trimStart then some (f.text.trim.drop 2) else none
  | _ => none

def loneAtom? : List Fragment → Option Text
  | [f] => if f.kind = some .atom then some f.text.trim else none
  | _ => none

/-- Whether the first fragment calls a method on nothing. -/
def isMethodChain : List Fragment → Bool
  | [] => false
  | f :: _ => ['.'].isPrefixOf f.text.trimStart

/-- A parenthesised group is a block on the implicit parameter if it starts with a method chain or is a
lone symbol reference, a block with parameters if it has an arrow, and itself otherwise. -/
def desugarParen (fs : List Fragment) (tail : Text) : Text :=
  if isMethodChain fs then blockText implicitParam (implicitParam ++ trimmed fs)
  else match symbolRef? fs with
    | some name => blockText implicitParam (implicitParam ++ '.' :: name)
    | none =>
      match splitArrow? fs with
      | some (params, body) => blockText (trimmed params) (trimmed body)
      | none => '(' :: concat fs ++ tail ++ [')']

/-- The body that calls the method `name` on the implicit parameter if that responds to it, and the
function `name` with it otherwise. -/
def dispatch (name : Text) : Text :=
  implicitParam ++ ".respond_to?(:\"".toList ++ name ++ "\") ? ".toList ++ implicitParam ++
    ".send(:\"".toList ++ name ++ "\") : ".toList ++ name ++ "(".toList ++ implicitParam ++
    ")".toList

/-- A block group takes the implicit parameter in front of those before its arrow; a lone atom is a name
to dispatch on. -/
def desugarBlock (fs : List Fragment) : Text :=
  match loneAtom? fs with
  | some name => blockText implicitParam (dispatch name)
  | none =>
    match splitArrow? fs with
    | some (params, body) =>
      match trimmed params with
      | [] => blockText implicitParam (trimmed body)
      | params => blockText (implicitParam ++ ", ".toList ++ params) (trimmed body)
    | none => blockText implicitParam (trimmed fs)

/-- The text of a closed group with fragments `fs` and the blanks `tail` in front of its closer. -/
def desugar (g : Group) (fs : List Fragment) (tail : Text) : Text :=
  match g with
  | .paren => desugarParen fs tail
  | .block => desugarBlock fs
  | .index => '[' :: concat fs ++ tail ++ [']']
  | .map => '[' :: elements fs ++ "].to_h".toList
  | .array => '[' :: elements fs ++ [']']

end Group

end Shorthand
