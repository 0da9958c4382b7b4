import ScatterGather.Settings.File

/-!
# Settings from the environment

A variable of the environment is a setting if its name starts with a mark. What follows the mark is a
path of steps, between which stand points or double underscores; after the name of a step, further
places may be given in square brackets. A path of one plain name sets that name. A longer one lies
below its first name, which then holds a table. What is no path names nothing.
-/

namespace ScatterGather
namespace Settings

/-- Variables whose name starts with this mark, in capitals or not, are settings. -/
def variableMark : String := "floe_dispatcher__"

/-- The small letter of a character; the sign of the kelvin has the small letter of its Latin twin,
and other characters beyond the basic ones stay, since they occur in no path. -/
def lowerCase (c : Char) : Char :=
  if c = '\u212A' then 'k' else c.toLower

/-- A character of the name of a step. -/
def isStepChar (c : Char) : Bool :=
  isNameChar c || c = ' '

/-- A place in brackets, without the bracket that opens it: a whole number between blanks, with a
sign only below zero, that fits in 64 bits with a sign. -/
def isPlace (text : String) : Bool :=
  match text.toList.reverse with
  | ']' :: body =>
    let number := ((body.dropWhile isBlank).reverse).dropWhile isBlank
    number.head? ≠ some '+' && (Numeral.signed? (Nat.pow 2 63) number).isSome
  | _ => false

/-- Whether a text is a step: a name, and places in brackets. -/
def isStep (text : String) : Bool :=
  match text.splitOn "[" with
  | name :: places => !name.isEmpty && name.all isStepChar && places.all isPlace
  | [] => false

/-- The steps of a path. -/
def steps (path : String) : List String :=
  (path.splitOn "__").flatMap fun part => part.splitOn "."

/-- What a variable of the environment sets. -/
def ofVariable (variableName value : String) : Option (String × Setting) :=
  let name := variableName.toList.map lowerCase
  if variableMark.toList.isPrefixOf name then
    match steps (String.ofList (name.drop variableMark.length)) with
    | [] => none
    | first :: others =>
      let root := String.ofList (first.toList.takeWhile isStepChar)
      if !(first :: others).all isStep then none
      else if others.isEmpty && root = first then some (root, .text value)
      else some (root, .table)
  else none

end Settings
end ScatterGather
