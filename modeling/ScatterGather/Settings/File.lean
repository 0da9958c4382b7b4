import ScatterGather.Settings.Number
import ScatterGather.Settings.Quotation

/-!
# Settings files

A settings file has one setting to a line, a name and a value with an equals sign between them.
Blank lines and comments, which a number sign opens, are skipped. No name may be set twice.
-/

namespace ScatterGather
namespace Settings

/-- A character that separates words within a line. -/
def isBlank (c : Char) : Bool :=
  c = ' ' || c = '\t'

/-- A character of a name. -/
def isNameChar (c : Char) : Bool :=
  c.isAlphanum || c = '_' || c = '-'

/-- A character of a value that is not quoted. -/
def isWordChar (c : Char) : Bool :=
  !isBlank c && c ≠ '#' && c ≠ '\n'

/-- What follows the line whose rest is blank or a comment. -/
def endLine? (text : List Char) : Option (List Char) :=
  let text := text.dropWhile isBlank
  let text := if text.head? = some '#' then text.dropWhile isPlain else text
  match text with
  | [] => some []
  | '\n' :: rest => some rest
  | _ => none

/-- The value that a word stands for. -/
def word? (word : List Char) : Option Setting :=
  if word = "true".toList then some (.boolean true)
  else if word = "false".toList then some (.boolean false)
  else integer? word <|> real? word

/-- The value that stands here, and what follows it. -/
def value? (text : List Char) : Option (Setting × List Char) :=
  if text.head?.any isQuote then
    (quoted? text).map fun (body, rest) => (.text (String.ofList body), rest)
  else (word? (text.takeWhile isWordChar)).map fun setting => (setting, text.dropWhile isWordChar)

/-- A name with its value, and what follows their line. -/
def entry? (text : List Char) : Option ((String × Setting) × List Char) :=
  let text := text.dropWhile isBlank
  let name := text.takeWhile isNameChar
  match (text.dropWhile isNameChar).dropWhile isBlank with
  | '=' :: rest => do
    if name.isEmpty then none
    let (setting, rest) ← value? (rest.dropWhile isBlank)
    return ((String.ofList name, setting), ← endLine? rest)
  | _ => none

/-- Adds the settings of a text to those read so far, of at most `lines` lines. -/
def readLines (sofar : List (String × Setting)) :
    Nat → List Char → Option (List (String × Setting))
  | _, [] => some sofar
  | 0, _ => none
  | lines + 1, text =>
    match endLine? text with
    | some rest => readLines sofar lines rest
    | none => do
      let (entry, rest) ← entry? text
      if sofar.any fun other => other.1 = entry.1 then none
      else readLines (sofar ++ [entry]) lines rest

/-- Writes each line end as one character. -/
def unifyLineEnds : List Char → List Char
  | [] => []
  | '\r' :: '\n' :: rest => '\n' :: unifyLineEnds rest
  | c :: rest => c :: unifyLineEnds rest

/-- Drops the mark of byte order that a file may start with. -/
def dropOrderMark (text : List Char) : List Char :=
  if text.head? = some '\uFEFF' then text.tail else text

/-- The settings of a file, if all its lines can be read. A line takes up at least one character, so
there are no more lines than characters. -/
def readFile? (text : String) : Option (List (String × Setting)) :=
  let text := unifyLineEnds (dropOrderMark text.toList)
  readLines [] text.length text

end Settings
end ScatterGather
