/-!
# Quoted texts of settings files

A text stands between two marks on one line, or between two triple marks, where it may hold line
ends as well. The mark is a double or a single quote; within, every character stands for itself, and
controls other than tabs are malformed.
-/

namespace ScatterGather
namespace Settings

/-- A character that may stand in a comment or a text: any but controls, of which a tab is none. -/
def isPlain (c : Char) : Bool :=
  c = '\t' || (' ' ≤ c && c ≠ '\x7f')

/-- A character that opens and closes a text. -/
def isQuote (c : Char) : Bool :=
  c = '"' || c = '\''

/-- The text up to the mark that closes it, and what follows. -/
def shortText? (mark : Char) : List Char → Option (List Char × List Char)
  | [] => none
  | c :: rest =>
    if c = mark then some ([], rest)
    else if isPlain c then (shortText? mark rest).map fun (text, after) => (c :: text, after)
    else none

/-- The text up to the triple mark that closes it, and what follows. Up to two marks may stand before
the triple. -/
def longText? (mark : Char) : List Char → Option (List Char × List Char)
  | [] => none
  | c :: rest =>
    let marks := ((c :: rest).takeWhile (· = mark)).length
    if marks = 3 then some ([], rest.drop 2)
    else if marks ≤ 5 ∧ (isPlain c ∨ c = '\n') then
      (longText? mark rest).map fun (text, after) => (c :: text, after)
    else none

/-- The text that a mark opens, and what follows it. The first line end of a long text is no part
of it. -/
def quoted? : List Char → Option (List Char × List Char)
  | [] => none
  | mark :: rest =>
    if !isQuote mark then none
    else if rest.take 2 = [mark, mark] then
      match rest.drop 2 with
      | '\n' :: body => longText? mark body
      | body => longText? mark body
    else shortText? mark rest

end Settings
end ScatterGather
