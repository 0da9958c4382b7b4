/-!
# Addresses

The address of a service is a scheme, an authority and a target. The authority names the host: users
may stand before it, and the number of the service after it. It ends where a slash, a question mark
or a number sign begins the target, which is a path, a query after a question mark, and a fragment
after a number sign.

**Results.** `Address.ofService` writes the address of a host and a number, and `Address.isValid`
tells whether what it wrote is an address, since a host is any text.
-/

namespace ScatterGather
namespace Address

/-- The scheme of all addresses. -/
def scheme : String := "http://"

/-- The address of the service with a number on a host. -/
def ofService (host : String) (number : UInt16) : String :=
  scheme ++ host ++ ":" ++ toString number.toNat

/-- Characters that may stand in an authority as they are. -/
def isAuthorityChar (c : Char) : Bool :=
  c.isAlphanum || "!$&'()*+,-.:;=@[]_~".toList.contains c

/-- Characters of a path: all but controls, blanks, angle brackets and the grave accent. -/
def isPathChar (c : Char) : Bool :=
  '!' ≤ c && c ≠ '<' && c ≠ '>' && c ≠ '\x60'

/-- Characters of a query: all but controls, blanks, angle brackets and the double quote. -/
def isQueryChar (c : Char) : Bool :=
  '!' ≤ c && c ≠ '<' && c ≠ '>' && c ≠ '"'

/-- Characters that end an authority. -/
def isAuthorityEnd (c : Char) : Bool :=
  c = '/' || c = '?' || c = '#'

/-- What has been read of an authority: the colons and whether there was a percent sign since the
last at sign or closing bracket, whether a bracket was opened and closed, and whether the last
character was an at sign. -/
structure AuthorityScan where
  colons : Nat := 0
  percent : Bool := false
  opened : Bool := false
  closed : Bool := false
  afterAt : Bool := false
deriving DecidableEq, Repr

namespace AuthorityScan

/-- A host in brackets has at most seven colons, and one more stands before the number. -/
def colonLimit : Nat := 8

/-- Reads one character. Percent signs may stand among users and within brackets, so what follows
decides on them. -/
def read (a : AuthorityScan) (c : Char) : Option AuthorityScan :=
  let next := { a with afterAt := false }
  match c with
  | ':' => if a.colons < colonLimit then some { next with colons := a.colons + 1 } else none
  | '[' => if a.percent || a.opened then none else some { next with opened := true }
  | ']' =>
    if a.opened && !a.closed then some { next with colons := 0, percent := false, closed := true }
    else none
  | '@' => some { a with colons := 0, percent := false, afterAt := true }
  | '%' => some { next with percent := true }
  | c => if isAuthorityChar c then some next else none

/-- Whether an authority may end here: brackets are closed, at most one colon stands before the
number, and a host follows the users. -/
def isComplete (a : AuthorityScan) : Bool :=
  a.opened == a.closed && a.colons ≤ 1 && !a.percent && !a.afterAt

end AuthorityScan

/-- Whether a text is an authority. -/
def isAuthority (text : List Char) : Bool :=
  !text.isEmpty && (text.foldlM AuthorityScan.read {}).any AuthorityScan.isComplete

/-- Whether a text is a target; what a fragment holds does not matter. -/
def isTarget (text : List Char) : Bool :=
  let beforeFragment := text.takeWhile (· ≠ '#')
  (beforeFragment.takeWhile (· ≠ '?')).all isPathChar &&
    (beforeFragment.dropWhile (· ≠ '?')).all isQueryChar

/-- Addresses take up at most this many bytes. -/
def sizeLimit : Nat := 65534

/-- Whether a text that starts with the scheme is an address. -/
def isValid (text : String) : Bool :=
  let rest := text.toList.drop scheme.length
  text.utf8ByteSize ≤ sizeLimit &&
    isAuthority (rest.takeWhile fun c => !isAuthorityEnd c) &&
    isTarget (rest.dropWhile fun c => !isAuthorityEnd c)

end Address
end ScatterGather
