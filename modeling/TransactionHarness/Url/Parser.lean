import TransactionHarness.Text.Percent
import TransactionHarness.Url.Address
import TransactionHarness.Url.Basic
import TransactionHarness.Url.Domain
/-!
# Reading addresses

An address is read from left to right: scheme, user information, host, port, path, query, fragment.
Controls and spaces around it do not count, and neither do tabs and line ends anywhere in it. This
is the documented behaviour of the URL parser `url`, with which settings are checked and requests
are addressed.

The well-known schemes are special: any number of slashes of either direction may stand in front of
their hosts, and they have to have one, which is a domain name or a network address. Other schemes
may do without a host, which is then taken as it is. A file may have a host.
-/

namespace TransactionHarness.Url

open Text

/-! ### Characters -/

/-- A tab or a character of a line end, which does not count. -/
def isSkipped (c : Char) : Bool := c == '\t' || c == '\n' || c == '\r'

/-- A control or a space. -/
def isEdge (c : Char) : Bool := c.toNat ≤ 0x20

/-- The text without what does not count. -/
def significant (s : List Char) : List Char :=
  (dropLastWhile isEdge (s.dropWhile isEdge)).filter (!isSkipped ·)

/-- A slash of either direction. -/
def isEitherSlash (c : Char) : Bool := c == '/' || c == '\\'

/-- Writes the characters that have the property as their bytes. -/
def escape (isEscaped : Char → Bool) (s : List Char) : List Char :=
  s.flatMap fun c ↦
    if isEscaped c then (String.utf8EncodeChar c).flatMap Percent.encodeByte else [c]

/-- A control or a character outside ASCII, which is escaped everywhere. -/
def isControl (c : Char) : Bool := c.toNat < 0x20 || 0x7F ≤ c.toNat

/-- What is escaped in a fragment. -/
def isEscapedInFragment (c : Char) : Bool := isControl c || [' ', '\"', '<', '>', '\x60'].contains c

/-- What is escaped in a path. -/
def isEscapedInPath (c : Char) : Bool :=
  isEscapedInFragment c || ['#', '?', '\x7b', '\x7d'].contains c

/-- What is escaped in the user information. -/
def isEscapedInUserInfo (c : Char) : Bool :=
  isEscapedInPath c || ['/', ':', ';', '=', '@', '[', '\\', ']', '^', '|'].contains c

/-- What is escaped in a query. -/
def isEscapedInQuery (special : Bool) (c : Char) : Bool :=
  isControl c || [' ', '\"', '#', '<', '>'].contains c || (special && c == '\x27')

/-! ### Scheme -/

/-- A letter of the alphabet. -/
def isLetter (c : Char) : Bool := ('a' ≤ c && c ≤ 'z') || ('A' ≤ c && c ≤ 'Z')

/-- A character that can stand in a scheme, but not at its start. -/
def isSchemeCharacter (c : Char) : Bool :=
  isLetter c || isDecimalDigit c || c == '+' || c == '-' || c == '.'

/-- Splits off the scheme, in small letters, and the colon behind it. -/
def splitScheme? : List Char → Option (List Char × List Char)
  | [] => none
  | c :: rest =>
    if isLetter c then
      let more := rest.takeWhile isSchemeCharacter
      match rest.drop more.length with
      | ':' :: behind => some ((c :: more).map Domain.lower, behind)
      | _ => none
    else none

/-- The schemes that are special, with their usual ports. -/
def specialSchemes : List (String × Nat) :=
  [("http", 80), ("https", 443), ("ws", 80), ("wss", 443), ("ftp", 21)]

/-- The usual port of a scheme. -/
def usualPort? (scheme : String) : Option Nat := specialSchemes.lookup scheme

/-- The scheme of files. -/
def fileScheme : String := "file"

/-! ### User information, host and port -/

/-- Whether a character ends the part of an address that says where to go. -/
def endsAuthority (special : Bool) (c : Char) : Bool :=
  c == '/' || c == '?' || c == '#' || (special && c == '\\')

/-- The user information as it is written, of which an empty password is not. -/
def userInfoText (info : List Char) : List Char :=
  let name := escape isEscapedInUserInfo (info.takeWhile (· != ':'))
  match info.dropWhile (· != ':') with
  | _ :: c :: rest => name ++ ':' :: escape isEscapedInUserInfo (c :: rest)
  | _ => name

/-- Splits off what stands in front of the last commercial at of the authority. -/
def splitUserInfo (special : Bool) (s : List Char) :
    Except Fault (Option (List Char) × List Char) :=
  let authority := s.takeWhile (!endsAuthority special ·)
  if authority.contains '@' then
    let host := (authority.reverse.takeWhile (· != '@')).reverse
    let info := authority.take (authority.length - host.length - 1)
    let rest := s.drop (info.length + 1)
    if info.isEmpty && rest.head?.any (endsAuthority special) then .error .emptyHost
    else
      let text := userInfoText info
      .ok (if text.isEmpty then none else some text, rest)
  else .ok (none, s)

/-- Splits off the host. A colon inside brackets belongs to it. -/
def splitHost (special inBrackets : Bool) : List Char → List Char × List Char
  | [] => ([], [])
  | c :: rest =>
    if (c == ':' && !inBrackets) || endsAuthority special c then ([], c :: rest)
    else
      let inside := if c == '[' then true else if c == ']' then false else inBrackets
      let (host, behind) := splitHost special inside rest
      (c :: host, behind)

/-- The text between brackets. -/
def inBrackets? : List Char → Option (Except Fault (List Char))
  | '[' :: rest =>
    if rest.getLast? = some ']' then some (.ok rest.dropLast) else some (.error .badLongAddress)
  | _ => none

/-- Reads what stands between brackets. -/
def readLongHost (inner : Except Fault (List Char)) : Except Fault Host := do
  match Address.readLong? (← inner) with
  | some pieces => return .long pieces
  | none => throw .badLongAddress

/-- Reads the host of a special scheme. -/
def readHost (s : List Char) : Except Fault Host :=
  match inBrackets? s with
  | some inner => readLongHost inner
  | none =>
    match (Utf8.decode? (Percent.decode s)).bind Domain.normalize? with
    | none => .error .badDomain
    | some [] => .error .emptyHost
    | some name =>
      if Address.endsInNumber name then
        match Address.readShort? name with
        | some address => .ok (.short address)
        | none => .error .badShortAddress
      else .ok (.name (String.ofList name))

/-- What a host that is taken as it is must not contain. -/
def isForbiddenInHost (c : Char) : Bool :=
  ['\x00', '\t', '\n', '\r', ' ', '#', '/', ':', '<', '>', '?', '@', '[', '\\', ']', '^',
    '|'].contains c

/-- Reads the host of any other scheme. -/
def readPlainHost (s : List Char) : Except Fault (Option Host) :=
  match inBrackets? s with
  | some inner => (readLongHost inner).map some
  | none =>
    if s.any isForbiddenInHost then .error .badHostCharacter
    else .ok (if s.isEmpty then none else some (.name (String.ofList (escape isControl s))))

/-- Reads the port behind a host. The usual port is as good as none. -/
def readPort (usual? : Option Nat) : List Char → Except Fault (Option Nat × List Char)
  | ':' :: s =>
    let digits := s.takeWhile isDecimalDigit
    let rest := s.drop digits.length
    if rest.head?.any fun c ↦ !endsAuthority true c then .error .badPort
    else match readDigits? digits with
      | none => .ok (none, rest)
      | some n =>
        if max16 < n then .error .badPort
        else .ok (if usual? = some n then none else some n, rest)
  | s => .ok (none, s)

/-! ### Path, query and fragment -/

/-- Whether a segment stands for the place where it is. -/
def isDot (segment : List Char) : Bool :=
  [".", "%2e"].contains (String.ofList (segment.map Domain.lower))

/-- Whether a segment stands for the place above. -/
def isDoubleDot (segment : List Char) : Bool :=
  ["..", ".%2e", "%2e.", "%2e%2e"].contains (String.ofList (segment.map Domain.lower))

/-- Carries out the segments that stand for places. `above` are the segments in front, the nearest
one first. -/
def settle (above : List (List Char)) : List (List Char) → List (List Char)
  | [] => above.reverse
  | [last] =>
    if isDoubleDot last then ([] :: above.tail).reverse
    else if isDot last then ([] :: above).reverse
    else (last :: above).reverse
  | segment :: rest =>
    if isDoubleDot segment then settle above.tail rest
    else if isDot segment then settle above rest
    else settle (segment :: above) rest

/-- The path with the given segments. -/
def pathOf (segments : List (List Char)) : List Char := segments.flatMap ('/' :: ·)

/-- Reads a path of segments. -/
def readPath (special : Bool) (s : List Char) : List Char :=
  let s := if special then s.map fun c ↦ if c == '\\' then '/' else c else s
  let inner := match s with
    | '/' :: rest => rest
    | _ => s
  pathOf ((settle [] (pieces '/' inner)).map (escape isEscapedInPath))

/-- Whether a character ends a path. -/
def endsPath (c : Char) : Bool := c == '?' || c == '#'

/-- Reads the query and the fragment into an address. -/
def withQuery (special : Bool) (s : List Char) (url : Url) : Url :=
  let behind := s.dropWhile (· != '#')
  let query? := match s.takeWhile (· != '#') with
    | '?' :: query => some (String.ofList (escape (isEscapedInQuery special) query))
    | _ => none
  let fragment? := match behind with
    | '#' :: fragment => some (String.ofList (escape isEscapedInFragment fragment))
    | _ => none
  { url with query?, fragment? }

/-- Reads all that follows the host into an address. Only a special scheme always has a path. -/
def withPath (special : Bool) (s : List Char) (url : Url) : Url :=
  let path := s.takeWhile (!endsPath ·)
  let text := if path.isEmpty && !special then [] else readPath special path
  withQuery special (s.drop path.length) { url with path := String.ofList text }

/-! ### Addresses -/

/-- Reads an address with a special scheme. -/
def readSpecial (scheme : String) (s : List Char) : Except Fault Url := do
  let (userInfo?, s) ← splitUserInfo true (s.dropWhile isEitherSlash)
  let (hostText, s) := splitHost true false s
  if hostText.isEmpty then throw .emptyHost
  let host ← readHost hostText
  let (port?, s) ← readPort (usualPort? scheme) s
  return withPath true s
    { scheme, userInfo? := userInfo?.map String.ofList, host? := some host, port? }

/-- Whether a text is a letter with a colon or a bar, which names no host. -/
def isDriveLetter : List Char → Bool
  | [c, mark] => isLetter c && (mark == ':' || mark == '|')
  | _ => false

/-- The host of a file that is kept here. -/
def localHost : Host := .name "localhost"

/-- Reads the address of a file. -/
def readFile (s : List Char) : Except Fault Url :=
  match s with
  | a :: b :: rest =>
    if isEitherSlash a && isEitherSlash b then
      let hostText := rest.takeWhile (!endsAuthority true ·)
      if hostText.isEmpty || isDriveLetter hostText then
        .ok (withPath true rest { scheme := fileScheme })
      else do
        let host ← readHost hostText
        return withPath true (rest.drop hostText.length)
          { scheme := fileScheme, host? := if host = localHost then none else some host }
    else .ok (withPath true s { scheme := fileScheme })
  | _ => .ok (withPath true s { scheme := fileScheme })

/-- Reads an address with any other scheme. -/
def readPlain (scheme : String) (s : List Char) : Except Fault Url :=
  match s with
  | '/' :: '/' :: rest => do
    let (userInfo?, s) ← splitUserInfo false rest
    let (hostText, s) := splitHost false false s
    let host? ← readPlainHost hostText
    if host?.isNone && (userInfo?.isSome || s.head? = some ':') then throw .emptyHost
    let (port?, s) ← readPort none s
    return withPath false s { scheme, userInfo? := userInfo?.map String.ofList, host?, port? }
  | '/' :: _ => .ok (withPath false s { scheme })
  | _ =>
    let path := s.takeWhile (!endsPath ·)
    .ok (withQuery false (s.drop path.length)
      { scheme, path := String.ofList (escape isControl path) })

/-- Reads an address. -/
def parse (text : String) : Except Fault Url :=
  match splitScheme? (significant text.toList) with
  | none => .error .noScheme
  | some (scheme, rest) =>
    let scheme := String.ofList scheme
    if scheme = fileScheme then readFile rest
    else if (usualPort? scheme).isSome then readSpecial scheme rest
    else readPlain scheme rest

end TransactionHarness.Url
