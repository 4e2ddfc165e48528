import TransactionHarness.Environment.Basic
import TransactionHarness.Text.Alphanumeric
/-!
# Environment files

An environment file has a setting in each line: a name, an equals sign and a value. The word
`export` may stand in front; empty lines and lines that start with a number sign are skipped; a
number sign behind white space starts a comment. A value may be quoted, in part or as a whole, and a
quotation may go on over several lines. Outside single quotes a backslash makes the next character
stand for itself, and a dollar sign starts the name of a variable, whose value takes its place.

* `lines` cuts a file into lines, of which a quotation may join several.
* `readLine` reads one of them.
* `Environment.load` reads a whole file. What is set already stays as it is. The first line that
  makes no sense ends the reading, and what was read before it counts.
-/

namespace TransactionHarness.Environment

open Text

/-! ### Lines -/

/-- Where a place in a line is. -/
inductive Place where
  | plain
  | blank
  /-- Behind a backslash. -/
  | escaped
  /-- In single quotes. -/
  | single
  | singleEscaped
  /-- In double quotes. -/
  | double
  | doubleEscaped
  deriving DecidableEq, Repr, Inhabited

/-- Where the next place is when a character starts a piece of text. -/
def Place.start (c : Char) : Place :=
  if c == '\\' then escaped else if c == '\"' then double else if c == '\'' then single else plain

/-- Where the next place is, or `none` at the start of a comment. -/
def Place.next (c : Char) : Place → Option Place
  | blank => if c == '#' then none else some (start c)
  | plain => if isBlank c && c != '\n' && c != '\r' then some blank else some (start c)
  | escaped => some plain
  | single => some (if c == '\\' then singleEscaped else if c == '\'' then plain else single)
  | singleEscaped => some single
  | double => some (if c == '\\' then doubleEscaped else if c == '\"' then plain else double)
  | doubleEscaped => some double

/-- The text in front of a comment, and where its end is: `none` if a comment follows. -/
def beforeComment (place : Place) : List Char → List Char × Option Place
  | [] => ([], some place)
  | c :: rest =>
    match place.next c with
    | none => ([], none)
    | some next =>
      let (text, last?) := beforeComment next rest
      (c :: text, last?)

/-- The lines of a file, each with its line end. -/
def rawLines : List Char → List (List Char)
  | [] => []
  | c :: rest =>
    if c = '\n' then [c] :: rawLines rest
    else match rawLines rest with
      | [] => [[c]]
      | line :: more => (c :: line) :: more

/-- A line without its line end. -/
def dropLineEnd (s : List Char) : List Char :=
  if s.getLast? = some '\n' then dropCarriageReturn s.dropLast else s

/-- Joins lines while a quotation is open, or a last white space. `opened` is what has been joined
so far. If the file ends before the quotation does, the last line is `none`. -/
def joinLines (opened : List Char) (place : Place) : List (List Char) → List (Option (List Char))
  | [] => if place = .plain then [] else [none]
  | line :: rest =>
    let whole := opened ++ line
    if (trimStart whole).head? = some '#' then some [] :: joinLines [] .plain rest
    else match beforeComment place line with
      | (text, none) => some (opened ++ text) :: joinLines [] .plain rest
      | (_, some .plain) => some (dropLineEnd whole) :: joinLines [] .plain rest
      | (_, some open_) => joinLines whole open_ rest

/-- The character that may stand in front of a file to tell its encoding. -/
def byteOrderMark : Char := '\uFEFF'

/-- The lines of a file. -/
def lines (file : List Char) : List (Option (List Char)) :=
  let text := match file with
    | c :: rest => if c = byteOrderMark then rest else file
    | [] => []
  joinLines [] .plain (rawLines text)

/-! ### Values -/

/-- In which part of a value a character is. -/
inductive Part where
  | plain
  | single
  | double
  /-- Behind a backslash; `quoted` tells whether in double quotes. -/
  | escaped (quoted : Bool)
  /-- In the name of a variable, of which `name` has been read. -/
  | variable (quoted : Bool) (name : List Char)
  /-- In the name of a variable that stands in braces. -/
  | braced (quoted : Bool) (name : List Char)
  /-- Behind the value, where only white space and a comment may follow. -/
  | behind
  | comment
  deriving DecidableEq, Repr, Inhabited

/-- The part that a variable, or a backslash and its character, stood in. -/
def Part.around (quoted : Bool) : Part := if quoted then double else plain

/-- A blank or a tab, which ends a value that is not quoted. -/
def endsValue (c : Char) : Bool := c == ' ' || c == '\t'

/-- Whether the name of a variable goes on with a character. -/
def continuesVariable (c : Char) : Bool := isAlphanumeric c

/-- What a character behind a backslash stands for. -/
def escapedForm? (c : Char) : Option Char :=
  if c == 'n' then some '\n'
  else if ['\\', '\'', '\"', '$', ' '].contains c then some c
  else none

/-- An entry of the environment as one text. -/
def entryText (entry : String × String) : List Char := entry.1.toList ++ '=' :: entry.2.toList

/-- The value of a variable; nothing if it has none. It is what follows the name and an equals sign
in the first entry that starts with them, so that a name in braces may reach into a value. -/
def substitute (env : Environment) (name : List Char) : List Char :=
  let start := name ++ ['=']
  match env.find? fun entry ↦ start.isPrefixOf (entryText entry) with
  | some entry => (entryText entry).drop start.length
  | none => []

/-- Reads a character of a value: in which part the next one is, and what is added to the value. -/
def readCharacter (env : Environment) (part : Part) (c : Char) : Option (Part × List Char) :=
  match part with
  | .comment => some (.comment, [])
  | .behind =>
    if endsValue c then some (.behind, [])
    else if c == '#' then some (.comment, [])
    else none
  | .escaped quoted => (escapedForm? c).map fun d ↦ (.around quoted, [d])
  | .single => if c == '\'' then some (.plain, []) else some (.single, [c])
  | .variable quoted name =>
    if continuesVariable c then some (.variable quoted (name ++ [c]), [])
    else if c == '\x7b' && name.isEmpty then some (.braced quoted [], [])
    else if c == '$' then some (.variable quoted [], env.substitute name)
    else some (.around quoted, env.substitute name ++ [c])
  | .braced quoted name =>
    if c == '\x7d' then some (.around quoted, env.substitute name)
    else some (.braced quoted (name ++ [c]), [])
  | .double =>
    if c == '$' then some (.variable true [], [])
    else if c == '\"' then some (.plain, [])
    else if c == '\\' then some (.escaped true, [])
    else some (.double, [c])
  | .plain =>
    if c == '$' then some (.variable false [], [])
    else if c == '\'' then some (.single, [])
    else if c == '\"' then some (.double, [])
    else if c == '\\' then some (.escaped false, [])
    else if endsValue c then some (.behind, [])
    else some (.plain, [c])

/-- What is added to a value at its end, unless the value cannot end there. -/
def endValue (env : Environment) : Part → Option (List Char)
  | .single => none
  | .double => none
  | .escaped quoted => if quoted then none else some []
  | .variable quoted name => if quoted then none else some (env.substitute name)
  | .braced _ _ => none
  | _ => some []

/-- Reads a value from a part on. -/
def readValue (env : Environment) (part : Part) : List Char → Option (List Char)
  | [] => env.endValue part
  | c :: rest => do
    let (next, added) ← env.readCharacter part c
    let more ← readValue env next rest
    return added ++ more

/-! ### Settings -/

/-- Whether a name can start with a character. -/
def startsName (c : Char) : Bool := c.isAlpha || c == '_'

/-- Whether a name can go on with a character. -/
def continuesName (c : Char) : Bool := c.isAlphanum || c == '_' || c == '.'

/-- Splits off a name and the white space behind it. -/
def splitName? : List Char → Option (List Char × List Char)
  | [] => none
  | c :: rest =>
    if startsName c then
      let more := rest.takeWhile continuesName
      some (c :: more, trimStart (rest.drop more.length))
    else none

/-- The word that may stand in front of a setting. -/
def exportWord : List Char := ['e', 'x', 'p', 'o', 'r', 't']

/-- Splits a line at its equals sign into the name and what follows. -/
def splitSetting? (line : List Char) : Option (List Char × List Char) := do
  let (name, rest) ← splitName? line
  match rest with
  | '=' :: value => return (name, value)
  | _ =>
    if name = exportWord then
      let (name, rest) ← splitName? rest
      match rest with
      | '=' :: value => return (name, value)
      | _ => none
    else none

/-- What a line holds. -/
inductive Line where
  | nothing
  | setting (name value : String)
  | malformed
  deriving DecidableEq, Repr, Inhabited

/-- Whether nothing, or only a comment, is left of a line. -/
def isEmptyOrComment (s : List Char) : Bool := s.isEmpty || s.head? == some '#'

/-- Reads a line. -/
def readLine (env : Environment) (line : List Char) : Line :=
  let text := trim line
  if isEmptyOrComment text then .nothing
  else match splitSetting? text with
    | none => .malformed
    | some (name, rest) =>
      let rest := trimStart rest
      if isEmptyOrComment rest then .setting (String.ofList name) ""
      else match env.readValue .plain rest with
        | some value => .setting (String.ofList name) (String.ofList value)
        | none => .malformed

/-- Reads lines into an environment, up to the first that makes no sense. -/
def loadLines (env : Environment) : List (Option (List Char)) → Environment
  | [] => env
  | none :: _ => env
  | some line :: rest =>
    match env.readLine line with
    | .nothing => loadLines env rest
    | .setting name value => loadLines (env.default name value) rest
    | .malformed => env

/-- The environment with the settings of a file. -/
def load (env : Environment) (file : String) : Environment := env.loadLines (lines file.toList)

end TransactionHarness.Environment
