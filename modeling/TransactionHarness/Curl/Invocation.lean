/-!
# Invocations of curl

An `Invocation` says what curl is to do: flags, each of its own kind, and an address. `arguments` is
the list of words that curl is started with, and `read?` reads such a list as curl does: a word that
names a flag takes the next word as its value if the flag has one, and the last word is the address.

Main statement: `read?_arguments` — a list that was written for an address that does not look like a
flag is read back, whatever the values of the flags look like.
-/

namespace TransactionHarness.Curl

/-- A flag of curl. -/
inductive Flag where
  /-- No progress is shown. -/
  | silent
  /-- The head of the response is shown too. -/
  | showHead
  /-- The method of the request. -/
  | method (name : String)
  /-- A header of the request. -/
  | header (line : String)
  /-- How long everything may take, in seconds. -/
  | maxTime (seconds : String)
  /-- The body of the request. -/
  | data (text : String)
  /-- A field of a form, its name in front of the first equals sign. -/
  | formField (text : String)
  /-- A part of a form in several parts, its name in front of the first equals sign. -/
  | formPart (text : String)
  /-- Where the body of the response is kept. -/
  | output (place : String)
  /-- What is shown at the end. -/
  | writeOut (format : String)
  deriving DecidableEq, Repr, Inhabited

namespace Flag

/-- The words of a flag. -/
def words : Flag → List String
  | silent => ["-s"]
  | showHead => ["-i"]
  | method name => ["-X", name]
  | header line => ["-H", line]
  | maxTime seconds => ["--max-time", seconds]
  | data text => ["-d", text]
  | formField text => ["--data-urlencode", text]
  | formPart text => ["-F", text]
  | output place => ["-o", place]
  | writeOut format => ["-w", format]

/-- The flag without a value that a word names. -/
def ofWord? (word : String) : Option Flag :=
  if word = "-s" then some silent
  else if word = "-i" then some showHead
  else none

/-- The flag with a value that a word names. -/
def ofWords? (word value : String) : Option Flag :=
  if word = "-X" then some (method value)
  else if word = "-H" then some (header value)
  else if word = "--max-time" then some (maxTime value)
  else if word = "-d" then some (data value)
  else if word = "--data-urlencode" then some (formField value)
  else if word = "-F" then some (formPart value)
  else if word = "-o" then some (output value)
  else if word = "-w" then some (writeOut value)
  else none

end Flag

/-- What curl is to do. -/
structure Invocation where
  flags : List Flag
  url : String
  deriving DecidableEq, Repr, Inhabited

namespace Invocation

/-- The words that curl is started with. -/
def arguments (i : Invocation) : List String := i.flags.flatMap Flag.words ++ [i.url]

/-- The invocation with one more flag in front. -/
def withFlag (flag : Flag) (i : Invocation) : Invocation := { i with flags := flag :: i.flags }

/-- Whether a word looks like a flag. -/
def looksLikeFlag (word : String) : Bool := word.toList.head? == some '-'

/-- Reads the words that curl is started with. -/
def read? : List String → Option Invocation
  | [] => none
  | [word] => if looksLikeFlag word then none else some ⟨[], word⟩
  | word :: value :: rest =>
    match Flag.ofWord? word with
    | some flag => (read? (value :: rest)).map (withFlag flag)
    | none =>
      match Flag.ofWords? word value with
      | some flag => (read? rest).map (withFlag flag)
      | none => none

/-! ### Reading what was written -/

theorem read?_words_append (flag : Flag) {rest : List String} (h : rest ≠ []) :
    read? (flag.words ++ rest) = (read? rest).map (withFlag flag) := by
  obtain ⟨word, rest, rfl⟩ := List.exists_cons_of_ne_nil h
  cases flag <;> simp [Flag.words, read?, Flag.ofWord?, Flag.ofWords?]

/-- An invocation is read back from its words. -/
theorem read?_arguments {i : Invocation} (h : looksLikeFlag i.url = false) :
    read? i.arguments = some i := by
  obtain ⟨flags, url⟩ := i
  induction flags with
  | nil => simp_all [arguments, read?]
  | cons flag flags ih =>
    have step := read?_words_append flag (show arguments ⟨flags, url⟩ ≠ [] by simp [arguments])
    simp only [arguments, List.flatMap_cons, List.append_assoc] at step ih ⊢
    rw [step, ih h]
    rfl

end Invocation

end TransactionHarness.Curl
