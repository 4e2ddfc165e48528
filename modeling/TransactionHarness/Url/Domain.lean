import TransactionHarness.Text.Composition
import TransactionHarness.Text.Printable
import TransactionHarness.Url.Direction
import TransactionHarness.Url.Forms
import TransactionHarness.Url.Joining
import TransactionHarness.Url.Punycode
/-!
# Domain names

A domain name is a list of labels with dots in between. Before it is looked at, every character is
replaced by what it stands for, and characters are joined with their marks. A label may be encoded
in ASCII, with a mark in front that says so.

`normalize?` gives the name in the form that the URL parser `url` documents, with encoded labels as
they are. It refuses a name in which a forbidden character is left, a label that starts with a mark,
a joiner that has no place, a name that can be shown in two ways, and a label that claims to be
encoded and is not, or did not have to be.
-/

namespace TransactionHarness.Domain

open Text

/-- The ASCII characters that have no place in a name, besides controls and the space. -/
def forbiddenAscii : List Char := ['%', '#', '/', ':', '<', '>', '?', '@', '[', '\\', ']', '^', '|']

/-- The characters that show but have no place in a name: signs that look like several characters
with a dot among them, signs that describe ideographs, and signs for what cannot be shown. -/
def unusable : List (Nat × Nat) :=
  [(0x2024, 0x2026), (0x2488, 0x249B), (0x2FF0, 0x2FFF), (0x31EF, 0x31EF), (0x33C2, 0x33C2),
   (0x33C7, 0x33C7), (0x33D8, 0x33D8), (0xFE12, 0xFE12), (0xFE19, 0xFE19), (0xFE30, 0xFE30),
   (0xFE52, 0xFE52), (0xFFFC, 0xFFFD), (0x1F100, 0x1F100)]

/-- Whether a character has no place in a name. -/
def isForbidden (c : Char) : Bool :=
  let n := c.toNat
  if n < 0x80 then n ≤ 0x20 || n == 0x7F || forbiddenAscii.contains c
  else inRanges unusable n || (inRanges unprintable n && !isJoiner c)

/-- The most characters of a label that is not ASCII. -/
def longestLabel : Nat := 1000

/-- The most characters of an encoded label behind the mark. -/
def longestCode : Nat := 2000

/-- Whether all characters of a label are ASCII. -/
def isAsciiLabel (label : List Char) : Bool := label.all (·.toNat < 0x80)

/-- Whether the characters of a label fit together. -/
def isLabel (label : List Char) : Bool :=
  !label.any isForbidden && !label.head?.any isMark && joinersFit [] label &&
    (isAsciiLabel label || label.length ≤ longestLabel)

/-- What an encoded label starts with. -/
def encodedMark : List Char := ['x', 'n', '-', '-']

/-- The label that a code stands for. It has to be one that is not ASCII, and in the form in which
names are looked at. -/
def decodeLabel? (code : List Char) : Option (List Char) :=
  if longestCode < code.length then none
  else match Punycode.decode? code with
    | some label =>
      if !isAsciiLabel label && label.flatMap form == label && Composition.composed label == label
      then some label else none
    | none => none

/-- What a label, written out or encoded, stands for, if it can be part of a name. -/
def readLabel? (label : List Char) : Option (List Char) :=
  let decoded? :=
    if encodedMark.isPrefixOf label then decodeLabel? (label.drop encodedMark.length)
    else some label
  decoded?.filter isLabel

/-- The name with every character replaced by what it stands for, if it is the name of a domain. -/
def normalize? (name : List Char) : Option (List Char) :=
  let plain := Composition.composed (name.flatMap form)
  match (pieces '.' plain).mapM readLabel? with
  | some labels => if directionsFit labels then some plain else none
  | none => none

end TransactionHarness.Domain
