import TransactionHarness.Path.Upload
import TransactionHarness.Text.Percent
/-!
# Forms

A form is sent in one of two ways, as `reqwest` documents them. `urlEncoded` joins fields to one
line in which nothing but letters, digits and a few marks stand for themselves. `multipart` sends
one file as a part between boundaries, announced by the name of the field and the name of the file.
-/

namespace TransactionHarness.Http.Form

/-! ### Fields in one line -/

/-- The characters that stand for themselves in a line. -/
def isKept (c : Char) : Bool :=
  ('A' ≤ c && c ≤ 'Z') || ('a' ≤ c && c ≤ 'z') || ('0' ≤ c && c ≤ '9') ||
    c == '*' || c == '-' || c == '.' || c == '_'

/-- A character as it stands in a line. -/
def encodeChar (c : Char) : List Char :=
  if isKept c then [c]
  else if c = ' ' then ['+']
  else (String.utf8EncodeChar c).flatMap Text.Percent.encodeByte

/-- A name or a value as it stands in a line. -/
def encodeText (s : String) : List Char := s.toList.flatMap encodeChar

/-- A field as it stands in a line. -/
def encodeField (field : String × String) : List Char :=
  encodeText field.1 ++ '=' :: encodeText field.2

/-- The line of a form. -/
def urlEncoded (fields : List (String × String)) : String :=
  String.ofList (['&'].intercalate (fields.map encodeField))

/-! ### A file as a part -/

/-- The characters that are not written in the name of a part: controls, characters that are not
ASCII, and a few marks. -/
def isHidden (c : Char) : Bool :=
  c.toNat < 0x20 || 0x7E < c.toNat || " \"#<>`?\x7b\x7d/%".toList.contains c

/-- A character as it stands in the name of a part. -/
def encodeNameChar (c : Char) : List Char :=
  if isHidden c then (String.utf8EncodeChar c).flatMap Text.Percent.encodeByte else [c]

/-- The name of a part. One that cannot be written as it is is marked as encoded. -/
def partName (name : String) : String :=
  if name.toList.any isHidden then
    "name*=utf-8''" ++ String.ofList (name.toList.flatMap encodeNameChar)
  else "name=\"" ++ name ++ "\""

/-- A character as it stands in the name of a file. -/
def escapeFileChar (c : Char) : List Char :=
  if c = '\\' || c = '\"' || c = '\r' || c = '\n' then ['\\', c] else [c]

/-- The name of a file in quotes. -/
def quotedFileName (name : String) : String :=
  "\"" ++ String.ofList (name.toList.flatMap escapeFileChar) ++ "\""

/-- The name that a file without one is sent under. -/
def standardFileName : String := "upload"

/-- The line that announces a file. -/
def partLine (field : String) (file : UploadPath) : String :=
  "Content-Disposition: form-data; " ++ partName field ++ "; filename=" ++
    quotedFileName (file.fileName?.getD standardFileName)

/-- A form with one file. -/
def multipart (boundary field : String) (file : UploadPath) (content : List UInt8) : List UInt8 :=
  let opening := "--" ++ boundary ++ "\r\n" ++ partLine field file ++ "\r\n\r\n"
  let closing := "\r\n--" ++ boundary ++ "--\r\n"
  Text.Utf8.encode opening.toList ++ content ++ Text.Utf8.encode closing.toList

end TransactionHarness.Http.Form
