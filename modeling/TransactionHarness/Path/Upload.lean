import TransactionHarness.Error
import TransactionHarness.Path.Basic
import TransactionHarness.Text.Utf8
/-!
# Files to upload

The path of a file to upload is a text, or bytes that are no text. The service echoes the name of
the file, so the name has to be a text even where the path is not.
-/

namespace TransactionHarness

/-- The path of a file to upload. -/
inductive UploadPath where
  | text (s : String)
  /-- Bytes that are not well-formed UTF-8. -/
  | bytes (bs : List UInt8) (illFormed : Text.Utf8.decode? bs = none)
  deriving DecidableEq

namespace UploadPath

instance : Inhabited UploadPath := ⟨text ""⟩

/-- The path that consists of the given bytes. -/
def ofBytes (bs : List UInt8) : UploadPath :=
  match h : Text.Utf8.decode? bs with
  | some s => text (String.ofList s)
  | none => bytes bs h

/-- The path, if it is a text. -/
def text? : UploadPath → Option String
  | text s => some s
  | bytes _ _ => none

/-- The path as it is shown: a replacement character stands for each part that is no text. -/
def display : UploadPath → String
  | text s => s
  | bytes bs _ => String.ofList (Text.Utf8.decodeLossy bs)

/-- The byte of a slash. -/
def slashByte : UInt8 := 0x2F

/-- The byte of a dot. -/
def dotByte : UInt8 := 0x2E

/-- The name of the file, if it has one that is a text. -/
def fileName? : UploadPath → Option String
  | text s => (Path.fileName? '/' '.' s.toList).map String.ofList
  | bytes bs _ =>
    (Path.fileName? slashByte dotByte bs).bind fun name ↦
      (Text.Utf8.decode? name).map String.ofList

/-- The name of the file as the service will echo it. -/
def fileName (path : UploadPath) : Except Error String :=
  match path.fileName? with
  | some name => .ok name
  | none => .error (.invalidState ("upload path " ++ path.display ++ " has no file name"))

end UploadPath

end TransactionHarness
