import TransactionHarness.Error
import TransactionHarness.Path.Basic
import TransactionHarness.Text.Percent
/-!
# Artifacts

The paths of the files that can be downloaded are chosen by the service. A file is asked for by its
whole path, percent-encoded into a single segment of the address, and it is kept in the download
directory under the last segment of its path. A path whose last segment is empty or stands for a
directory names no file.
-/

namespace TransactionHarness.Artifact

/-- The part of a path behind its last slash. -/
def lastSegment (path : List Char) : List Char :=
  (path.reverse.takeWhile (· != '/')).reverse

/-- Whether a segment can be the name of a file. -/
def isName (segment : List Char) : Bool :=
  !segment.isEmpty && segment != ['.'] && segment != ['.', '.']

/-- The name under which a file is kept. -/
def fileName (path : String) : Except Error String :=
  let name := lastSegment path.toList
  if isName name then .ok (String.ofList name)
  else .error (.invalidState ("download path '" ++ path ++ "' has no file name"))

/-- Where a file is kept. -/
def localPath (directory path : String) : Except Error String :=
  match fileName path with
  | .ok name => .ok (String.ofList (Path.join directory.toList name.toList))
  | .error e => .error e

/-- The segment of the address under which a file is asked for. -/
def segment (path : String) : String := String.ofList (Text.Percent.encode path.toList)

end TransactionHarness.Artifact
