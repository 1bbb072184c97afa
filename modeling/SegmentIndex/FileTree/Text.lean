import SegmentIndex.FileTree.Basic
import SegmentIndex.Text.Encoding

/-!
# Text of files

A file is read in the encoding that the configuration names. When its bytes have no text in it they
are read as Latin text, so that an odd byte never hides a file. Line ends come out as line feeds.
-/
namespace SegmentIndex.FileTree

variable (t : FileTree)

/-- The bytes of the file at a clean path. -/
def bytesAt (path : String) : Except Failure ByteArray :=
  if path.toList.contains '\x00' then .error Failure.nullInPath
  else
    match t.read path with
    | .ok bytes => .ok bytes
    | .error fault => .error (.system fault path)

/-- The text of a file in one encoding only; `none` when its bytes have no text. -/
def strictText (encoding : Text.Encoding) (path : String) : Except Failure (Option String) :=
  (t.bytesAt path).map fun bytes =>
    (encoding.decode bytes).map fun s => String.ofList (Text.uniformLines s.toList)

/-- The text of bytes in an encoding, or else as Latin text. -/
def decodeOpen (encoding : Text.Encoding) (bytes : ByteArray) : String :=
  let s := (encoding.decode bytes).getD (String.ofList (Text.Encoding.latin1Chars bytes.toList))
  String.ofList (Text.uniformLines s.toList)

/-- The text of the file that a path names. -/
def readText (encoding path : String) : Except Failure String :=
  let path := Path.clean path
  match t.bytesAt path with
  | .error (.system fault p) => .error (.file (.unreadable path (fault.message p)) path)
  | .error e => .error e
  | .ok bytes =>
    match Text.Encoding.ofName? encoding with
    | none => .error (.raised .lookup ("unknown encoding: " ++ encoding))
    | some e => .ok (decodeOpen e bytes)

end SegmentIndex.FileTree
