import MapClient.Files.Path

/-!
# What is done with files

A run reads files, makes directories and adds to a file. Where that happens is left open: each
operation may fail, for reasons of its own, and what it has done until then stays.
-/

set_option autoImplicit false

namespace MapClient.Files

inductive Content where
  | absent
  | unreadable
  | bytes (content : List UInt8)
  deriving DecidableEq, Repr

inductive Fault where
  | missing
  | present
  | notDirectory
  | isDirectory
  | denied
  | longName
  | brokenName
  | other (message : String)
  deriving DecidableEq, Repr

def Fault.message : Fault → String
  | .missing => "No such file or directory (os error 2)"
  | .present => "File exists (os error 17)"
  | .notDirectory => "Not a directory (os error 20)"
  | .isDirectory => "Is a directory (os error 21)"
  | .denied => "Permission denied (os error 13)"
  | .longName => "File name too long (os error 36)"
  | .brokenName => "file name contained an unexpected NUL byte"
  | .other message => message

/-- Files that can be written. A directory is made with all above it, and a file that is
added to is made if it is missing. -/
class Storage (m : Type → Type) where
  makeDirectories : Path → m (Except Fault Unit)
  append : Path → List UInt8 → m (Except Fault Unit)

class FileSystem (σ : Type) extends Storage (StateM σ) where
  read : σ → Path → Content

end MapClient.Files
