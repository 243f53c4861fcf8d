import GameShelf.Text.Basic
import GameShelf.Utf8

/-!
# Paths without a file

A stand-in for the operating system, which this library does not model.  It is a made-up storage
that holds no file: the only names in it are those of the root, of the current directory and of its
parents.  Its one use is that the errors of tables and plans which cannot be read or written have
their causes and wordings; no theorem of the library speaks of it, and none says what a path of a
real system leads to.

What is wrong with the form of a path comes before what it leads to: first a NUL, which no path can
hold, then the length of the whole path.  After that the first name that is looked up decides,
because it is not there.
-/

set_option autoImplicit false

namespace GameShelf.Storage

/-- Why a path cannot be used. -/
inductive Fault where
  | nulInPath
  | nameTooLong
  | noSuchFile
  | isDirectory
  deriving DecidableEq, Repr

/-- The wording of a fault. -/
def Fault.message : Fault → String
  | .nulInPath => "file name contained an unexpected NUL byte"
  | .nameTooLong => "File name too long (os error 36)"
  | .noSuchFile => "No such file or directory (os error 2)"
  | .isDirectory => "Is a directory (os error 21)"

/-! ## The form of a path -/

/-- The number of bytes that a name may have. -/
def maxNameBytes : Nat := 255

/-- The number of bytes that a whole path may have. -/
def maxPathBytes : Nat := 4095

/-- Whether the text takes more bytes than that. -/
def exceeds (t : Text) (limit : Nat) : Bool :=
  limit < (Utf8.encode t).length

/-- What is wrong with the form of the path. -/
def formFault? (path : Text) : Option Fault :=
  if path.contains '\x00' then some .nulInPath
  else if exceeds path maxPathBytes then some .nameTooLong
  else none

/-! ## Looking a path up -/

/-- Whether a part of a path stays among the directories that always exist. -/
def isNavigation (part : Text) : Bool :=
  part == [] || part == ['.'] || part == ['.', '.']

/-- The parts of the path from the first name on. -/
def named (path : Text) : List Text :=
  (path.splitOn '/').dropWhile isNavigation

/-- Whether the path leads to a directory. -/
def isDirectory (path : Text) : Bool :=
  path != [] && (named path).isEmpty

/-- Whether the path asks for a new directory: one name followed by slashes. -/
def namesDirectory (path : Text) : Bool :=
  match named path with
  | _ :: after => after != [] && after.all (· == [])
  | [] => false

/-- What comes of looking up the first name of the path. -/
def lookupFault (path : Text) : Fault :=
  match named path with
  | name :: _ => if exceeds name maxNameBytes then .nameTooLong else .noSuchFile
  | [] => .noSuchFile

/-- Why no file can be written at the path. -/
def writeFault (path : Text) : Fault :=
  match formFault? path with
  | some fault => fault
  | none => if isDirectory path || namesDirectory path then .isDirectory else lookupFault path

/-- The bytes found at the path.  A directory can be opened and has none. -/
def read (path : Text) : Except Fault Bytes :=
  match formFault? path with
  | some fault => .error fault
  | none => if isDirectory path then .ok [] else .error (lookupFault path)

end GameShelf.Storage
