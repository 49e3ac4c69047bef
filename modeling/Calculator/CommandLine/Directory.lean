import Calculator.Settings.File
import Calculator.Text.Lines

/-!
# The working directory

The working directory holds files and no directories. A path is followed part by part: empty parts
and `.` stay where they are, `..` leaves the directory, and the name of a file leads to the file,
from which no path goes on. Nothing is found outside. A path that is too long as a whole is not
followed at all.
-/
namespace Calculator

/-- The files of a directory with their names and contents. -/
structure Directory where
  files : List (String × List UInt8) := []
  deriving DecidableEq, Repr, Inhabited

inductive Place where
  | inside
  | outside
  -- a name in the directory, whether there is a file of this name or not
  | entry (name : String)
  deriving DecidableEq, Repr

namespace Directory

def content? (directory : Directory) (name : String) : Option (List UInt8) :=
  (directory.files.find? fun file => file.1 = name).map Prod.snd

/-- The longest name that a file can have, in bytes. -/
def longestName : Nat := 255

/-- The longest path that is followed, in bytes. -/
def longestPath : Nat := 4095

def follow (directory : Directory) (place : Place) (part : String) : Except ReadFailure Place :=
  match place with
  | .entry name => .error (if (directory.content? name).isSome then .notDirectory else .notFound)
  | .inside =>
    if part = "" ∨ part = "." then .ok .inside
    else if part = ".." then .ok .outside
    else if part.utf8ByteSize > longestName then .error .nameTooLong
    else .ok (.entry part)
  | .outside =>
    if part = "" ∨ part = "." ∨ part = ".." then .ok .outside
    else if part.utf8ByteSize > longestName then .error .nameTooLong
    else .error .notFound

/-- Where a path leads to; a path that starts with a slash starts outside. -/
def locate (directory : Directory) (path : String) : Except ReadFailure Place :=
  if path = "" then .error .notFound
  else if path.utf8ByteSize > longestPath then .error .nameTooLong
  else
    -- a leading slash leaves an empty part before it
    let parts := (Lines.pieces '/' path.toList).map String.ofList
    let start := if parts.head? = some "" then .outside else .inside
    parts.foldlM directory.follow start

def read (directory : Directory) (path : String) : Except ReadFailure (List UInt8) :=
  match directory.locate path with
  | .error failure => .error failure
  | .ok (.entry name) =>
    match directory.content? name with
    | some content => .ok content
    | none => .error .notFound
  | .ok .inside | .ok .outside => .error .isDirectory

/-- The name of the file that is written to at a path: one of the directory, or a new one. -/
def writable? (directory : Directory) (path : String) : Option String :=
  match directory.locate path with
  | .ok (.entry name) => some name
  | _ => none

/-- The directory after bytes were written to the end of a file, which is made if it is missing. -/
def append (directory : Directory) (name : String) (bytes : List UInt8) : Directory :=
  match directory.content? name with
  | some _ =>
    ⟨directory.files.map fun file => if file.1 = name then (name, file.2 ++ bytes) else file⟩
  | none => ⟨directory.files ++ [(name, bytes)]⟩

end Directory
end Calculator
