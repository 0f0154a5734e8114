-- SUMMARY: The interface to files and standard output: what each operation takes and how it can fail.
import LispLex.File.Path
import LispLex.Text.Quoted
import LispLex.Text.Utf8

/-!
# Access to files

What the command needs of a file system and of standard output. The command is written against this
interface, so that it runs on real files as well as on a file tree in memory.
-/

namespace LispLex

/-- A point in time. Times are only told apart; how they are numbered is up to the file system, but for
the start of the epoch, which is 0. -/
abbrev Time := Int

inductive FileCause where
  | missing
  | isDirectory
  | notDirectory
  | other (number : Nat) (reason : Text)
  deriving DecidableEq, Repr

def FileCause.number : FileCause → Nat
  | .missing => 2
  | .isDirectory => 21
  | .notDirectory => 20
  | .other number _ => number

def FileCause.reason : FileCause → Text
  | .missing => "No such file or directory".toList
  | .isDirectory => "Is a directory".toList
  | .notDirectory => "Not a directory".toList
  | .other _ reason => reason

/-- A name or a path is longer than the file system takes. -/
def FileCause.nameTooLong : FileCause :=
  .other 36 "File name too long".toList

def FileCause.noSpace : FileCause :=
  .other 28 "No space left on device".toList

/-- The cause with the given error number. -/
def FileCause.ofNumber (number : Nat) (reason : Text) : FileCause :=
  ([.missing, .isDirectory, .notDirectory, .nameTooLong].find? (·.number == number)).getD
    (.other number reason)

/-- The cause says that a path leads nowhere: something is missing on the way, or is no directory, or
is a link without an end. -/
def FileCause.isAbsence (cause : FileCause) : Bool :=
  [2, 9, 20, 40].contains cause.number

/-- What the system does not do. -/
structure FileFault where
  cause : FileCause
  /-- The path that was to be followed; none if the fault is about something that is open already. -/
  path : Option Path
  deriving DecidableEq, Repr

def FileFault.message (fault : FileFault) : Text :=
  "[Errno ".toList ++ decimal fault.cause.number ++ [']', ' '] ++ fault.cause.reason ++
    match fault.path with
    | none => []
    | some path => [':', ' '] ++ quoted path.toText

/-- Why standard output did not take all of a text. -/
inductive StreamFault where
  /-- A character of the text has no bytes in the encoding of the output; nothing was taken. -/
  | unencodable (reason : Text)
  /-- The system failed after some characters. -/
  | broken (cause : FileCause) (taken : Nat)
  deriving DecidableEq, Repr

/-- How many characters were taken nevertheless. -/
def StreamFault.taken : StreamFault → Nat
  | .unencodable _ => 0
  | .broken _ taken => taken

/-- Reading and writing files, and printing, in `m`. -/
class FileAccess (m : Type → Type) where
  /-- The path leads to a file and not to a directory. It is no fault if it leads nowhere. -/
  isFile : Path → m (Except FileFault Bool)
  read : Path → m (Except FileFault Bytes)
  /-- Opens the file, which makes or empties it, and writes to it. -/
  write : Path → Bytes → m (Except FileFault Unit)
  /-- Writes to standard output. -/
  print : Text → m (Except StreamFault Unit)
  /-- When the file or directory was changed last; none if there is none. -/
  modified? : Path → m (Option Time)

end LispLex
