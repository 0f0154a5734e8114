-- SUMMARY: File access on the real system, and the entry point of the program.
import LispLex.Command.Watch

/-!
# The program

Runs the command on real files and streams. A watch goes on until the program is interrupted.
-/

namespace LispLex

/-- The error number behind a code, which may come negated. -/
def errorNumber (code : UInt32) : Nat :=
  if code.toNat < Nat.pow 2 31 then code.toNat else Nat.pow 2 32 - code.toNat

/-- The number and the reason of a system error. -/
def errorDetails : IO.Error → Nat × String
  | .alreadyExists _ code details | .noFileOrDirectory _ code details
  | .inappropriateType _ code details | .permissionDenied _ code details
  | .invalidArgument _ code details | .resourceExhausted _ code details
  | .noSuchThing _ code details => (errorNumber code, details)
  | .otherError code details | .hardwareFault code details | .illegalOperation code details
  | .interrupted _ code details | .protocolError code details | .resourceBusy code details
  | .resourceVanished code details | .timeExpired code details
  | .unsatisfiedConstraints code details | .unsupportedOperation code details =>
    (errorNumber code, details)
  | .unexpectedEof => (0, "unexpected end of file")
  | .userError details => (0, details)

/-- What an action on a path, or on something open, gives, or the fault. -/
def attemptOn (path : Option Path) (action : IO α) : IO (Except FileFault α) := do
  try
    return .ok (← action)
  catch error =>
    let (number, reason) := errorDetails error
    return .error ⟨.ofNumber number reason.toList, path⟩

def Path.toString (path : Path) : String :=
  String.ofList path.toText

/-- What the system knows of a file or directory. -/
def metadata (path : Path) : IO (Except FileFault IO.FS.Metadata) :=
  attemptOn path (System.mkFilePath [path.toString]).metadata

/-- Opens a file and writes to it. -/
def writeFile (path : Path) (content : Bytes) : IO (Except FileFault Unit) := do
  match ← attemptOn path (IO.FS.Handle.mk path.toString .write) with
  | .error fault => return .error fault
  | .ok handle =>
    attemptOn none do
      handle.write ⟨content.toArray⟩
      handle.flush

/-- The seconds of a time as a double, by its bits. -/
def secondsBits (time : IO.FS.SystemTime) : Time :=
  (Float.ofInt time.sec + 1e-9 * time.nsec.toFloat).toBits.toNat

instance : FileAccess IO where
  isFile path := do
    match ← metadata path with
    | .ok data => return .ok (data.type == .file)
    | .error fault => return if fault.cause.isAbsence then .ok false else .error fault
  read path := attemptOn path do return (← IO.FS.readBinFile path.toString).toList
  write := writeFile
  print text := do
    let stdout ← IO.getStdout
    match ← attemptOn none (do stdout.putStr (String.ofList text); stdout.flush) with
    | .ok () => return .ok ()
    | .error fault => return .error (.broken fault.cause 0)
  modified? path := return (← metadata path).toOption.map (secondsBits ·.modified)

def printNotices (notices : List Notice) : IO Unit := do
  (← IO.getStderr).putStr (String.ofList (notices.flatMap Notice.text))

def DeliveryFault.message : DeliveryFault → Text
  | .file fault => fault.message
  | .unencodable reason => reason

def Escape.message : Escape → Text
  | .delivery fault => fault.message
  | .config fault => fault.message
  | .invalid cause => cause.message

/-- Ends the program with a fault that the command does not handle. -/
def stop (escape : Escape) : IO UInt32 := do
  printNotices [.log escape.message]
  return 1

/-- Looks at the input twice a second. -/
partial def watchOn (options : Options) (last : Time) : IO UInt32 := do
  let (poll, last) ← options.poll last
  printNotices poll.stderr
  match poll.escape with
  | some escape => stop escape
  | none =>
    IO.sleep 500
    watchOn options last

end LispLex

open LispLex in
def main (words : List String) : IO UInt32 := do
  match ← launch .separating (words.map String.toList) with
  | .finished result =>
    printNotices result.stderr
    match result.ending with
    | .returns code | .leaves code => return code.toUInt32
    | .escapes escape => stop escape
  | .watching options =>
    printNotices [options.watchNotice]
    watchOn options watchStart
