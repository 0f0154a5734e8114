-- SUMMARY: File systems as values, with the instance of file access that runs on them.
import LispLex.File.Access

/-!
# File systems

A file system as a value: what it tells depends on that value alone, and only a write makes another
one of it. A file that cannot be opened stays as it is; one that is opened and then fails does not.
Printing leaves all files alone.
-/

namespace LispLex

/-- What comes of writing to a file. -/
inductive Written (σ : Type) where
  | unopened (fault : FileFault)
  /-- The file was made or emptied, and then took what it was given, or a part of it and the fault. -/
  | opened (after : σ) (fault : Option FileFault)

namespace Written

variable {σ : Type}

def after (files : σ) : Written σ → σ
  | .unopened _ => files
  | .opened after _ => after

def outcome : Written σ → Except FileFault Unit
  | .unopened fault | .opened _ (some fault) => .error fault
  | .opened _ none => .ok ()

end Written

class FileSystem (σ : Type) where
  isFile : σ → Path → Except FileFault Bool
  read : σ → Path → Except FileFault Bytes
  write : σ → Path → Bytes → Written σ
  print : σ → Text → Except StreamFault Unit
  modified? : σ → Path → Option Time

instance [FileSystem σ] : FileAccess (StateM σ) where
  isFile path := return FileSystem.isFile (← get) path
  read path := return FileSystem.read (← get) path
  write path content := do
    let written := FileSystem.write (← get) path content
    modify written.after
    return written.outcome
  print text := return FileSystem.print (← get) text
  modified? path := return FileSystem.modified? (← get) path

namespace FileSystem

variable [FileSystem σ] (files : σ) (path : Path)

@[simp] theorem run_isFile :
    (FileAccess.isFile path : StateM σ _).run files = pure (isFile files path, files) := rfl

@[simp] theorem run_read :
    (FileAccess.read path : StateM σ _).run files = pure (read files path, files) := rfl

@[simp] theorem run_write (content : Bytes) :
    (FileAccess.write path content : StateM σ _).run files =
      pure ((write files path content).outcome, (write files path content).after files) := rfl

@[simp] theorem run_print (text : Text) :
    (FileAccess.print text : StateM σ _).run files = pure (print files text, files) := rfl

@[simp] theorem run_modified? :
    (FileAccess.modified? path : StateM σ _).run files = pure (modified? files path, files) := rfl

end FileSystem

end LispLex
