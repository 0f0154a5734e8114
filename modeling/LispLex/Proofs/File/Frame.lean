-- SUMMARY: Laws of file systems about what a write changes and what it leaves alone, and that file trees obey them.
import LispLex.File.Tree

/-!
# What a write leaves alone

A write changes the file that its path leads to, if it can be opened, and no other file. The file then
holds what was written, or a first part of it if the write failed. A file tree obeys these laws. A write
there changes no directory, so every path on which a file was read still leads to that file.
-/

namespace LispLex

/-- A file system whose files hold what was written to them last. -/
class LawfulFileSystem (σ : Type) [FileSystem σ] where
  File : Type
  /-- The file that a path leads to, also one that is still to be made. -/
  file? : σ → Path → Option File
  /-- What a file holds, if it is there. -/
  holds? : σ → File → Option Bytes
  /-- Only the file at the path is made or changed. -/
  holds_of_write {files after : σ} {path : Path} {content : Bytes} {fault : Option FileFault}
    (h : FileSystem.write files path content = .opened after fault) :
    ∃ file part, file? files path = some file ∧ part <+: content ∧ (fault = none → part = content) ∧
      holds? after file = some part ∧ FileSystem.read after path = .ok part ∧
      ∀ other, other ≠ file → holds? after other = holds? files other
  /-- What was read on a path to another file is still read there. -/
  read_elsewhere {files after : σ} {path other : Path} {content held : Bytes}
    {fault : Option FileFault} (h : FileSystem.write files path content = .opened after fault)
    (elsewhere : file? files other ≠ file? files path)
    (hread : FileSystem.read files other = .ok held) :
    FileSystem.read after other = .ok held

namespace FileTree

variable {tree after : FileTree} {names other : List Text} {path : Path}

/-! ## Entries -/

/-- What the names lead to. -/
def nodeAt? (tree : FileTree) (names : List Text) : Option FileNode :=
  (tree.entry? names).map FileEntry.node

/-- Changing the entries with some names leaves all others as they are. -/
theorem lookup_map_at (entries : List (List Text × FileEntry)) (names other : List Text)
    (change : FileEntry → FileEntry) :
    (entries.map fun old => if old.1 = names then (names, change old.2) else old).lookup other =
      if other = names then (entries.lookup other).map change else entries.lookup other := by
  induction entries with
  | nil => simp
  | cons entry entries ih =>
    obtain ⟨key, entry⟩ := entry
    by_cases hother : other = key
    · subst hother
      by_cases hnames : other = names
      · subst hnames
        simp
      · simp [hnames]
    · have hbeq : (other == key) = false := beq_eq_false_iff_ne.2 hother
      by_cases hkey : key = names
      · subst hkey
        simpa [List.lookup_cons, hbeq, hother] using ih
      · simp only [List.map_cons, if_neg hkey, List.lookup_cons, hbeq]
        exact ih

@[simp] theorem nodeAt?_touch (tree : FileTree) (names other : List Text) :
    (tree.touch names).nodeAt? other = tree.nodeAt? other := by
  simp only [nodeAt?, entry?, touch,
    lookup_map_at _ _ _ fun entry => { entry with modified := tree.clock + 1 }]
  split
  · rw [Option.map_map]
    rfl
  · rfl

theorem nodeAt?_put (tree : FileTree) (names other : List Text) (entry : FileEntry) :
    (tree.put names entry).nodeAt? other =
      if other = names then some entry.node else tree.nodeAt? other := by
  unfold put
  split
  · next hknown =>
    simp only [nodeAt?, entry?, lookup_map_at _ _ _ fun _ => entry]
    split
    · next heq =>
      subst heq
      obtain ⟨old, hold⟩ := Option.isSome_iff_exists.1 hknown
      have hlookup : tree.entries.lookup other = some old := hold
      rw [hlookup]
      rfl
    · rfl
  · next hunknown =>
    have hnone : tree.entries.lookup names = none := Option.not_isSome_iff_eq_none.1 hunknown
    simp only [nodeAt?, entry?, List.lookup_append]
    by_cases hother : other = names
    · subst hother
      simp [hnone]
    · have hbeq : (other == names) = false := beq_eq_false_iff_ne.2 hother
      simp [hother, List.lookup_cons, hbeq]

theorem nodeAt?_store (tree : FileTree) (names other : List Text) (node : FileNode) :
    (tree.store names node).nodeAt? other =
      if other = names then some node else tree.nodeAt? other := by
  simp only [store]
  split <;> simp only [nodeAt?_touch, nodeAt?_put]

/-! ## Paths -/

/-- What is a directory stays one. -/
def KeepsDirectories (tree after : FileTree) : Prop :=
  ∀ names, tree.nodeAt? names = some .directory → after.nodeAt? names = some .directory

theorem keepsDirectories_store (h : tree.nodeAt? names ≠ some .directory) (node : FileNode) :
    tree.KeepsDirectories (tree.store names node) := by
  intro other hother
  have hne : other ≠ names := by
    rintro rfl
    exact h hother
  rw [nodeAt?_store, if_neg hne, hother]

theorem directory_of_follow {name : Text} {next : FilePlace}
    (h : tree.follow (.inside names) name = .ok next) : tree.nodeAt? names = some .directory := by
  unfold nodeAt?
  simp only [follow] at h
  split at h
  · cases h
  · cases h
  · assumption

theorem follow_congr (h : tree.nodeAt? names = after.nodeAt? names) (name : Text) :
    tree.follow (.inside names) name = after.follow (.inside names) name := by
  unfold nodeAt? at h
  simp only [follow, h]

/-- Names are followed from directories, or from outside. -/
theorem KeepsDirectories.follow (h : tree.KeepsDirectories after) {place next : FilePlace}
    {name : Text} (hfollow : tree.follow place name = .ok next) :
    after.follow place name = .ok next := by
  cases place with
  | outside => exact hfollow
  | inside names =>
    have hnode := directory_of_follow hfollow
    rw [← follow_congr (hnode.trans (h names hnode).symm), hfollow]

theorem KeepsDirectories.locate (h : tree.KeepsDirectories after) {place : FilePlace}
    (hlocate : tree.locate path = .ok place) : after.locate path = .ok place := by
  unfold FileTree.locate at hlocate ⊢
  split at hlocate
  · cases hlocate
  · next hlength =>
    rw [if_neg hlength]
    generalize (if path.root = .here then FilePlace.inside [] else .outside) = start at hlocate ⊢
    -- along the names of the path, each followed from the place that the ones before lead to
    generalize path.names = names at hlocate ⊢
    induction names generalizing start with
    | nil => exact hlocate
    | cons name names ih =>
      rw [List.foldlM_cons] at hlocate ⊢
      cases hfollow : tree.follow start name with
      | error cause =>
        rw [hfollow] at hlocate
        cases hlocate
      | ok next =>
        rw [hfollow] at hlocate
        rw [h.follow hfollow]
        exact ih next hlocate

/-! ## Reading and writing -/

theorem read_eq_ok_iff {content : Bytes} :
    tree.read path = .ok content ↔
      ∃ names, tree.locate path = .ok (.inside names) ∧
        tree.nodeAt? names = some (.file content) := by
  unfold read find nodeAt?
  cases tree.locate path with
  | error cause => simp [bind, Except.bind]
  | ok place =>
    cases place with
    | outside => simp [bind, Except.bind, pure, Except.pure]
    | inside names =>
      cases hentry : tree.entry? names with
      | none => simp [bind, Except.bind, hentry, throw, throwThe, MonadExceptOf.throw]
      | some entry =>
        cases hnode : entry.node <;>
          simp [bind, Except.bind, hentry, hnode, pure, Except.pure]

theorem isPrefix_fitting (tree : FileTree) (content : Bytes) : tree.fitting content <+: content := by
  unfold fitting
  split
  · exact List.prefix_rfl
  · exact List.take_prefix _ _

/-- A file is opened if a path leads to its place and there is no directory. -/
theorem exists_of_write {content : Bytes} {fault : Option FileFault}
    (h : tree.write path content = .opened after fault) :
    ∃ names, tree.locate path = .ok (.inside names) ∧ tree.nodeAt? names ≠ some .directory ∧
      after = tree.store names (.file (tree.fitting content)) ∧
      (fault = none → tree.fitting content = content) := by
  unfold write at h
  split at h
  · cases h
  · cases h
  · next names hlocate =>
    split at h
    · cases h
    · next hnot =>
      cases h
      exact ⟨names, hlocate, hnot, rfl, fun hnone => by simpa using hnone⟩

/-- The file that a path leads to, given by the names that lead to it. -/
def file? (tree : FileTree) (path : Path) : Option (List Text) :=
  match tree.locate path with
  | .ok (.inside names) => some names
  | _ => none

/-- What the file with the names holds. -/
def holds? (tree : FileTree) (names : List Text) : Option Bytes :=
  match tree.nodeAt? names with
  | some (.file content) => some content
  | _ => none

theorem file?_of_locate (h : tree.locate path = .ok (.inside names)) :
    tree.file? path = some names := by
  rw [file?, h]

theorem holds?_store (tree : FileTree) (names other : List Text) (content : Bytes) :
    (tree.store names (.file content)).holds? other =
      if other = names then some content else tree.holds? other := by
  by_cases hother : other = names <;> simp [holds?, nodeAt?_store, hother]

end FileTree

instance : LawfulFileSystem FileTree where
  File := List Text
  file? := FileTree.file?
  holds? := FileTree.holds?
  holds_of_write {files after path content fault} h := by
    obtain ⟨names, hlocate, hnode, rfl, hwhole⟩ := FileTree.exists_of_write h
    have hkeeps := FileTree.keepsDirectories_store hnode (.file (files.fitting content))
    refine ⟨names, files.fitting content, FileTree.file?_of_locate hlocate,
      files.isPrefix_fitting content, hwhole, ?_, ?_, ?_⟩
    · rw [FileTree.holds?_store, if_pos rfl]
    · refine FileTree.read_eq_ok_iff.2 ⟨names, hkeeps.locate hlocate, ?_⟩
      rw [FileTree.nodeAt?_store, if_pos rfl]
    · intro other hother
      rw [FileTree.holds?_store, if_neg hother]
  read_elsewhere {files after path other content held fault} h elsewhere hread := by
    obtain ⟨names, hlocate, hnode, rfl, -⟩ := FileTree.exists_of_write h
    obtain ⟨others, hother, hheld⟩ := FileTree.read_eq_ok_iff.1 hread
    have hkeeps := FileTree.keepsDirectories_store hnode (.file (files.fitting content))
    have hne : others ≠ names := by
      rintro rfl
      exact elsewhere (by rw [FileTree.file?_of_locate hother, FileTree.file?_of_locate hlocate])
    refine FileTree.read_eq_ok_iff.2 ⟨others, hkeeps.locate hother, ?_⟩
    rw [FileTree.nodeAt?_store, if_neg hne, hheld]

end LispLex
