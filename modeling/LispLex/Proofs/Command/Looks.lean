-- SUMMARY: Decomposition of a watch into its looks, with what each look goes by, meets and leaves.
import LispLex.Command.Watch
import LispLex.File.System
import Mathlib.Tactic.Push

/-!
# The looks of a watch

A watch by its looks, for any options, as far as it goes. A look is idle if it finds the input at the
time seen last, or not at all, and otherwise it is an attempt. Each look goes by the times of the looks
before it, and meets the files that the look before it and the change after that have left.
-/

namespace LispLex

/-- One look at the input, with the files before and after it. -/
structure Look (σ : Type) where
  before : σ
  poll : Poll
  after : σ

variable {σ : Type}

namespace Look

/-- What is seen of a look. -/
def seen (look : Look σ) : Poll × σ :=
  (look.poll, look.after)

/-- The look with a notice in front. -/
def announcing (look : Look σ) (notice : Notice) : Look σ :=
  { look with poll := { look.poll with stderr := notice :: look.poll.stderr } }

/-- The looks of a watch: the first at `files`, and each of the others at what the look before it has
left, after the next change. -/
inductive Linked : σ → List (StateM σ Unit) → List (Look σ) → Prop where
  | last (look : Look σ) : Linked look.before [] [look]
  | next (look : Look σ) {change : StateM σ Unit} {changes : List (StateM σ Unit)}
    {later : List (Look σ)} (linked : Linked (change.run look.after).2 changes later) :
    Linked look.before (change :: changes) (look :: later)

/-- The look has tokenized the input. -/
def Attempts [FileSystem σ] (options : Options) (look : Look σ) : Prop :=
  (options.retokenize : StateM σ Poll).run look.before = (look.poll, look.after)

/-- The look has told nothing and done nothing. -/
def Idle (look : Look σ) : Prop :=
  look.poll = .quiet ∧ look.after = look.before

end Look

namespace Options

variable [FileSystem σ] {options : Options} {files after : σ} {seen : Time}

/-! ## Times -/

/-- The time of the input at a look. -/
def time? (options : Options) (look : Look σ) : Option Time :=
  FileSystem.modified? look.before options.input

/-- The time seen last when some looks are over: that of the latest look that found the input, or
`start` if there is none. -/
def lastSeen (options : Options) (start : Time) (earlier : List (Look σ)) : Time :=
  (earlier.filterMap options.time?).getLast?.getD start

theorem lastSeen_cons (look : Look σ) (earlier : List (Look σ)) :
    options.lastSeen seen (look :: earlier) =
      options.lastSeen ((options.time? look).getD seen) earlier := by
  unfold lastSeen
  cases htime : options.time? look with
  | none => rw [List.filterMap_cons_none htime, Option.getD_none]
  | some now =>
    rw [List.filterMap_cons_some htime, List.getLast?_cons, Option.getD_some, Option.getD_some]

/-- The input is to be tokenized: it is there, at another time than the one seen last. -/
def IsDue (options : Options) (earlier : List (Look σ)) (look : Look σ) : Prop :=
  ∃ now, options.time? look = some now ∧ now ≠ options.lastSeen watchStart earlier

/-! ## One look -/

theorem poll_of_unchanged (h : ∀ now ∈ FileSystem.modified? files options.input, now = seen) :
    (options.poll seen : StateM σ (Poll × Time)).run files = ((.quiet, seen), files) := by
  simp only [poll, StateT.run_bind, FileSystem.run_modified?, pure_bind]
  cases hmodified : FileSystem.modified? files options.input with
  | none => rfl
  | some now =>
    obtain rfl := h now hmodified
    simp only [if_true]
    rfl

theorem poll_of_changed {now : Time} (h : FileSystem.modified? files options.input = some now)
    (changed : now ≠ seen) {poll : Poll}
    (hretokenize : (options.retokenize : StateM σ Poll).run files = (poll, after)) :
    (options.poll seen : StateM σ (Poll × Time)).run files = ((poll, now), after) := by
  simp only [Options.poll, StateT.run_bind, FileSystem.run_modified?, pure_bind, h, if_neg changed,
    hretokenize]
  rfl

/-- An attempt always has something to tell: that it succeeded, or what is wrong. -/
theorem retokenize_not_quiet {poll : Poll} {after : σ}
    (h : (options.retokenize : StateM σ Poll).run files = (poll, after)) : poll ≠ .quiet := by
  rintro rfl
  simp only [retokenize, StateT.run_bind, FileSystem.run_read, pure_bind] at h
  generalize options.attempt (FileSystem.read files options.input) = attempt at h
  have hstderr := congrArg (fun outcome : Poll × σ => outcome.1.stderr) h
  obtain ⟨notices, verdict⟩ := attempt
  cases verdict with
  | listed text =>
    simp only [StateT.run_bind] at h hstderr
    generalize (options.deliver text : StateM σ _).run files = delivered at h hstderr
    obtain ⟨⟨stdout, fault⟩, left⟩ := delivered
    rcases fault with _ | ⟨fault⟩ | ⟨reason⟩
    · exact List.concat_ne_nil _ _ hstderr
    · exact List.concat_ne_nil _ _ hstderr
    · cases congrArg (fun outcome : Poll × σ => outcome.1.escape) h
  | unreadable problem => exact List.concat_ne_nil _ _ hstderr
  | faulty report => exact List.concat_ne_nil _ _ hstderr
  | invalid cause => cases congrArg (fun outcome : Poll × σ => outcome.1.escape) h

/-- The look at some files, with `seen` as the time seen last. -/
def lookAt (options : Options) (seen : Time) (files : σ) : Look σ :=
  let ((poll, _), after) := (options.poll seen : StateM σ (Poll × Time)).run files
  ⟨files, poll, after⟩

/-- A look is idle if it finds the input at the time seen last or not at all, and an attempt
otherwise. -/
theorem lookAt_cases (options : Options) (seen : Time) (files : σ) :
    (∀ now ∈ FileSystem.modified? files options.input, now = seen) ∧
        (options.lookAt seen files).Idle ∨
      ∃ now, FileSystem.modified? files options.input = some now ∧ now ≠ seen ∧
        (options.lookAt seen files).Attempts options := by
  by_cases hunchanged : ∀ now ∈ FileSystem.modified? files options.input, now = seen
  · refine .inl ⟨hunchanged, ?_⟩
    rw [lookAt, poll_of_unchanged hunchanged]
    exact ⟨rfl, rfl⟩
  · push Not at hunchanged
    obtain ⟨now, hnow, hchanged⟩ := hunchanged
    refine .inr ⟨now, hnow, hchanged, ?_⟩
    rw [lookAt, poll_of_changed hnow hchanged rfl]
    rfl

theorem attempts_lookAt_iff :
    (options.lookAt seen files).Attempts options ↔
      ∃ now, FileSystem.modified? files options.input = some now ∧ now ≠ seen := by
  obtain ⟨hunchanged, hidle⟩ | ⟨now, hnow, hchanged, hattempts⟩ := options.lookAt_cases seen files
  · refine iff_of_false (fun hattempts => retokenize_not_quiet hattempts hidle.1) ?_
    rintro ⟨now, hnow, hchanged⟩
    exact hchanged (hunchanged now hnow)
  · exact iff_of_true hattempts ⟨now, hnow, hchanged⟩

/-- A look remembers the time at which it finds the input. -/
theorem poll_run (options : Options) (seen : Time) (files : σ) :
    (options.poll seen : StateM σ (Poll × Time)).run files =
      (((options.lookAt seen files).poll, (FileSystem.modified? files options.input).getD seen),
        (options.lookAt seen files).after) := by
  by_cases hunchanged : ∀ now ∈ FileSystem.modified? files options.input, now = seen
  · have hseen : (FileSystem.modified? files options.input).getD seen = seen := by
      cases hmodified : FileSystem.modified? files options.input with
      | none => rfl
      | some now => exact hunchanged now hmodified
    rw [lookAt, poll_of_unchanged hunchanged, hseen]
  · push Not at hunchanged
    obtain ⟨now, hnow, hchanged⟩ := hunchanged
    rw [lookAt, poll_of_changed hnow hchanged rfl, Option.mem_def.1 hnow]
    rfl

/-! ## All looks -/

theorem watchFrom_cons {poll : Poll} {now : Time}
    (h : (options.poll seen : StateM σ _).run files = ((poll, now), after))
    (goesOn : poll.escape = none) (change : StateM σ Unit) (changes : List (StateM σ Unit)) :
    ((options.watchFrom get seen (change :: changes) : StateM σ _).run files).1 =
      (poll, after) ::
        ((options.watchFrom get now changes : StateM σ _).run (change.run after).2).1 := by
  rw [watchFrom, StateT.run_bind, h]
  change (StateT.run (m := Id) (if poll.escape.isSome = true then _ else _) after).1 = _
  rw [goesOn]
  rfl

/-- The looks of a watch from the time `seen` on, through some changes of the files. A look that fails
with what the watch does not handle is the last one. -/
def looksFrom (options : Options) : Time → σ → List (StateM σ Unit) → List (Look σ)
  | seen, files, [] => [options.lookAt seen files]
  | seen, files, change :: changes =>
    let look := options.lookAt seen files
    if look.poll.escape.isSome then [look]
    else
      look :: options.looksFrom ((options.time? look).getD seen) (change.run look.after).2 changes

theorem watchFrom_run (options : Options) (seen : Time) (files : σ)
    (changes : List (StateM σ Unit)) :
    ((options.watchFrom get seen changes : StateM σ _).run files).1 =
      (options.looksFrom seen files changes).map Look.seen := by
  induction changes generalizing seen files with
  | nil =>
    simp only [watchFrom, StateT.run_bind, poll_run]
    rfl
  | cons change changes ih =>
    cases hescape : (options.lookAt seen files).poll.escape with
    | none =>
      rw [watchFrom_cons (options.poll_run seen files) hescape, ih, looksFrom]
      simp only [hescape, Option.isSome_none, Bool.false_eq_true, if_false]
      rfl
    | some escape =>
      rw [watchFrom, StateT.run_bind, poll_run, looksFrom]
      simp only [hescape, Option.isSome_some, if_true]
      change (StateT.run (m := Id) (if _ then _ else _) _).1 = _
      rw [hescape]
      rfl

/-- Each look goes by the time seen last in the looks before it. -/
theorem eq_lookAt_of_looksFrom {changes : List (StateM σ Unit)} {earlier later : List (Look σ)}
    {look : Look σ} (h : options.looksFrom seen files changes = earlier ++ look :: later) :
    look = options.lookAt (options.lastSeen seen earlier) look.before := by
  induction changes generalizing seen files earlier with
  | nil =>
    cases earlier with
    | nil =>
      cases h
      rfl
    | cons first earlier => simp [looksFrom] at h
  | cons change changes ih =>
    rw [looksFrom] at h
    split at h
    · cases earlier with
      | nil =>
        cases h
        rfl
      | cons first earlier => simp at h
    · cases earlier with
      | nil =>
        cases h
        rfl
      | cons first earlier =>
        obtain ⟨rfl, hlater⟩ := List.cons.inj h
        rw [lastSeen_cons]
        exact ih hlater

/-- The looks meet the changes one after the other, all of them unless the last look fails with what
the watch does not handle. -/
theorem linked_looksFrom (options : Options) (seen : Time) (files : σ)
    (changes : List (StateM σ Unit)) :
    ∃ met unmet, changes = met ++ unmet ∧
      Look.Linked files met (options.looksFrom seen files changes) ∧
      (unmet = [] ∨ ∃ look, (options.looksFrom seen files changes).getLast? = some look ∧
        look.poll.escape.isSome) := by
  induction changes generalizing seen files with
  | nil => exact ⟨[], [], rfl, .last (options.lookAt seen files), .inl rfl⟩
  | cons change changes ih =>
    rw [looksFrom]
    split
    · next hescape =>
      exact ⟨[], change :: changes, rfl, .last (options.lookAt seen files),
        .inr ⟨_, rfl, hescape⟩⟩
    · obtain ⟨met, unmet, rfl, hlinked, hend⟩ :=
        ih ((options.time? (options.lookAt seen files)).getD seen)
          (change.run (options.lookAt seen files).after).2
      refine ⟨change :: met, unmet, rfl, .next (options.lookAt seen files) hlinked, ?_⟩
      refine hend.imp_right fun ⟨look, hlast, hescape⟩ => ⟨look, ?_, hescape⟩
      rw [List.getLast?_cons, hlast]
      rfl

theorem watchThrough_of_watchFrom {changes : List (StateM σ Unit)} {first : Look σ}
    {later : List (Poll × σ)}
    (h : ((options.watchFrom get watchStart changes : StateM σ _).run files).1 =
      first.seen :: later) :
    ((options.watchThrough get changes : StateM σ _).run files).1 =
      (first.announcing options.watchNotice).seen :: later := by
  rw [watchThrough, StateT.run_bind]
  generalize (options.watchFrom get watchStart changes : StateM σ _).run files = outcome at h ⊢
  obtain ⟨polls, left⟩ := outcome
  obtain rfl : polls = first.seen :: later := h
  rfl

/-- Each of the looks goes by the time seen last in the looks before it. -/
def GoesBy (options : Options) (start : Time) (looks : List (Look σ)) : Prop :=
  ∀ earlier look later, looks = earlier ++ look :: later →
    look = options.lookAt (options.lastSeen start earlier) look.before

/-- A watch through some changes is told by its looks. It meets the changes one after the other, all of
them unless the last look fails with what the watch does not handle. -/
theorem watchThrough_looks (options : Options) (files : σ) (changes : List (StateM σ Unit)) :
    ∃ first later met unmet,
      ((options.watchThrough get changes : StateM σ _).run files).1 =
        (first.announcing options.watchNotice).seen :: later.map Look.seen ∧
      changes = met ++ unmet ∧ Look.Linked files met (first :: later) ∧
      (unmet = [] ∨ ∃ look, (first :: later).getLast? = some look ∧ look.poll.escape.isSome) ∧
      options.GoesBy watchStart (first :: later) := by
  have hrun := options.watchFrom_run watchStart files changes
  obtain ⟨met, unmet, hchanges, hlinked, hend⟩ := options.linked_looksFrom watchStart files changes
  have hgoesBy : options.GoesBy watchStart (options.looksFrom watchStart files changes) :=
    fun _ _ _ => eq_lookAt_of_looksFrom
  generalize options.looksFrom watchStart files changes = looks at hrun hlinked hend hgoesBy
  obtain ⟨first, later, rfl⟩ : ∃ first later, looks = first :: later := by
    cases hlinked with
    | last | next => exact ⟨_, _, rfl⟩
  exact ⟨first, later, met, unmet, watchThrough_of_watchFrom hrun, hchanges, hlinked, hend, hgoesBy⟩

end Options

end LispLex
