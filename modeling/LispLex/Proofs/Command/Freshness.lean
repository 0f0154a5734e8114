-- SUMMARY: Which looks of a watch tokenize its input, and the one start time that makes it miss a file.
import LispLex.File.Tree
import LispLex.Proofs.Command.Launch
import LispLex.Proofs.Command.Looks

/-!
# What a watch misses

A watch by its looks, for any options, as far as it goes. The input is tokenized at exactly the looks
that find it at another time than the one seen last. So after every look there has been an attempt
since the time last changed, with one exception: an input whose time has been `watchStart` from the
first look on is taken for one already seen.
-/

namespace LispLex

variable {σ : Type} [FileSystem σ] {options : Options} {files : σ} {seen : Time}

namespace Options

/-! ## Since the time last changed -/

/-- The time at which the input was found last, if it is not `start`, is one at which it was found. -/
theorem mem_times_of_lastSeen_ne {start : Time} {looks : List (Look σ)}
    (h : options.lastSeen start looks ≠ start) :
    options.lastSeen start looks ∈ looks.filterMap options.time? := by
  unfold lastSeen at h ⊢
  cases hlast : (looks.filterMap options.time?).getLast? with
  | none =>
    rw [hlast] at h
    exact absurd rfl h
  | some now => exact List.mem_of_getLast? hlast

/-- The looks have tokenized the input since its time last changed: there is an attempt among them,
and none after it has found the input at another time. -/
def IsFresh (options : Options) (looks : List (Look σ)) : Prop :=
  ∃ before attempt after, looks = before ++ attempt :: after ∧ attempt.Attempts options ∧
    ∀ look ∈ after, ∀ now, options.time? look = some now → options.time? attempt = some now

theorem isFresh_concat_of_attempts {looks : List (Look σ)} {look : Look σ}
    (h : look.Attempts options) : options.IsFresh (looks ++ [look]) :=
  ⟨looks, look, [], rfl, h, by simp⟩

theorem IsFresh.of_concat {looks : List (Look σ)} {look : Look σ}
    (h : options.IsFresh (looks ++ [look])) (hidle : ¬ look.Attempts options) :
    options.IsFresh looks := by
  obtain ⟨before, attempt, after, hlooks, hattempts, hsame⟩ := h
  rcases List.eq_nil_or_concat' after with rfl | ⟨between, last, rfl⟩
  · obtain ⟨-, hlast⟩ := List.append_inj' hlooks rfl
    cases hlast
    exact absurd hattempts hidle
  · rw [← List.cons_append, ← List.append_assoc] at hlooks
    obtain ⟨rfl, -⟩ := List.append_inj' hlooks rfl
    exact ⟨before, attempt, between, rfl, hattempts,
      fun other hother => hsame other (List.mem_append_left _ hother)⟩

/-- If the times after an attempt are the one of the attempt, then that is the time seen last. -/
theorem lastSeen_of_same {start now : Time} {before after : List (Look σ)} {attempt : Look σ}
    (htime : options.time? attempt = some now)
    (hsame : ∀ look ∈ after, ∀ other, options.time? look = some other → other = now) :
    options.lastSeen start (before ++ attempt :: after) = now := by
  have hall : ∀ other ∈ now :: after.filterMap options.time?, other = now := by
    intro other hother
    rcases List.mem_cons.1 hother with rfl | hmem
    · rfl
    · obtain ⟨look, hlook, hother⟩ := List.mem_filterMap.1 hmem
      exact hsame look hlook other hother
  rw [lastSeen, List.filterMap_append, List.filterMap_cons_some htime,
    List.getLast?_append_of_ne_nil _ (List.cons_ne_nil _ _)]
  cases hlast : (now :: after.filterMap options.time?).getLast? with
  | none => rw [List.getLast?_eq_none_iff] at hlast; cases hlast
  | some last => exact hall last (List.mem_of_getLast? hlast)

theorem GoesBy.left {start : Time} {looks more : List (Look σ)}
    (h : options.GoesBy start (looks ++ more)) : options.GoesBy start looks := by
  rintro earlier look later rfl
  exact h earlier look (later ++ more) (by simp)

theorem GoesBy.attempts_iff {start : Time} {looks earlier later : List (Look σ)} {look : Look σ}
    (h : options.GoesBy start looks) (hlooks : looks = earlier ++ look :: later) :
    look.Attempts options ↔
      ∃ now, options.time? look = some now ∧ now ≠ options.lastSeen start earlier := by
  rw [h earlier look later hlooks]
  exact attempts_lookAt_iff

/-- A look without an attempt finds the input at the time seen last or not at all. -/
theorem GoesBy.time_of_idle {start : Time} {looks : List (Look σ)} {look : Look σ}
    (h : options.GoesBy start (looks ++ [look])) (hidle : ¬ look.Attempts options) :
    ∀ now, options.time? look = some now → now = options.lastSeen start looks := by
  intro now htime
  by_contra hchanged
  exact hidle ((h.attempts_iff rfl).2 ⟨now, htime, hchanged⟩)

theorem GoesBy.isFresh_concat_of_idle {start : Time} {looks : List (Look σ)} {look : Look σ}
    (h : options.GoesBy start (looks ++ [look])) (hidle : ¬ look.Attempts options)
    (hfresh : options.IsFresh looks) : options.IsFresh (looks ++ [look]) := by
  have hsame := h.time_of_idle hidle
  obtain ⟨before, attempt, after, rfl, hattempted, hafter⟩ := hfresh
  obtain ⟨time, htime, -⟩ := (h.left.attempts_iff rfl).1 hattempted
  have hlast : options.lastSeen start (before ++ attempt :: after) = time := by
    refine lastSeen_of_same htime fun other hother found hfound => ?_
    exact Option.some.inj ((hafter other hother found hfound).symm.trans htime)
  refine ⟨before, attempt, after ++ [look], by simp, hattempted, ?_⟩
  intro other hother found hfound
  rcases List.mem_append.1 hother with hmem | hmem
  · exact hafter other hmem found hfound
  · obtain rfl := List.mem_singleton.1 hmem
    rw [htime, hsame found hfound, hlast]

/-- The looks have tokenized the input since its time last changed exactly if they have found it at
another time than the one the watch starts from. -/
theorem GoesBy.isFresh_iff {start : Time} {looks : List (Look σ)}
    (h : options.GoesBy start looks) :
    options.IsFresh looks ↔ ∃ now ∈ looks.filterMap options.time?, now ≠ start := by
  induction looks using List.reverseRecOn with
  | nil =>
    refine iff_of_false ?_ (by simp)
    rintro ⟨before, attempt, after, hlooks, -⟩
    simp at hlooks
  | append_singleton looks look ih =>
    have ih := ih h.left
    rw [List.filterMap_append]
    by_cases hattempt : look.Attempts options
    · refine iff_of_true (isFresh_concat_of_attempts hattempt) ?_
      obtain ⟨now, htime, hchanged⟩ := (h.attempts_iff rfl).1 hattempt
      by_cases hstart : now = start
      · -- the time has come back to `start`, so another one was seen before
        subst hstart
        exact ⟨_, List.mem_append_left _ (mem_times_of_lastSeen_ne (Ne.symm hchanged)),
          Ne.symm hchanged⟩
      · exact ⟨now, List.mem_append_right _ (by simp [htime]), hstart⟩
    · constructor
      · intro hfresh
        obtain ⟨now, hnow, hstart⟩ := ih.1 (hfresh.of_concat hattempt)
        exact ⟨now, List.mem_append_left _ hnow, hstart⟩
      · rintro ⟨now, hnow, hstart⟩
        refine h.isFresh_concat_of_idle hattempt (ih.2 ?_)
        rcases List.mem_append.1 hnow with hmem | hlast
        · exact ⟨now, hmem, hstart⟩
        · have htime : options.time? look = some now := by simpa using hlast
          obtain rfl := h.time_of_idle hattempt now htime
          exact ⟨_, mem_times_of_lastSeen_ne hstart, hstart⟩

/-- What holds of a look behind some others. -/
structure Current (options : Options) (earlier : List (Look σ)) (look : Look σ) : Prop where
  attempts_iff : look.Attempts options ↔ options.IsDue earlier look
  idle : ¬ options.IsDue earlier look → look.Idle
  /-- A change of the time is followed by an attempt at once. -/
  change_attempted : ∀ previous now, (earlier.filterMap options.time?).getLast? = some previous →
    options.time? look = some now → now ≠ previous → look.Attempts options
  /-- Only an input that was never found at another time than `watchStart` is not tokenized. -/
  isFresh_iff : options.IsFresh (earlier ++ [look]) ↔
    ∃ now ∈ (earlier ++ [look]).filterMap options.time?, now ≠ watchStart

theorem GoesBy.current {looks earlier later : List (Look σ)} {look : Look σ}
    (h : options.GoesBy watchStart looks) (hlooks : looks = earlier ++ look :: later) :
    options.Current earlier look where
  attempts_iff := h.attempts_iff hlooks
  idle := by
    intro hdue
    have hlook := h earlier look later hlooks
    obtain ⟨-, hidle⟩ | ⟨now, hnow, hchanged, -⟩ :=
      options.lookAt_cases (options.lastSeen watchStart earlier) look.before
    · rwa [hlook]
    · exact absurd ⟨now, hnow, hchanged⟩ hdue
  change_attempted := by
    intro previous now hprevious hnow hchanged
    refine (h.attempts_iff hlooks).2 ⟨now, hnow, ?_⟩
    rwa [lastSeen, hprevious, Option.getD_some]
  isFresh_iff := by
    rw [hlooks, List.append_cons] at h
    exact h.left.isFresh_iff

/-- A watch through some changes, by what its looks print and leave. It meets the changes one after
the other, all of them unless the last look fails with what the watch does not handle. -/
def StaysCurrent (options : Options) (files : σ) (changes : List (StateM σ Unit))
    (polls : List (Poll × σ)) : Prop :=
  ∃ first later met unmet,
    polls = (first.announcing options.watchNotice).seen :: later.map Look.seen ∧
    changes = met ++ unmet ∧ Look.Linked files met (first :: later) ∧
    (unmet = [] ∨ ∃ look, (first :: later).getLast? = some look ∧ look.poll.escape.isSome) ∧
    ∀ earlier look rest, first :: later = earlier ++ look :: rest → options.Current earlier look

/-- After every look of a watch the input has been tokenized since its time last changed, unless it has
been at `watchStart` since the first look that found it. -/
theorem watchThrough_staysCurrent (options : Options) (files : σ) (changes : List (StateM σ Unit)) :
    options.StaysCurrent files changes
      ((options.watchThrough get changes : StateM σ _).run files).1 := by
  obtain ⟨first, later, met, unmet, hpolls, hchanges, hlinked, hend, hgoesBy⟩ :=
    options.watchThrough_looks files changes
  exact ⟨first, later, met, unmet, hpolls, hchanges, hlinked, hend, fun _ _ _ => hgoesBy.current⟩

/-- An input from the start of time is there and can be read, but no look tokenizes it. -/
theorem watchThrough_at_watchStart :
    let files := ((FileTree.empty 0).store ["p.lisp".toList]
      (.file (encodeUtf8 "(a)".toList))).setModified ["p.lisp".toList] watchStart
    ∃ options bytes,
      (∀ bundling,
        (launch bundling ["p.lisp".toList, "--watch".toList] : StateM FileTree Launch).run files =
          (.watching options, files)) ∧
      FileSystem.read files options.input = .ok bytes ∧
      FileSystem.modified? files options.input = some watchStart ∧
      ((options.watchThrough get [] : StateM FileTree _).run files).1 =
        [(⟨[], [options.watchNotice], none⟩, files)] ∧
      ¬ options.IsFresh [⟨files, .quiet, files⟩] := by
  intro files
  let options : Options :=
    { input := .ofText "p.lisp".toList, output := none, format := .plain, lexer := {}, watch := true,
      debug := false, verbose := false }
  have accepted (bundling : Bundling) :
      Arguments.ofTexts bundling ["p.lisp".toList, "--watch".toList] =
        .ok { input := "p.lisp".toList, watch := true } := by
    cases bundling <;> decide +kernel
  have look : FileSystem.isFile files
      ({ input := "p.lisp".toList, watch := true } : Arguments).configPath = .ok false := by
    decide +kernel
  have modified : FileSystem.modified? files options.input = some watchStart := by decide +kernel
  have quiet : options.lookAt watchStart files = ⟨files, .quiet, files⟩ := by
    rw [lookAt, poll_of_unchanged fun now hnow => Option.some.inj (hnow.symm.trans modified)]
  have launched (bundling : Bundling) :
      Launched bundling ["p.lisp".toList, "--watch".toList] files (.watching options) files :=
    .watching (accepted bundling) ⟨[], .missing look, rfl⟩ rfl
  refine ⟨options, encodeUtf8 "(a)".toList, fun bundling => (launched bundling).launch_eq,
    by decide +kernel, modified, ?_, ?_⟩
  · have hrun := options.watchFrom_run watchStart files []
    rw [looksFrom, quiet] at hrun
    exact watchThrough_of_watchFrom hrun
  · rintro ⟨before, attempt, after, hlooks, hattempts, -⟩
    have hmem : attempt ∈ [(⟨files, .quiet, files⟩ : Look FileTree)] := by simp [hlooks]
    obtain rfl := List.mem_singleton.1 hmem
    exact retokenize_not_quiet hattempts rfl

end Options

end LispLex
