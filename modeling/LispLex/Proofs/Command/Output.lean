-- SUMMARY: All-or-nothing delivery of the rendered listing to standard output or the output file.
import LispLex.Proofs.Command.Ending
import LispLex.Proofs.File.Frame
import LispLex.Proofs.Listing.Structured

/-!
# What the command delivers

All or nothing: a command that returns 0 has brought the whole listing to one place, the output file
or standard output, and has left everything else alone; one that returns another number has printed
nothing and touched no file. Only a fault at that place itself, once it is open, can leave a part of
the listing there. The listing on standard error comes with the tokens of the whole input too.
-/

namespace LispLex

variable {σ : Type} [FileSystem σ] {files after : σ} {text stdout : Text} {output : Option Path}
  {input : Path} {tokens : List Token}

/-! ## Renderings -/

/-- The line says where the token starts, of which kind it is, and its value if the kind carries one. -/
def Token.ShownBy (token : Token) (line : Text) : Prop :=
  ∃ span, token.span = some span ∧
    line = decimal span.start.line ++ ':' :: (decimal span.start.column ++
      ' ' :: (token.kind.name.toList ++ token.kind.shownTail token.value))

/-- The text renders all of the tokens and nothing else: by a line for each of them, or by an array of
objects that describe them one by one. -/
def Format.Renders (format : Format) (tokens : List Token) (text : Text) : Prop :=
  match format with
  | .plain => text = plainListing tokens ∧ List.Forall₂ Token.ShownBy tokens (bareLines text)
  | .structured => text = structuredListing tokens ∧
      ∃ items, Json.read? text = some (.array items, ['\n']) ∧ List.Forall₂ Json.Describes items tokens

theorem Format.renders_list {lexer : Lexer} {source : Text} (format : Format)
    (h : lexer.run source = .ok tokens) : format.Renders tokens (format.list tokens) := by
  cases format with
  | plain =>
    have hcomplete := Lexer.isComplete_of_run h
    refine ⟨rfl, ?_⟩
    rw [list, bareLines_plainListing hcomplete, List.forall₂_map_right_iff]
    refine List.forall₂_same.2 fun token hmem => ?_
    obtain ⟨span, hspan⟩ := hcomplete token hmem
    exact ⟨span, hspan.span_eq, hspan.line_eq⟩
  | structured => exact ⟨rfl, _, read?_structuredListing tokens, Lexer.describes_of_run h⟩

theorem Options.Tokenizes.renders {options : Options} (h : options.Tokenizes files tokens)
    (format : Format) : format.Renders tokens (format.list tokens) := by
  obtain ⟨source, -, hrun⟩ := h
  exact format.renders_list hrun

/-! ## One place -/

section

variable [LawfulFileSystem σ]

open LawfulFileSystem

/-- A text went to one place only: it is printed if there is no output file, else that file holds it
and nothing is printed. All other files, and among them the input, hold what they held. -/
inductive Delivered (output : Option Path) (input : Path) (files : σ) (text : Text) :
    Text → σ → Prop where
  | printed (printed : output = none) : Delivered output input files text text files
  | written {path : Path} {file : File σ} {after : σ} (written : output = some path)
    (leads : file? files path = some file) (holds : holds? after file = some (encodeUtf8 text))
    (reads : FileSystem.read after path = .ok (encodeUtf8 text))
    (others : ∀ other, other ≠ file → holds? after other = holds? files other)
    (input_kept : file? files input ≠ some file →
      FileSystem.read after input = FileSystem.read files input) :
    Delivered output input files text [] after

/-- A text went to one place only, but stopped on the way: standard output failed, or the output file
after it was opened, and has a first part of the text. All other files hold what they held. -/
inductive BrokenOff (output : Option Path) (files : σ) (text : Text) : Text → σ → Prop where
  | printed {cause : FileCause} {taken : Nat} (printed : output = none)
    (print : FileSystem.print files text = .error (.broken cause taken)) :
    BrokenOff output files text (text.take taken) files
  | written {path : Path} {file : File σ} {part : Bytes} {fault : FileFault} {after : σ}
    (written : output = some path)
    (write : FileSystem.write files path (encodeUtf8 text) = .opened after (some fault))
    (leads : file? files path = some file) (holds : holds? after file = some part)
    (isPart : part <+: encodeUtf8 text)
    (others : ∀ other, other ≠ file → holds? after other = holds? files other) :
    BrokenOff output files text [] after

namespace Options

variable {options : Options}

theorem Delivers.delivered {bytes : Bytes} (h : options.Delivers files text ⟨stdout, none⟩ after)
    (hinput : FileSystem.read files options.input = .ok bytes) :
    Delivered options.output options.input files text stdout after := by
  cases h with
  | printed output => exact .printed output
  | written output write =>
    obtain ⟨file, part, hleads, -, hwhole, hholds, hreads, hothers⟩ := holds_of_write write
    obtain rfl := hwhole rfl
    refine .written output hleads hholds hreads hothers fun helsewhere => ?_
    rw [hinput]
    exact read_elsewhere write (by rwa [hleads]) hinput

/-- A delivery that fails has done nothing, unless it was broken off. -/
theorem Delivers.nothing_or_brokenOff {fault : DeliveryFault}
    (h : options.Delivers files text ⟨stdout, some fault⟩ after) :
    stdout = [] ∧ after = files ∨ BrokenOff options.output files text stdout after := by
  cases h with
  | @unprinted fault output print =>
    cases fault with
    | unencodable reason => exact .inl ⟨rfl, rfl⟩
    | broken cause taken => exact .inr (.printed output print)
  | brokenOff output write =>
    obtain ⟨file, part, hleads, hpart, -, hholds, -, hothers⟩ := holds_of_write write
    exact .inr (.written output write hleads hholds hpart hothers)
  | unopened => exact .inl ⟨rfl, rfl⟩

end Options

end

/-! ## Single runs -/

namespace Options

variable {options : Options} {result : Result}

/-- A run delivers the listing of the whole input if it returns 0. -/
theorem RunsOnce.delivered [LawfulFileSystem σ] (h : options.RunsOnce files result after)
    (hending : result.ending = .returns 0) :
    ∃ tokens text, options.Tokenizes files tokens ∧ options.format.Renders tokens text ∧
      Delivered options.output options.input files text result.stdout after := by
  cases h with
  | unreadable | faulty | invalid => cases hending
  | @listed tokens delivery after tokenizes delivers =>
    obtain ⟨stdout, _ | fault⟩ := delivery
    · obtain ⟨source, ⟨bytes, text, hread, -⟩, -⟩ := id tokenizes
      exact ⟨tokens, _, tokenizes, tokenizes.renders _, delivers.delivered hread⟩
    · cases hending

theorem RunsOnce.not_leaves {code : Nat} (h : options.RunsOnce files result after) :
    result.ending ≠ .leaves code := by
  rintro hending
  cases h with
  | unreadable | faulty | invalid => cases hending
  | @listed tokens delivery after tokenizes delivers =>
    obtain ⟨stdout, _ | fault⟩ := delivery <;> cases hending

/-- If it returns another number it prints nothing and leaves the files alone. -/
theorem RunsOnce.nothing {code : Nat} (h : options.RunsOnce files result after)
    (hending : result.ending = .returns code) (hcode : code ≠ 0) :
    result.stdout = [] ∧ after = files := by
  cases h with
  | unreadable | faulty => exact ⟨rfl, rfl⟩
  | invalid => cases hending
  | listed => exact absurd (Delivery.eq_zero_of_returns hending) hcode

/-- If it does not return, it has done nothing either, unless the delivery was broken off. -/
theorem RunsOnce.nothing_or_brokenOff [LawfulFileSystem σ] {escape : Escape}
    (h : options.RunsOnce files result after) (hending : result.ending = .escapes escape) :
    result.stdout = [] ∧ after = files ∨
      ∃ tokens text, options.Tokenizes files tokens ∧ options.format.Renders tokens text ∧
        BrokenOff options.output files text result.stdout after := by
  cases h with
  | unreadable | faulty | invalid => exact .inl ⟨rfl, rfl⟩
  | @listed tokens delivery after tokenizes delivers =>
    obtain ⟨stdout, _ | fault⟩ := delivery
    · cases hending
    · exact delivers.nothing_or_brokenOff.imp_right fun hbroken =>
        ⟨tokens, _, tokenizes, tokenizes.renders _, hbroken⟩

end Options

/-! ## Listings on standard error -/

/-- The tokens that a notice lists. -/
def Notice.listing? : Notice → Option (List Token)
  | .listing tokens => some tokens
  | _ => none

namespace Options

variable {options : Options} {result : Result}

@[simp] theorem listings_logs (options : Options) (outcome : Outcome) :
    (options.logs outcome).filterMap Notice.listing? = [] := by
  unfold logs
  split <;> simp [Notice.listing?]

@[simp] theorem listings_faultNotices (options : Options) (report : Report) :
    (options.faultNotices report).filterMap Notice.listing? = [] := by
  unfold faultNotices faultLog
  split <;> rfl

@[simp] theorem listings_tokensNotices (options : Options) (tokens : List Token) :
    (options.tokensNotices tokens).filterMap Notice.listing? =
      if options.debug then [tokens] else [] := by
  rw [tokensNotices, List.filterMap_append, listings_logs]
  split <;> rfl

theorem RunsOnce.unlisted (h : options.RunsOnce files result after)
    (untokenized : ∀ tokens, ¬ options.Tokenizes files tokens) :
    result.stderr.filterMap Notice.listing? = [] := by
  cases h with
  | unreadable => rfl
  | faulty | invalid => simp
  | listed tokenizes => exact absurd tokenizes (untokenized _)

/-- The text of the notices about tokens ends with their listing, if it is asked for. -/
theorem exists_text_of_tokens (options : Options) (tokens : List Token) :
    ∃ logged, (options.tokensNotices tokens).flatMap Notice.text =
        logged ++ (if options.debug then plainListing tokens else []) ∧
      (options.verbose = false → logged = []) := by
  refine ⟨(options.logs (.ok tokens)).flatMap Notice.text, ?_, fun hverbose => ?_⟩
  · rw [tokensNotices, List.flatMap_append]
    split
    · rw [List.flatMap_singleton, Notice.text]
    · rfl
  · rw [logs_of_not_verbose hverbose, List.flatMap_nil]

end Options

/-! ## The command -/

/-- What a command line that comes to `result` has done to the files, and what it has listed. -/
structure AllOrNothing [LawfulFileSystem σ] (bundling : Bundling) (words : List Text) (files : σ)
    (result : Result) (after : σ) : Prop where
  nothing : ∀ code ≠ 0, result.ending = .returns code → result.stdout = [] ∧ after = files
  all : result.ending = .returns 0 →
    ∃ arguments options tokens text, Arguments.ofTexts bundling words = .ok arguments ∧
      arguments.Listed files options tokens ∧ options.format.Renders tokens text ∧
      Delivered ((arguments.output.filter (· ≠ [])).map .ofText) (.ofText arguments.input) files
        text result.stdout after
  /-- The command line is not taken, or asks for help. -/
  early : ∀ code, result.ending = .leaves code →
    after = files ∧ (result.stdout = [] ∨ Arguments.ofTexts bundling words = .error .help)
  /-- Only a fault at the place of the listing leaves anything there. -/
  escaped : ∀ escape, result.ending = .escapes escape →
    result.stdout = [] ∧ after = files ∨
      ∃ arguments options tokens text, Arguments.ofTexts bundling words = .ok arguments ∧
        arguments.Listed files options tokens ∧ options.format.Renders tokens text ∧
        BrokenOff ((arguments.output.filter (· ≠ [])).map .ofText) files text result.stdout after
  listed : ∀ arguments options tokens, Arguments.ofTexts bundling words = .ok arguments →
    arguments.Listed files options tokens →
    result.stderr.filterMap Notice.listing? = (if arguments.debug then [tokens] else []) ∧
    ∃ logged listing, result.stderr.flatMap Notice.text =
        logged ++ (if arguments.debug then listing else []) ∧
      Format.plain.Renders tokens listing ∧ (arguments.verbose = false → logged = [])
  unlisted :
    (∀ arguments options tokens, Arguments.ofTexts bundling words = .ok arguments →
      ¬ arguments.Listed files options tokens) →
    result.stderr.filterMap Notice.listing? = []

/-- Help ends the program, or standard output cannot take it and nothing is printed. -/
theorem helpResult_ofPrint (files : σ) (text : Text) :
    (helpResult (.ofPrint files text)).ending = .leaves 0 ∨
      (helpResult (.ofPrint files text)).stdout = [] ∧
        ∃ escape, (helpResult (.ofPrint files text)).ending = .escapes escape := by
  unfold Delivery.ofPrint
  cases FileSystem.print files text with
  | ok => exact .inl rfl
  | error fault =>
    cases fault with
    | unencodable reason => exact .inr ⟨rfl, _, rfl⟩
    | broken cause taken => exact .inl rfl

theorem helpResult_not_returns (files : σ) (text : Text) {code : Nat} :
    (helpResult (.ofPrint files text)).ending ≠ .returns code := by
  intro hending
  obtain hleaves | ⟨-, escape, hescapes⟩ := helpResult_ofPrint files text
  · cases hleaves.symm.trans hending
  · cases hescapes.symm.trans hending

theorem stderr_helpResult (delivery : Delivery) : (helpResult delivery).stderr = [] := by
  unfold helpResult
  split <;> rfl

namespace Launched

variable {bundling : Bundling} {words : List Text} {result : Result}

theorem nothing {code : Nat} (h : Launched bundling words files (.finished result) after)
    (hending : result.ending = .returns code) (hcode : code ≠ 0) :
    result.stdout = [] ∧ after = files := by
  cases h with
  | help => exact absurd hending (helpResult_not_returns files helpText)
  | misuse | noConfig | refused => exact ⟨rfl, rfl⟩
  | once _ _ _ runs => exact runs.nothing hending hcode

theorem delivered [LawfulFileSystem σ] (h : Launched bundling words files (.finished result) after)
    (hending : result.ending = .returns 0) :
    ∃ arguments options tokens text, Arguments.ofTexts bundling words = .ok arguments ∧
      arguments.Listed files options tokens ∧ options.format.Renders tokens text ∧
      Delivered ((arguments.output.filter (· ≠ [])).map .ofText) (.ofText arguments.input) files
        text result.stdout after := by
  cases h with
  | help => exact absurd hending (helpResult_not_returns files helpText)
  | misuse | noConfig | refused => cases hending
  | once accepted gives _ runs =>
    obtain ⟨tokens, text, htokens, hrenders, hdelivered⟩ := runs.delivered hending
    have hmade := gives.madeFrom
    rw [hmade.output_eq, hmade.input_eq] at hdelivered
    exact ⟨_, _, tokens, text, accepted, ⟨gives, htokens⟩, hrenders, hdelivered⟩

theorem early {code : Nat} (h : Launched bundling words files (.finished result) after)
    (hending : result.ending = .leaves code) :
    after = files ∧ (result.stdout = [] ∨ Arguments.ofTexts bundling words = .error .help) := by
  cases h with
  | help early => exact ⟨rfl, .inr early⟩
  | misuse | noConfig | refused => exact ⟨rfl, .inl rfl⟩
  | once _ _ _ runs => cases runs.not_leaves hending

theorem escaped [LawfulFileSystem σ] {escape : Escape}
    (h : Launched bundling words files (.finished result) after)
    (hending : result.ending = .escapes escape) :
    result.stdout = [] ∧ after = files ∨
      ∃ arguments options tokens text, Arguments.ofTexts bundling words = .ok arguments ∧
        arguments.Listed files options tokens ∧ options.format.Renders tokens text ∧
        BrokenOff ((arguments.output.filter (· ≠ [])).map .ofText) files text result.stdout after := by
  cases h with
  | help =>
    obtain hleaves | ⟨hnothing, -⟩ := helpResult_ofPrint files helpText
    · cases hleaves.symm.trans hending
    · exact .inl ⟨hnothing, rfl⟩
  | misuse | noConfig | refused => exact .inl ⟨rfl, rfl⟩
  | once accepted gives _ runs =>
    refine (runs.nothing_or_brokenOff hending).imp_right ?_
    rintro ⟨tokens, text, htokens, hrenders, hbroken⟩
    rw [gives.madeFrom.output_eq] at hbroken
    exact ⟨_, _, tokens, text, accepted, ⟨gives, htokens⟩, hrenders, hbroken⟩

/-- The notices of a run with tokens do not depend on what becomes of the listing. -/
theorem stderr_of_listed {arguments : Arguments} {options : Options}
    (h : Launched bundling words files (.finished result) after)
    (accepted : Arguments.ofTexts bundling words = .ok arguments) (unwatched : arguments.watch = false)
    (listed : arguments.Listed files options tokens) :
    result.stderr = options.tokensNotices tokens := by
  obtain ⟨gives, htokens⟩ := listed
  obtain ⟨delivery, left, hdelivers⟩ := options.exists_delivers files (options.format.list tokens)
  have hwatch := gives.madeFrom.watch_eq.trans unwatched
  cases (h.unique (.once accepted gives hwatch (.listed htokens hdelivers))).1
  rfl

theorem unlisted (h : Launched bundling words files (.finished result) after)
    (untokenized : ∀ arguments options tokens, Arguments.ofTexts bundling words = .ok arguments →
      ¬ arguments.Listed files options tokens) :
    result.stderr.filterMap Notice.listing? = [] := by
  cases h with
  | help => rw [stderr_helpResult, List.filterMap_nil]
  | misuse | noConfig | refused => rfl
  | once accepted gives _ runs =>
    exact runs.unlisted fun tokens htokens => untokenized _ _ tokens accepted ⟨gives, htokens⟩

end Launched

/-- Without a watch a launch ends in a result. -/
theorem exists_launched_finished {bundling : Bundling} {words : List Text} (files : σ)
    (unwatched : ∀ arguments, Arguments.ofTexts bundling words = .ok arguments →
      arguments.watch = false) :
    ∃ result after, Launched bundling words files (.finished result) after := by
  obtain ⟨outcome, after, hlaunched⟩ := exists_launched bundling words files
  cases outcome with
  | finished result => exact ⟨result, after, hlaunched⟩
  | watching options =>
    cases hlaunched with
    | watching accepted gives watch =>
      cases watch.symm.trans (gives.madeFrom.watch_eq.trans (unwatched _ accepted))

/-- Without a watch the command delivers all of the listing or nothing. -/
theorem launch_allOrNothing [LawfulFileSystem σ] {bundling : Bundling} {words : List Text} (files : σ)
    (unwatched : ∀ arguments, Arguments.ofTexts bundling words = .ok arguments →
      arguments.watch = false) :
    ∃ result after, (launch bundling words : StateM σ Launch).run files = (.finished result, after) ∧
      AllOrNothing bundling words files result after := by
  obtain ⟨result, after, hlaunched⟩ := exists_launched_finished files unwatched
  refine ⟨result, after, hlaunched.launch_eq, ?_⟩
  constructor
  case nothing => exact fun code hcode hending => hlaunched.nothing hending hcode
  case all => exact hlaunched.delivered
  case early => exact fun code => hlaunched.early
  case escaped => exact fun escape => hlaunched.escaped
  case unlisted => exact hlaunched.unlisted
  case listed =>
    intro arguments options tokens accepted listed
    have hmade := listed.1.madeFrom
    obtain ⟨logged, htext, hquiet⟩ := options.exists_text_of_tokens tokens
    rw [hlaunched.stderr_of_listed accepted (unwatched _ accepted) listed, ← hmade.debug_eq,
      ← hmade.verbose_eq]
    exact ⟨options.listings_tokensNotices tokens, logged, _, htext, listed.2.renders .plain, hquiet⟩

/-- A disk with room for three bytes only: they are what the command leaves in the output file. -/
example :
    let words := ["p.lisp".toList, "-olist.txt".toList]
    let files := { configuredTree with room := some 3 }
    let launched := (launch .separating words : StateM FileTree Launch).run files
    launched.1.seen? = some ([], [], .escapes (.delivery (.file ⟨.noSpace, none⟩))) ∧
      FileSystem.read launched.2 (.ofText "list.txt".toList) = .ok (encodeUtf8 "1:1".toList) := by
  decide +kernel

/-- The structured listing of the input beside the configuration, with the rules that this sets. -/
def configuredListing : Text :=
  ("[\n  \x7b\n    \"kind\": \"NUM_LITERAL\",\n    \"value\": 7,\n    \"raw\": \"7\",\n" ++
    "    \"line\": 1,\n    \"column\": 1,\n    \"offset\": 0\n  \x7d,\n" ++
    "  \x7b\n    \"kind\": \"NUM_LITERAL\",\n    \"value\": 10,\n    \"raw\": \"10\",\n" ++
    "    \"line\": 1,\n    \"column\": 3,\n    \"offset\": 2\n  \x7d\n]\n").toList

/-- The listing goes to a file in one format and to standard error in the other. -/
theorem launch_allOrNothing_configured :
    let words := ["p.lisp".toList, "--debug".toList, "-olist.json".toList, "-fjson".toList]
    (∀ arguments, Arguments.ofTexts .separating words = .ok arguments → arguments.watch = false) ∧
      ∃ result after,
        (launch .separating words : StateM FileTree Launch).run configuredTree =
          (.finished result, after) ∧
        AllOrNothing .separating words configuredTree result after ∧ result.stdout = [] ∧
        result.stderr.flatMap Notice.text =
          "1:1 NUM_LITERAL 7\n1:3 NUM_LITERAL 10\n".toList ∧
        result.ending = .returns 0 ∧
        FileSystem.read after (.ofText "list.json".toList) =
          .ok (encodeUtf8 configuredListing) := by
  intro words
  have accepted : Arguments.ofTexts .separating words = .ok
      { input := "p.lisp".toList, output := some "list.json".toList,
        format := some .structured, debug := true } := by decide +kernel
  have unwatched (arguments : Arguments) (h : Arguments.ofTexts .separating words = .ok arguments) :
      arguments.watch = false := by
    cases accepted.symm.trans h
    rfl
  obtain ⟨result, after, hlaunch, hall⟩ := launch_allOrNothing configuredTree unwatched
  have hseen : ((launch .separating words : StateM FileTree Launch).run configuredTree).1.seen? =
      some ([], "1:1 NUM_LITERAL 7\n1:3 NUM_LITERAL 10\n".toList, .returns 0) := by
    decide +kernel
  have hread : FileSystem.read
      ((launch .separating words : StateM FileTree Launch).run configuredTree).2
      (.ofText "list.json".toList) = .ok (encodeUtf8 configuredListing) := by
    decide +kernel
  rw [hlaunch] at hseen hread
  simp only [Launch.seen?, Option.some.injEq, Prod.mk.injEq] at hseen
  exact ⟨unwatched, result, after, hlaunch, hall, hseen.1, hseen.2.1, hseen.2.2, hread⟩

end LispLex
