-- SUMMARY: Structured listings are read back object by object, and tokens are told apart by them.
import LispLex.File.Tree
import LispLex.Proofs.Command.OneRun
import LispLex.Proofs.Json.RoundTrip
import LispLex.Proofs.Listing.Plain
import LispLex.Proofs.Text.Utf8

/-!
# Reading structured listings

A structured listing is a JSON text: an array with one object for each token, which tells all of the
token but where it ends. As the token ends behind its raw text, nothing of it is lost.
-/

namespace LispLex

/-- A token's value as an entry; `null` stands for no value. -/
def Json.ofValue : Option Value → Json
  | none => .null
  | some (.number n) => .number n
  | some (.text content) => .text content

theorem Json.ofValue_injective : Function.Injective ofValue := by
  intro a b h
  cases a with
  | none =>
    cases b with
    | none => rfl
    | some b => cases b <;> cases h
  | some a =>
    cases b with
    | none => cases a <;> cases h
    | some b => cases a <;> cases b <;> cases h <;> rfl

theorem getD_toJson (value : Option Value) :
    (value.map Value.toJson).getD .null = Json.ofValue value := by
  cases value with
  | none => rfl
  | some value => cases value <;> rfl

/-- The object has the entries of a token, no more and no less, and the token goes from where they say
as far as its raw text does. -/
def Json.Describes (object : Json) (token : Token) : Prop :=
  ∃ start : Position, token.span = some ⟨start, start.advance token.raw⟩ ∧ object = .object
    [("kind".toList, .text token.kind.name.toList), ("value".toList, .ofValue token.value),
     ("raw".toList, .text token.raw), ("line".toList, .number start.line),
     ("column".toList, .number start.column), ("offset".toList, .number start.offset)]

theorem describes_entries {token : Token} {start : Position}
    (h : token.span = some ⟨start, start.advance token.raw⟩) :
    Json.Describes (.object token.entries) token := by
  refine ⟨start, h, ?_⟩
  simp [Token.entries, placeEntries, h, getD_toJson]

/-- Only one token is described by an object. -/
theorem rightUnique_describes : Relator.RightUnique Json.Describes := by
  rintro object ⟨kind, value, raw, span⟩ ⟨kind', value', raw', span'⟩
    ⟨start, hspan, hobject⟩ ⟨start', hspan', hobject'⟩
  rw [hobject] at hobject'
  simp only [Json.object.injEq, List.cons.injEq, Prod.mk.injEq, Json.text.injEq, Json.number.injEq,
    Int.ofNat_inj, true_and, and_true] at hobject'
  obtain ⟨hkind, hvalue, hraw, hline, hcolumn, hoffset⟩ := hobject'
  have hstart : start = start' := by
    cases start
    cases start'
    simp_all
  obtain rfl := Kind.name_injective hkind
  obtain rfl := Json.ofValue_injective hvalue
  simp_all

theorem Lexer.describes_of_run {lexer : Lexer} {source : Text} {tokens : List Token}
    (h : lexer.run source = .ok tokens) :
    List.Forall₂ Json.Describes (tokens.map fun token => .object token.entries) tokens := by
  have hends := lexer.run_ends source
  rw [h] at hends
  cases hends with
  | finished cut =>
    refine List.forall₂_map_left_iff.2 (List.forall₂_same.2 fun token hmem => ?_)
    obtain ⟨before, after, -, hspan⟩ := cut.token_place token hmem
    rw [Position.after_append] at hspan
    exact describes_entries hspan

theorem read?_structuredListing (tokens : List Token) :
    Json.read? (structuredListing tokens) =
      some (.array (tokens.map fun token => .object token.entries), ['\n']) := by
  have hfeed : Json.EndsNumber ['\n'] := by decide
  rw [structuredListing, unlines, List.flatMap_singleton, Json.read?_render _ hfeed]

theorem Lexer.eq_of_structuredListing_eq {lexer other : Lexer} {source otherSource : Text}
    {tokens others : List Token} (h : lexer.run source = .ok tokens)
    (hother : other.run otherSource = .ok others)
    (heq : structuredListing tokens = structuredListing others) : tokens = others := by
  have hdescribes := describes_of_run h
  have hread := congrArg Json.read? heq
  rw [read?_structuredListing, read?_structuredListing] at hread
  simp only [Option.some.injEq, Prod.mk.injEq, Json.array.injEq, and_true] at hread
  rw [hread] at hdescribes
  exact rightUnique_describes.forall₂ hdescribes (describes_of_run hother)

namespace Options

variable {σ : Type} [FileSystem σ] {options : Options} {files : σ} {tokens : List Token}

/-- In the structured format, the listing of an input with tokens is an array, with nothing but a line
feed behind it, and the array has one object for each token that describes it. No other tokens, of
whatever input, have the same listing. -/
theorem attempt_structured (hformat : options.format = .structured)
    (htokens : options.Tokenizes files tokens) :
    ∃ listing items,
      options.attempt (FileSystem.read files options.input) =
        ⟨options.tokensNotices tokens, .listed listing⟩ ∧
      Json.read? listing = some (.array items, ['\n']) ∧
      List.Forall₂ Json.Describes items tokens ∧
      ∀ (other : Options) (otherFiles : σ) otherTokens, other.format = .structured →
        other.Tokenizes otherFiles otherTokens →
        (other.attempt (FileSystem.read otherFiles other.input)).verdict = .listed listing →
        otherTokens = tokens := by
  have hattempt := attempt_of_tokenizes htokens
  rw [hformat] at hattempt
  obtain ⟨source, -, hrun⟩ := htokens
  refine ⟨_, _, hattempt, read?_structuredListing tokens, Lexer.describes_of_run hrun, ?_⟩
  intro other otherFiles otherTokens hother hothers hlisting
  rw [attempt_of_tokenizes hothers, hother] at hlisting
  obtain ⟨_, -, hotherRun⟩ := hothers
  exact Lexer.eq_of_structuredListing_eq hotherRun hrun (Verdict.listed.inj hlisting)

/-- A name, and a text with a quote and a character beyond U+FFFF in it. -/
theorem attempt_structured_pair :
    let options : Options :=
      { input := .ofText "p.lisp".toList, output := none, format := .structured, lexer := {},
        watch := false, debug := false, verbose := false }
    let files := (FileTree.empty 0).store ["p.lisp".toList] (.file (encodeUtf8 "a \"\"😀\"".toList))
    ∃ tokens listing items, options.Tokenizes files tokens ∧
      options.attempt (FileSystem.read files options.input) =
        ⟨options.tokensNotices tokens, .listed listing⟩ ∧
      Json.read? listing = some (.array items, ['\n']) ∧ items.length = 2 ∧
      List.Forall₂ Json.Describes items tokens := by
  intro options files
  have hread : FileSystem.read files options.input = .ok (encodeUtf8 "a \"\"😀\"".toList) := by
    decide +kernel
  have hrun : options.lexer.run (unifyNewlines "a \"\"😀\"".toList) =
      .ok [⟨.identifier, some (.text "a".toList), "a".toList, some ⟨.start, ⟨1, 2, 1⟩⟩⟩,
        ⟨.string, some (.text "\"😀".toList), "\"\"😀\"".toList,
          some ⟨⟨1, 3, 2⟩, ⟨1, 7, 6⟩⟩⟩] := by
    decide +kernel
  have htokens : options.Tokenizes files _ :=
    ⟨_, ⟨_, _, hread, decodeUtf8_encodeUtf8 _, rfl⟩, hrun⟩
  obtain ⟨listing, items, hattempt, hlisting, hdescribes, -⟩ := attempt_structured rfl htokens
  exact ⟨_, listing, items, htokens, hattempt, hlisting, hdescribes.length_eq, hdescribes⟩

end Options

end LispLex
