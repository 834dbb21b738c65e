import NatTester.Source.ClientProgram

/-!
# What a command line says

Each command line says one thing, whatever the options of the parser, and
`ParseCommandLine` stores just that: of the texts for one string the last one, with
those of the words that are no options behind those of the options.
-/
namespace NatTester.Guarantees
open NatTester.Lib NatTester.Source CCmdLineParser

section Parser
variable {ρ : Type} [DecidableEq ρ]

/-- The strings and the flag are those of the items. -/
structure ReadsAs (parser : CCmdLineParser ρ) (argv : List String) (startindex : Nat) (strings : ρ → String)
    (items : List (CommandItem (OptionDetail ρ))) : Prop where
  stored : ∀ pStrResult, (parser.parseCommandLine argv startindex strings).1 pStrResult =
    (lastGiven (parser.settings items) pStrResult).getD (strings pStrResult)
  flagged : (parser.parseCommandLine argv startindex strings).2 = true ↔ .answered .unknown ∈ items

theorem parseCommandLine_spec {parser : CCmdLineParser ρ} {argv : List String} (startindex : Nat)
    {items : List (CommandItem (OptionDetail ρ))} (h : Says parser.generateOptions (argv.drop (firstWord startindex)) items)
    (strings : ρ → String) : ReadsAs parser argv startindex strings items := by
  have hlength : (argv.drop (firstWord startindex)).length < argv.length + 1 := by
    rw [List.length_drop]
    omega
  have hscan : Says parser.generateOptions (Scan.mk [] (argv.drop (firstWord startindex))).rest items := h
  obtain ⟨fError, hoptions, hflag⟩ := parseOptions_spec hscan hlength strings false
  have hparsed : parser.parseCommandLine argv startindex strings = (store strings (parser.settings items), fError) := by
    unfold parseCommandLine
    rw [hoptions]
    simp only [List.nil_append, bindNameless_eq]
    unfold settings store
    rw [List.foldl_append]
  constructor
  · intro pStrResult
    rw [hparsed]
    exact store_eq (parser.settings items) strings pStrResult
  · rw [hparsed, ← mem_answers]
    simpa using hflag

/-- For every parser and every command line there is exactly one thing that it says, in terms of the names,
abbreviations and arguments of the options alone, and this is what is stored. -/
theorem command_line_read (parser : CCmdLineParser ρ) (argv : List String) (startindex : Nat) (strings : ρ → String) :
    ∃ items, (∀ other, Says parser.generateOptions (argv.drop (firstWord startindex)) other ↔ other = items) ∧
      ReadsAs parser argv startindex strings items := by
  obtain ⟨items, hmeans, hunique⟩ := existsUnique_items parser.generateOptions (argv.drop (firstWord startindex))
  refine ⟨items, fun other => ⟨hunique other, ?_⟩, parseCommandLine_spec startindex hmeans strings⟩
  intro heq
  rw [heq]
  exact hmeans

end Parser

end NatTester.Guarantees
