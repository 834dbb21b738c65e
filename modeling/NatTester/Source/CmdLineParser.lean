import Mathlib.Logic.Function.Basic
import NatTester.Lib.Getopt
import NatTester.Source.HResult

/-!
# CCmdLineParser

`cmdlineparser.cpp`. The strings that the options are stored in are named by `ρ`;
what they hold is a function of the name.
-/
namespace NatTester.Source
open NatTester.Lib

structure OptionDetail (ρ : Type) where
  strName : String
  has_arg : HasArg
  pStrResult : ρ
  deriving DecidableEq, Repr

structure CCmdLineParser (ρ : Type) where
  namelessArgs : List ρ
  listOptionDetails : List (OptionDetail ρ)

/-- `no_argument`, `required_argument`, `optional_argument` -/
def hasArg : Int → Option HasArg
  | 0 => some .no_argument
  | 1 => some .required_argument
  | 2 => some .optional_argument
  | _ => none

namespace CCmdLineParser
variable {ρ : Type}

def new : CCmdLineParser ρ where
  namelessArgs := []
  listOptionDetails := []

/-- `AddOption`, which takes 0, 1 and 2 for `has_arg`. -/
def addOption (pszName : String) (has_arg : Int) (pStrResult : ρ) (parser : CCmdLineParser ρ) :
    HRESULT × CCmdLineParser ρ :=
  match hasArg has_arg with
  | none => (E_INVALIDARG, parser)
  | some has_arg =>
    (S_OK, { parser with listOptionDetails := parser.listOptionDetails ++ [⟨pszName, has_arg, pStrResult⟩] })

def addNonOption (pStrResult : ρ) (parser : CCmdLineParser ρ) : CCmdLineParser ρ :=
  { parser with namelessArgs := parser.namelessArgs ++ [pStrResult] }

/-- `GenerateOptions`, with the details at the indices of the options. -/
def generateOptions (parser : CCmdLineParser ρ) : LongOptions (OptionDetail ρ) where
  options := parser.listOptionDetails
  name := OptionDetail.strName
  has_arg := OptionDetail.has_arg

/-- What is assigned for an option: `optarg`, or `1` if it has none. -/
def optionValue (od : OptionDetail ρ) (optarg : Option String) : String :=
  match od.has_arg, optarg with
  | .no_argument, _ => "1"
  | _, some optarg => optarg
  | _, none => "1"

variable [DecidableEq ρ]

/-- The first loop of `ParseCommandLine`, with the words behind the options when it is left. -/
def parseOptions (parser : CCmdLineParser ρ) : Nat → Scan → (ρ → String) → Bool → List String × (ρ → String) × Bool
  | 0, scan, strings, fError => (scan.rest, strings, fError)
  | n + 1, scan, strings, fError =>
    match parser.generateOptions.getoptLongOnly scan.passed scan.rest with
    | (none, scan) => (scan.rest, strings, fError)
    | (some .unknown, scan) => parseOptions parser n scan strings true
    | (some (.option od optarg), scan) =>
      parseOptions parser n scan (Function.update strings od.pStrResult (optionValue od optarg)) fError

/-- The second loop: words without a string to store them in are dropped. -/
def bindNameless : List String → List ρ → (ρ → String) → ρ → String
  | [], _, strings => strings
  | word :: words, namelessArgs, strings =>
    if word = "--" then bindNameless words namelessArgs strings
    else
      match namelessArgs with
      | [] => strings
      | pStrResult :: namelessArgs => bindNameless words namelessArgs (Function.update strings pStrResult word)

/-- Where `getopt` starts from an `optind` of `startindex`: 0 makes it start anew, behind the name of the program. -/
def firstWord (startindex : Nat) : Nat := if startindex = 0 then 1 else startindex

/-- `ParseCommandLine`: the strings and `*pErrorFlag`. A call of `getopt_long_only` that goes on takes a word. -/
def parseCommandLine (parser : CCmdLineParser ρ) (argv : List String) (startindex : Nat) (strings : ρ → String) :
    (ρ → String) × Bool :=
  match parser.parseOptions (argv.length + 1) ⟨[], argv.drop (firstWord startindex)⟩ strings false with
  | (words, strings, fError) => (bindNameless words parser.namelessArgs strings, fError)

/-! ## What the options are stored as -/

/-- What the options put into the strings, in order. -/
def optionSettings (found : List (Answer (OptionDetail ρ))) : List (ρ × String) :=
  found.filterMap fun answer => match answer with
    | .option od optarg => some (od.pStrResult, optarg.getD "1")
    | .unknown => none

/-- What the whole command line puts into the strings, in order. -/
def settings (parser : CCmdLineParser ρ) (items : List (CommandItem (OptionDetail ρ))) : List (ρ × String) :=
  optionSettings (answers items) ++ parser.namelessArgs.zip ((nonoptions items).filter fun word => word ≠ "--")

/-- The text that was last put into a string. -/
def lastGiven (settings : List (ρ × String)) (pStrResult : ρ) : Option String :=
  (settings.filter fun setting => setting.1 = pStrResult).getLast?.map Prod.snd

def store (strings : ρ → String) (settings : List (ρ × String)) : ρ → String :=
  settings.foldl (fun strings setting => Function.update strings setting.1 setting.2) strings

theorem store_eq (settings : List (ρ × String)) (strings : ρ → String) (p : ρ) :
    store strings settings p = (lastGiven settings p).getD (strings p) := by
  induction settings generalizing strings with
  | nil => rfl
  | cons setting settings ih =>
    rw [store, List.foldl_cons]
    change store _ settings p = _
    rw [ih]
    unfold lastGiven
    by_cases hp : setting.1 = p
    · rw [List.filter_cons_of_pos (by simpa using hp)]
      cases hlast : (settings.filter fun setting => setting.1 = p).getLast? with
      | none =>
        rw [List.getLast?_eq_none_iff.mp hlast]
        simp [← hp]
      | some last =>
        rw [List.getLast?_cons, hlast]
        rfl
    · rw [List.filter_cons_of_neg (by simpa using hp), Function.update_of_ne (Ne.symm hp)]

theorem bindNameless_eq (words : List String) (namelessArgs : List ρ) (strings : ρ → String) :
    bindNameless words namelessArgs strings = store strings (namelessArgs.zip (words.filter fun word => word ≠ "--")) := by
  induction words generalizing namelessArgs strings with
  | nil =>
    rw [List.filter_nil, List.zip_nil_right]
    rfl
  | cons word words ih =>
    unfold bindNameless
    by_cases hword : word = "--"
    · rw [if_pos hword, List.filter_cons_of_neg (by simpa using hword), ih]
    · rw [if_neg hword, List.filter_cons_of_pos (by simpa using hword)]
      cases namelessArgs with
      | nil => rfl
      | cons pStrResult namelessArgs => exact ih namelessArgs (Function.update strings pStrResult word)

variable {parser : CCmdLineParser ρ} {items : List (CommandItem (OptionDetail ρ))} {scan : Scan}

omit [DecidableEq ρ] in
theorem optionValue_eq (h : Says parser.generateOptions scan.rest items) {od : OptionDetail ρ} {optarg : Option String}
    (hmem : .option od optarg ∈ answers items) : optionValue od optarg = optarg.getD "1" := by
  unfold optionValue
  cases optarg with
  | none => cases od.has_arg <;> rfl
  | some arg =>
    have htakes : od.has_arg ≠ .no_argument := takes_of_given h (mem_answers.mp hmem)
    cases harg : od.has_arg with
    | no_argument => exact absurd harg htakes
    | required_argument => rfl
    | optional_argument => rfl

/-- The calls of `getopt_long_only` one after the other. -/
theorem parseOptions_spec (h : Says parser.generateOptions scan.rest items) {n : Nat} (hn : scan.rest.length < n)
    (strings : ρ → String) (fError : Bool) :
    ∃ fError', parser.parseOptions n scan strings fError =
        (scan.passed ++ nonoptions items, store strings (optionSettings (answers items)), fError') ∧
      (fError' = true ↔ fError = true ∨ .unknown ∈ answers items) := by
  induction n generalizing scan items strings fError with
  | zero => exact absurd hn (Nat.not_lt_zero _)
  | succ n ih =>
    rw [parseOptions]
    rcases getoptLongOnly_spec h scan.passed with
      ⟨hnone, hcall⟩ | ⟨answer, skipped, later, others, hfirst, hskipped, hcall, hlater, hlt⟩
    · rw [hcall, hnone]
      exact ⟨fError, rfl, by simp⟩
    · have hmeans : Says parser.generateOptions (Scan.mk (scan.passed ++ skipped) later).rest others := hlater
      have hless : (Scan.mk (scan.passed ++ skipped) later).rest.length < n := by
        change later.length < n
        omega
      rw [hcall, hfirst, hskipped, ← List.append_assoc]
      cases answer with
      | unknown =>
        obtain ⟨fError', hrest, hflag⟩ := ih hmeans hless strings true
        exact ⟨fError', hrest, by simp [hflag]⟩
      | option od optarg =>
        have hmem : .option od optarg ∈ answers items := by simp [hfirst]
        obtain ⟨fError', hrest, hflag⟩ := ih hmeans hless
          (Function.update strings od.pStrResult (optionValue od optarg)) fError
        refine ⟨fError', ?_, by simp [hflag]⟩
        change parser.parseOptions n _ (Function.update strings od.pStrResult (optionValue od optarg)) fError = _
        rw [optionValue_eq h hmem] at hrest ⊢
        exact hrest

end CCmdLineParser

end NatTester.Source
