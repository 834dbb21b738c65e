import Mathlib.Data.List.Basic
import Mathlib.Tactic.Common

/-!
# Command lines with long options

`getopt_long_only` of the C library without short options, where it permutes the
words: an option begins with one dash or two, its name may be abbreviated, and the
words that are no options are passed over. `Says` tells what a command line says
without the calls; each command line says one thing.
-/
namespace NatTester.Lib

inductive HasArg where
  | no_argument
  | required_argument
  | optional_argument
  deriving DecidableEq, Repr

/-- `longopts`, with what the calls read of an entry. -/
structure LongOptions (α : Type) where
  options : List α
  name : α → String
  has_arg : α → HasArg

/-- What a call returns when it has found an option, whose entry `longindex` points at, and when it returns `?`. -/
inductive Answer (α : Type) where
  | option (opt : α) (optarg : Option String)
  | unknown
  deriving DecidableEq, Repr

/-- The words passed over, which will stand behind the options, and those from `optind` on. -/
structure Scan where
  passed : List String
  rest : List String

/-! ## The calls -/

/-- What stands behind the dashes of a word. -/
def optionText : List Char → Option (List Char)
  | '-' :: '-' :: text => some text
  | '-' :: ch :: text => some (ch :: text)
  | _ => none

/-- The name in front of the first `=`, and the value behind it. -/
def splitText : List Char → List Char × Option (List Char)
  | [] => ([], none)
  | ch :: text =>
    if ch = '=' then ([], some text)
    else (ch :: (splitText text).1, (splitText text).2)

namespace LongOptions
variable {α : Type}

/-- The first option of the name, and else the only one with a name that begins with it. -/
def find (t : LongOptions α) (name : List Char) : Option α :=
  match t.options.find? fun opt => (t.name opt).toList = name with
  | some opt => some opt
  | none =>
    match t.options.filter fun opt => name.isPrefixOf (t.name opt).toList with
    | [opt] => some opt
    | _ => none

/-- A word with the text `text` behind its dashes, and what is left of the words behind it. -/
def readOption (t : LongOptions α) (text : List Char) (rest : List String) : Answer α × List String :=
  match t.find (splitText text).1 with
  | none => (.unknown, rest)
  | some opt =>
    match (splitText text).2 with
    | some value =>
      if t.has_arg opt = .no_argument then (.unknown, rest) else (.option opt (some (String.ofList value)), rest)
    | none =>
      if t.has_arg opt = .required_argument then
        match rest with
        | [] => (.unknown, [])
        | arg :: rest => (.option opt (some arg), rest)
      else (.option opt none, rest)

/-- A call; `none` is -1, after which all words that are no options stand from `optind` on. -/
def getoptLongOnly (t : LongOptions α) (passed : List String) : List String → Option (Answer α) × Scan
  | [] => (none, ⟨[], passed⟩)
  | word :: rest =>
    if word = "--" then (none, ⟨[], passed ++ rest⟩)
    else
      match optionText word.toList with
      | none => getoptLongOnly t (passed ++ [word]) rest
      | some text => (some (t.readOption text rest).1, ⟨passed, (t.readOption text rest).2⟩)

end LongOptions

/-! ## What a command line says -/

/-- The text behind the dashes of an option. -/
def optionBody (name : List Char) : Option (List Char) → List Char
  | none => name
  | some value => name ++ '=' :: value

/-- A word with two dashes, or one, in front of a name and perhaps a value. -/
structure SpellsOption (word : String) (name : List Char) (value : Option (List Char)) : Prop where
  dashed : word.toList = '-' :: '-' :: optionBody name value ∨
    word.toList = '-' :: optionBody name value ∧ (optionBody name value).head? ≠ some '-'
  something : optionBody name value ≠ []
  unequal : '=' ∉ name

def TakenForOption (word : String) : Prop := ∃ ch text, word.toList = '-' :: ch :: text

variable {α : Type}

/-- The option of the name, or the one that it abbreviates: no other begins with it. -/
def LongOptions.Names (t : LongOptions α) (name : List Char) (opt : α) : Prop :=
  (∃ before after, t.options = before ++ opt :: after ∧ (t.name opt).toList = name ∧
    ∀ other ∈ before, (t.name other).toList ≠ name) ∨
  (∀ other ∈ t.options, (t.name other).toList ≠ name) ∧
    ∃ before after, t.options = before ++ opt :: after ∧ name <+: (t.name opt).toList ∧
      ∀ other ∈ before ++ after, ¬name <+: (t.name other).toList

inductive CommandItem (α : Type) where
  | answered (answer : Answer α)
  | nonoption (word : String)

inductive Says (t : LongOptions α) : List String → List (CommandItem α) → Prop
  | nil : Says t [] []
  | terminator (rest : List String) : Says t ("--" :: rest) (rest.map .nonoption)
  | nonoption {word : String} {rest : List String} {items : List (CommandItem α)} (hword : ¬TakenForOption word)
      (hrest : Says t rest items) : Says t (word :: rest) (.nonoption word :: items)
  | joined {word : String} {name value : List Char} {opt : α} {rest : List String} {items : List (CommandItem α)}
      (hword : SpellsOption word name (some value)) (hname : t.Names name opt) (harg : t.has_arg opt ≠ .no_argument)
      (hrest : Says t rest items) :
      Says t (word :: rest) (.answered (.option opt (some (String.ofList value))) :: items)
  | separate {word arg : String} {name : List Char} {opt : α} {rest : List String} {items : List (CommandItem α)}
      (hword : SpellsOption word name none) (hname : t.Names name opt) (harg : t.has_arg opt = .required_argument)
      (hrest : Says t rest items) : Says t (word :: arg :: rest) (.answered (.option opt (some arg)) :: items)
  | bare {word : String} {name : List Char} {opt : α} {rest : List String} {items : List (CommandItem α)}
      (hword : SpellsOption word name none) (hname : t.Names name opt) (harg : t.has_arg opt ≠ .required_argument)
      (hrest : Says t rest items) : Says t (word :: rest) (.answered (.option opt none) :: items)
  | unknown {word : String} {name : List Char} {value : Option (List Char)} {rest : List String}
      {items : List (CommandItem α)} (hword : SpellsOption word name value) (hname : ∀ opt, ¬t.Names name opt)
      (hrest : Says t rest items) : Says t (word :: rest) (.answered .unknown :: items)
  | unwanted {word : String} {name value : List Char} {opt : α} {rest : List String} {items : List (CommandItem α)}
      (hword : SpellsOption word name (some value)) (hname : t.Names name opt) (harg : t.has_arg opt = .no_argument)
      (hrest : Says t rest items) : Says t (word :: rest) (.answered .unknown :: items)
  | missing {word : String} {name : List Char} {opt : α} (hword : SpellsOption word name none)
      (hname : t.Names name opt) (harg : t.has_arg opt = .required_argument) : Says t [word] [.answered .unknown]

def answers (items : List (CommandItem α)) : List (Answer α) :=
  items.filterMap fun item => match item with
    | .answered answer => some answer
    | .nonoption _ => none

def nonoptions (items : List (CommandItem α)) : List String :=
  items.filterMap fun item => match item with
    | .answered _ => none
    | .nonoption word => some word

/-! ## Words -/

theorem splitText_optionBody {name : List Char} (h : '=' ∉ name) (value : Option (List Char)) :
    splitText (optionBody name value) = (name, value) := by
  induction name with
  | nil => cases value <;> rfl
  | cons ch name ih =>
    obtain ⟨hne, hname⟩ := not_or.mp (List.mem_cons.not.mp h)
    have hbody : optionBody (ch :: name) value = ch :: optionBody name value := by cases value <;> rfl
    rw [hbody, splitText, if_neg (Ne.symm hne), ih hname]

theorem optionBody_splitText (text : List Char) :
    optionBody (splitText text).1 (splitText text).2 = text ∧ '=' ∉ (splitText text).1 := by
  induction text with
  | nil => exact ⟨rfl, List.not_mem_nil⟩
  | cons ch text ih =>
    unfold splitText
    split
    next heq =>
      subst heq
      exact ⟨rfl, List.not_mem_nil⟩
    next hne =>
      obtain ⟨hbody, hname⟩ := ih
      constructor
      · conv_rhs => rw [← hbody]
        cases (splitText text).2 <;> rfl
      · rw [List.mem_cons, not_or]
        exact ⟨Ne.symm hne, hname⟩

theorem optionText_eq_none {word : String} : optionText word.toList = none ↔ ¬TakenForOption word := by
  unfold TakenForOption optionText
  split
  next text heq => simp [heq]
  next ch text hdash heq => simp [heq]
  next hdashes hdash =>
    simp only [true_iff]
    rintro ⟨ch, text, heq⟩
    exact hdash ch text heq

theorem SpellsOption.optionText {word : String} {name : List Char} {value : Option (List Char)}
    (h : SpellsOption word name value) : optionText word.toList = some (optionBody name value) := by
  obtain ⟨htwo | ⟨hone, hhead⟩, hsomething, -⟩ := h
  · rw [htwo]
    rfl
  · rw [hone]
    cases hbody : optionBody name value with
    | nil => exact absurd hbody hsomething
    | cons ch text =>
      rw [hbody] at hhead
      unfold Lib.optionText
      split
      next heq =>
        cases heq
        exact absurd rfl hhead
      next heq =>
        cases heq
        rfl
      next hne => exact absurd rfl (hne ch text)

theorem SpellsOption.ne_terminator {word : String} {name : List Char} {value : Option (List Char)}
    (h : SpellsOption word name value) : word ≠ "--" := by
  intro heq
  have htext := h.optionText
  rw [heq] at htext
  exact h.something (Option.some.inj htext).symm

/-- A word that is taken for an option has a name. -/
theorem spellsOption_of_text {word : String} {text : List Char} (hne : word ≠ "--")
    (h : optionText word.toList = some text) : SpellsOption word (splitText text).1 (splitText text).2 := by
  obtain ⟨hbody, hname⟩ := optionBody_splitText text
  refine ⟨?_, ?_, hname⟩
  · rw [hbody]
    unfold optionText at h
    split at h
    next heq =>
      cases h
      exact .inl heq
    next hdash heq =>
      cases h
      refine .inr ⟨heq, ?_⟩
      intro hhead
      rw [List.head?_cons, Option.some.injEq] at hhead
      subst hhead
      exact hdash rfl
    · cases h
  · rw [hbody]
    intro hnil
    subst hnil
    unfold optionText at h
    split at h
    next text heq =>
      cases h
      exact hne (String.toList_injective heq)
    · cases h
    · cases h

/-! ## Names -/

theorem LongOptions.find_eq_some_iff {t : LongOptions α} {name : List Char} {opt : α} :
    t.find name = some opt ↔ t.Names name opt := by
  unfold find Names
  cases hfind : t.options.find? fun opt => (t.name opt).toList = name with
  | some first =>
    obtain ⟨hfirst, before, after, hoptions, hbefore⟩ := List.find?_eq_some_iff_append.mp hfind
    constructor
    · intro h
      cases h
      exact .inl ⟨before, after, hoptions, by simpa using hfirst,
        fun other hother => by simpa using hbefore other hother⟩
    · rintro (⟨before', after', hoptions', hopt, hbefore'⟩ | ⟨hnone, -⟩)
      · have hagain : t.options.find? (fun opt => (t.name opt).toList = name) = some opt :=
          List.find?_eq_some_iff_append.mpr
            ⟨by simpa using hopt, before', after', hoptions', fun other hother => by simpa using hbefore' other hother⟩
        exact hfind.symm.trans hagain
      · have hmem : first ∈ t.options := by simp [hoptions]
        exact absurd (by simpa using hfirst) (hnone first hmem)
  | none =>
    have hnone : ∀ other ∈ t.options, (t.name other).toList ≠ name := fun other hother => by
      simpa using List.find?_eq_none.mp hfind other hother
    constructor
    · intro h
      simp only at h
      split at h
      next only hfilter =>
        cases h
        obtain ⟨before, after, hoptions, hbefore, honly, hafter⟩ := List.filter_eq_cons_iff.mp hfilter
        refine .inr ⟨hnone, before, after, hoptions, List.isPrefixOf_iff_prefix.mp honly, ?_⟩
        intro other hother hprefix
        have hpasses := List.isPrefixOf_iff_prefix.mpr hprefix
        rcases List.mem_append.mp hother with hother | hother
        · exact hbefore other hother hpasses
        · exact List.filter_eq_nil_iff.mp hafter other hother hpasses
      · cases h
    · rintro (⟨before, after, hoptions, hopt, -⟩ | ⟨-, before, after, hoptions, hopt, hothers⟩)
      · exact absurd hopt (hnone opt (by simp [hoptions]))
      · have hfilter : t.options.filter (fun opt => name.isPrefixOf (t.name opt).toList) = [opt] := by
          refine List.filter_eq_cons_iff.mpr ⟨before, after, hoptions, ?_, List.isPrefixOf_iff_prefix.mpr hopt, ?_⟩
          · intro other hother hpasses
            exact hothers other (List.mem_append_left after hother) (List.isPrefixOf_iff_prefix.mp hpasses)
          · refine List.filter_eq_nil_iff.mpr fun other hother hpasses => ?_
            exact hothers other (List.mem_append_right before hother) (List.isPrefixOf_iff_prefix.mp hpasses)
        simp only [hfilter]

theorem LongOptions.find_eq_none_iff {t : LongOptions α} {name : List Char} :
    t.find name = none ↔ ∀ opt, ¬t.Names name opt := by
  simp only [← find_eq_some_iff, Option.eq_none_iff_forall_ne_some, ne_eq]

/-! ## Each command line says one thing -/

variable {t : LongOptions α} {word : String} {text : List Char} {rest words : List String} {items : List (CommandItem α)}

theorem says_nil : Says t [] items ↔ items = [] := by
  constructor
  · intro h
    cases h
    rfl
  · intro h
    rw [h]
    exact .nil

theorem says_terminator : Says t ("--" :: rest) items ↔ items = rest.map .nonoption := by
  constructor
  · intro h
    cases h with
    | terminator => rfl
    | nonoption hword => exact absurd ⟨'-', [], rfl⟩ hword
    | joined hword => exact absurd rfl hword.ne_terminator
    | separate hword => exact absurd rfl hword.ne_terminator
    | bare hword => exact absurd rfl hword.ne_terminator
    | unknown hword => exact absurd rfl hword.ne_terminator
    | unwanted hword => exact absurd rfl hword.ne_terminator
    | missing hword => exact absurd rfl hword.ne_terminator
  · intro h
    rw [h]
    exact .terminator rest

theorem SpellsOption.takenForOption {name : List Char} {value : Option (List Char)} (h : SpellsOption word name value) :
    TakenForOption word := by
  by_contra hnot
  rw [← optionText_eq_none, h.optionText] at hnot
  cases hnot

theorem says_nonoption (hword : ¬TakenForOption word) :
    Says t (word :: rest) items ↔ ∃ later, items = .nonoption word :: later ∧ Says t rest later := by
  constructor
  · intro h
    cases h with
    | terminator => exact absurd ⟨'-', [], rfl⟩ hword
    | nonoption _ hrest => exact ⟨_, rfl, hrest⟩
    | joined hspells => exact absurd hspells.takenForOption hword
    | separate hspells => exact absurd hspells.takenForOption hword
    | bare hspells => exact absurd hspells.takenForOption hword
    | unknown hspells => exact absurd hspells.takenForOption hword
    | unwanted hspells => exact absurd hspells.takenForOption hword
    | missing hspells => exact absurd hspells.takenForOption hword
  · rintro ⟨later, rfl, hrest⟩
    exact .nonoption hword hrest

theorem SpellsOption.splitText {name : List Char} {value : Option (List Char)} (h : SpellsOption word name value)
    (htext : Lib.optionText word.toList = some text) : Lib.splitText text = (name, value) := by
  have hbody := h.optionText
  rw [htext, Option.some.injEq] at hbody
  rw [hbody]
  exact splitText_optionBody h.unequal value

/-- What an option says is what the call reads, and the rest of the words says the rest. -/
theorem says_option (hne : word ≠ "--") (htext : optionText word.toList = some text) :
    Says t (word :: rest) items ↔
      ∃ later, items = .answered (t.readOption text rest).1 :: later ∧ Says t (t.readOption text rest).2 later := by
  have hspells := spellsOption_of_text hne htext
  have htaken := hspells.takenForOption
  unfold LongOptions.readOption
  constructor
  · intro h
    cases h with
    | terminator => exact absurd rfl hne
    | nonoption hword => exact absurd htaken hword
    | joined hword hname harg hrest =>
      rw [hword.splitText htext, LongOptions.find_eq_some_iff.mpr hname]
      simp only [harg, if_false]
      exact ⟨_, rfl, hrest⟩
    | separate hword hname harg hrest =>
      rw [hword.splitText htext, LongOptions.find_eq_some_iff.mpr hname]
      simp only [harg, if_true]
      exact ⟨_, rfl, hrest⟩
    | bare hword hname harg hrest =>
      rw [hword.splitText htext, LongOptions.find_eq_some_iff.mpr hname]
      simp only [harg, if_false]
      exact ⟨_, rfl, hrest⟩
    | unknown hword hname hrest =>
      rw [hword.splitText htext, LongOptions.find_eq_none_iff.mpr hname]
      exact ⟨_, rfl, hrest⟩
    | unwanted hword hname harg hrest =>
      rw [hword.splitText htext, LongOptions.find_eq_some_iff.mpr hname]
      simp only [harg, if_true]
      exact ⟨_, rfl, hrest⟩
    | missing hword hname harg =>
      rw [hword.splitText htext, LongOptions.find_eq_some_iff.mpr hname]
      simp only [harg, if_true]
      exact ⟨[], rfl, .nil⟩
  · generalize hsplit : splitText text = split at hspells
    obtain ⟨name, value⟩ := split
    cases hfind : t.find name with
    | none =>
      simp only
      rintro ⟨later, rfl, hrest⟩
      exact .unknown hspells (LongOptions.find_eq_none_iff.mp hfind) hrest
    | some opt =>
      have hname := LongOptions.find_eq_some_iff.mp hfind
      cases value with
      | some value =>
        by_cases harg : t.has_arg opt = .no_argument
        · simp only [harg, if_true]
          rintro ⟨later, rfl, hrest⟩
          exact .unwanted hspells hname harg hrest
        · simp only [harg, if_false]
          rintro ⟨later, rfl, hrest⟩
          exact .joined hspells hname harg hrest
      | none =>
        by_cases harg : t.has_arg opt = .required_argument
        · cases rest with
          | nil =>
            simp only [harg, if_true]
            rintro ⟨later, rfl, hrest⟩
            rw [says_nil.mp hrest]
            exact .missing hspells hname harg
          | cons arg rest =>
            simp only [harg, if_true]
            rintro ⟨later, rfl, hrest⟩
            exact .separate hspells hname harg hrest
        · simp only [harg, if_false]
          rintro ⟨later, rfl, hrest⟩
          exact .bare hspells hname harg hrest

/-- An option takes the next word or none. -/
theorem readOption_rest (t : LongOptions α) (text : List Char) (rest : List String) :
    (t.readOption text rest).2 = rest ∨ ∃ arg, rest = arg :: (t.readOption text rest).2 := by
  unfold LongOptions.readOption
  split
  · exact .inl rfl
  split
  · split <;> exact .inl rfl
  split
  · cases rest with
    | nil => exact .inl rfl
    | cons arg rest => exact .inr ⟨arg, rfl⟩
  · exact .inl rfl

theorem length_readOption_le (t : LongOptions α) (text : List Char) (rest : List String) :
    (t.readOption text rest).2.length ≤ rest.length := by
  rcases readOption_rest t text rest with hsame | ⟨arg, htaken⟩
  · exact Nat.le_of_eq (congrArg List.length hsame)
  · conv_rhs => rw [htaken]
    exact Nat.le_succ _

/-- The first word says one thing, with the next word as its argument or without. -/
theorem says_first (t : LongOptions α) (word : String) (rest : List String) :
    (word = "--" ∧ ∀ items, Says t (word :: rest) items ↔ items = rest.map .nonoption) ∨
      ∃ item later, later.length ≤ rest.length ∧
        ∀ items, Says t (word :: rest) items ↔ ∃ others, items = item :: others ∧ Says t later others := by
  by_cases hend : word = "--"
  · subst hend
    exact .inl ⟨rfl, fun _ => says_terminator⟩
  cases htext : optionText word.toList with
  | none => exact .inr ⟨.nonoption word, rest, Nat.le_refl _, fun _ => says_nonoption (optionText_eq_none.mp htext)⟩
  | some text =>
    exact .inr ⟨.answered (t.readOption text rest).1, (t.readOption text rest).2, length_readOption_le t text rest,
      fun _ => says_option hend htext⟩

theorem existsUnique_items (t : LongOptions α) (words : List String) : ∃! items, Says t words items := by
  induction hlength : words.length using Nat.strongRecOn generalizing words with
  | ind n ih =>
    cases words with
    | nil => exact ⟨[], .nil, fun items h => says_nil.mp h⟩
    | cons word rest =>
      rcases says_first t word rest with ⟨-, hmeans⟩ | ⟨item, later, hle, hmeans⟩
      · exact ⟨_, (hmeans _).mpr rfl, fun items h => (hmeans items).mp h⟩
      · have hlt : later.length < n := by
          rw [← hlength, List.length_cons]
          omega
        obtain ⟨others, hothers, hunique⟩ := ih later.length hlt later rfl
        refine ⟨item :: others, (hmeans _).mpr ⟨others, rfl, hothers⟩, ?_⟩
        intro items h
        obtain ⟨others', rfl, hothers'⟩ := (hmeans items).mp h
        rw [hunique others' hothers']

/-! ## The calls find out what it says -/

theorem answers_nonoptions_map (words : List String) :
    answers (words.map .nonoption : List (CommandItem α)) = [] ∧
      nonoptions (words.map .nonoption : List (CommandItem α)) = words := by
  induction words with
  | nil => exact ⟨rfl, rfl⟩
  | cons word words ih => exact ⟨ih.1, congrArg (word :: ·) ih.2⟩

theorem mem_answers {answer : Answer α} : answer ∈ answers items ↔ .answered answer ∈ items := by
  induction items with
  | nil => simp [answers]
  | cons item items ih =>
    cases item with
    | answered first =>
      change answer ∈ first :: answers items ↔ _
      simp [ih]
    | nonoption word =>
      change answer ∈ answers items ↔ _
      simp [ih]

/-- Only an option that takes an argument is given one. -/
theorem takes_of_given (h : Says t words items) {opt : α} {arg : String}
    (hmem : .answered (.option opt (some arg)) ∈ items) : t.has_arg opt ≠ .no_argument := by
  induction h with
  | nil => cases hmem
  | terminator rest => simp at hmem
  | nonoption _ _ ih => exact ih (by simpa using hmem)
  | joined _ _ harg _ ih =>
    rcases List.mem_cons.mp hmem with heq | hmem
    · cases heq
      exact harg
    · exact ih hmem
  | separate _ _ harg _ ih =>
    rcases List.mem_cons.mp hmem with heq | hmem
    · cases heq
      rw [harg]
      decide
    · exact ih hmem
  | bare _ _ _ _ ih => exact ih (by simpa using hmem)
  | unknown _ _ _ ih => exact ih (by simpa using hmem)
  | unwanted _ _ _ _ ih => exact ih (by simpa using hmem)
  | missing => simp at hmem

theorem LongOptions.Names.mem {name : List Char} {opt : α} (h : t.Names name opt) : opt ∈ t.options := by
  rcases h with ⟨before, after, hoptions, -⟩ | ⟨-, before, after, hoptions, -⟩ <;> simp [hoptions]

theorem option_mem (h : Says t words items) {opt : α} {optarg : Option String}
    (hmem : .answered (.option opt optarg) ∈ items) : opt ∈ t.options := by
  induction h with
  | nil => cases hmem
  | terminator rest => simp at hmem
  | nonoption _ _ ih => exact ih (by simpa using hmem)
  | joined _ hname _ _ ih | separate _ hname _ _ ih | bare _ hname _ _ ih =>
    rcases List.mem_cons.mp hmem with heq | hmem
    · cases heq
      exact hname.mem
    · exact ih hmem
  | unknown _ _ _ ih => exact ih (by simpa using hmem)
  | unwanted _ _ _ _ ih => exact ih (by simpa using hmem)
  | missing => simp at hmem

/-- A call passes over the words in front of the next option and answers what this says. If there is none, all
words that are no options are left, in their order. -/
theorem getoptLongOnly_spec (h : Says t words items) (passed : List String) :
    (answers items = [] ∧ t.getoptLongOnly passed words = (none, ⟨[], passed ++ nonoptions items⟩)) ∨
      ∃ answer skipped later others, answers items = answer :: answers others ∧
        nonoptions items = skipped ++ nonoptions others ∧
        t.getoptLongOnly passed words = (some answer, ⟨passed ++ skipped, later⟩) ∧
        Says t later others ∧ later.length < words.length := by
  induction words generalizing passed items with
  | nil =>
    rw [says_nil.mp h]
    exact .inl ⟨rfl, by rw [LongOptions.getoptLongOnly, nonoptions, List.filterMap_nil, List.append_nil]⟩
  | cons word rest ih =>
    by_cases hend : word = "--"
    · subst hend
      obtain ⟨hanswers, hwords⟩ := answers_nonoptions_map (α := α) rest
      rw [says_terminator.mp h]
      exact .inl ⟨hanswers, by rw [hwords, LongOptions.getoptLongOnly, if_pos rfl]⟩
    cases htext : optionText word.toList with
    | none =>
      obtain ⟨others, rfl, hrest⟩ := (says_nonoption (optionText_eq_none.mp htext)).mp h
      have hcall : t.getoptLongOnly passed (word :: rest) = t.getoptLongOnly (passed ++ [word]) rest := by
        rw [LongOptions.getoptLongOnly, if_neg hend, htext]
      have hwords : nonoptions (.nonoption word :: others : List (CommandItem α)) = [word] ++ nonoptions others := rfl
      have hanswers : answers (.nonoption word :: others : List (CommandItem α)) = answers others := rfl
      rw [hcall, hwords, hanswers]
      rcases ih hrest (passed ++ [word]) with ⟨hnone, hcalled⟩ |
        ⟨answer, skipped, later, last, hfirst, hskipped, hcalled, hlater, hlt⟩
      · exact .inl ⟨hnone, by rw [hcalled, List.append_assoc]⟩
      · refine .inr ⟨answer, [word] ++ skipped, later, last, hfirst, ?_, ?_, hlater, Nat.lt_succ_of_lt hlt⟩
        · rw [hskipped, List.append_assoc]
        · rw [hcalled, List.append_assoc]
    | some text =>
      obtain ⟨others, rfl, hrest⟩ := (says_option hend htext).mp h
      refine .inr ⟨_, [], _, others, rfl, rfl, ?_, hrest, Nat.lt_succ_of_le (length_readOption_le t text rest)⟩
      rw [LongOptions.getoptLongOnly, if_neg hend, htext, List.append_nil]

end NatTester.Lib
