import NatTester.Lib.Words
import NatTester.Source.PrettyPrint

/-!
# Wrapped help text

The two splitting loops take the words of the text apart and lose none, and the wrapping
loop is greedy: a line takes words as long as they fit, the first of a line always.
-/
namespace NatTester.Guarantees
open NatTester.Lib NatTester.Source PrettyPrint

/-- The words of a text: runs of characters other than white space. -/
abbrev textWords (s : List Char) : List (List Char) := words PrettyPrint.isWhitespace s

/-- The text of a line of words behind an indent. -/
def lineText (strIndent : List Char) (line : List (List Char)) : List Char := strIndent ++ [' '].intercalate line

/-- The lines of a paragraph: what is longer than `width` is a single word, and the first word of a line would not have
fitted on the line before it with a space. -/
structure WrapsParagraph (width : Nat) (printed : List (List Char)) : Prop where
  fits : ∀ line ∈ printed, width < line.length → (textWords line).length = 1
  necessary : printed.IsChain fun line next => ∃ word rest, textWords next = word :: rest ∧ width < line.length + 1 + word.length

/-! ## Words and paragraphs -/

theorem isWhitespace_of_isLineBreak {ch : Char} (h : isLineBreak ch = true) : PrettyPrint.isWhitespace ch = true := by
  simp only [isLineBreak, Bool.decide_or, Bool.or_eq_true, decide_eq_true_eq] at h
  rcases h with rfl | rfl <;> rfl

theorem splitParagraphIntoWords_eq (pszLine : List Char) : splitParagraphIntoWords pszLine = textWords pszLine := by
  induction pszLine using splitParagraphIntoWords.induct with
  | case1 pszLine hskipped =>
    rw [splitParagraphIntoWords, hskipped]
    exact (words_of_blank fun x hx => List.dropWhile_eq_nil_iff.mp hskipped x hx).symm
  | case2 pszLine ch rest hskipped ih =>
    have hch : PrettyPrint.isWhitespace ch = false := by
      simpa [hskipped] using List.head?_dropWhile_not PrettyPrint.isWhitespace pszLine
    have hsplit : pszLine = pszLine.takeWhile PrettyPrint.isWhitespace ++ (ch :: rest) := by
      rw [← hskipped, List.takeWhile_append_dropWhile]
    rw [splitParagraphIntoWords, hskipped]
    dsimp only
    rw [ih]
    unfold textWords
    conv_rhs => rw [hsplit, words_append_of_blank fun x hx => List.all_eq_true.mp List.all_takeWhile x hx]
    conv_rhs => rw [← List.takeWhile_append_dropWhile (p := fun ch => !PrettyPrint.isWhitespace ch) (l := ch :: rest)]
    refine (words_run_append ?_ ?_ ?_).symm
    · rw [List.takeWhile_cons_of_pos (by simp [hch])]
      exact List.cons_ne_nil _ _
    · intro x hx
      simpa using List.all_eq_true.mp List.all_takeWhile x hx
    · intro x hx
      have hstop := List.head?_dropWhile_not (fun ch => !PrettyPrint.isWhitespace ch) (ch :: rest)
      rw [Option.mem_def.mp hx] at hstop
      simpa using hstop

/-- Words are not empty and hold no white space. -/
theorem mem_textWords {s w : List Char} (h : w ∈ textWords s) :
    w ≠ [] ∧ ∀ x ∈ w, PrettyPrint.isWhitespace x = false := by
  rw [← splitParagraphIntoWords_eq] at h
  induction s using splitParagraphIntoWords.induct with
  | case1 pszLine hskipped =>
    rw [splitParagraphIntoWords, hskipped] at h
    cases h
  | case2 pszLine ch rest hskipped ih =>
    have hch : PrettyPrint.isWhitespace ch = false := by
      simpa [hskipped] using List.head?_dropWhile_not PrettyPrint.isWhitespace pszLine
    rw [splitParagraphIntoWords, hskipped] at h
    rcases List.mem_cons.mp h with rfl | hlater
    · refine ⟨?_, ?_⟩
      · rw [List.takeWhile_cons_of_pos (by simp [hch])]
        exact List.cons_ne_nil _ _
      · intro x hx
        simpa using List.all_eq_true.mp List.all_takeWhile x hx
    · exact ih hlater

theorem textWords_skipBreak (s : List Char) : textWords (skipBreak s) = textWords s := by
  have hreturn : PrettyPrint.isWhitespace '\r' = true := rfl
  have hfeed : PrettyPrint.isWhitespace '\n' = true := rfl
  unfold skipBreak textWords
  split
  · rw [words_cons hreturn, words_cons hfeed]
  · rw [words_cons hreturn]
  · rw [words_cons hfeed]
  · rfl

/-- No word crosses the end of a paragraph. -/
theorem textWords_paragraphs (pszInput : List Char) :
    (splitInputIntoParagraphs pszInput).flatMap textWords = textWords pszInput := by
  unfold splitInputIntoParagraphs
  induction pszInput using lines.induct with
  | case1 =>
    rw [lines]
    rfl
  | case2 ch rest ih =>
    rw [lines, List.flatMap_cons, ih, textWords_skipBreak]
    conv_rhs => rw [← List.takeWhile_append_dropWhile (p := fun ch => !isLineBreak ch) (l := ch :: rest)]
    unfold textWords
    generalize hbreak : (ch :: rest).dropWhile (fun ch => !isLineBreak ch) = behind
    cases behind with
    | nil => rw [List.append_nil, words_nil, List.append_nil]
    | cons c behind =>
      have hstop := List.head?_dropWhile_not (fun ch => !isLineBreak ch) (ch :: rest)
      rw [hbreak] at hstop
      have hc : PrettyPrint.isWhitespace c = true := isWhitespace_of_isLineBreak (by simpa using hstop)
      rw [words_append_cons hc, words_cons hc]

/-! ## The loop -/

section Loop
variable {width : Nat} {strIndent : List Char}

/-- From a line that has a word already. -/
theorem wrapLoop_wrapped (width : Nat) (strIndent : List Char) (listWords : List (List Char)) {line : List (List Char)}
    (hne : line ≠ []) (hfits : 2 ≤ line.length → (lineText strIndent line).length ≤ width) :
    ∃ lines, IsWrapped width (lineText strIndent) (line ++ listWords) lines ∧
      (wrapLoop width strIndent listWords false (lineText strIndent line)).1 ++
        [(wrapLoop width strIndent listWords false (lineText strIndent line)).2] = lines.map (lineText strIndent) := by
  induction listWords generalizing line with
  | nil =>
    rw [wrapLoop, List.append_nil]
    exact ⟨[line], .single hne hfits, rfl⟩
  | cons word listWords ih =>
    have htext : lineText strIndent (line ++ [word]) = lineText strIndent line ++ ' ' :: word := by
      rw [lineText, intercalate_concat ' ' hne, lineText, List.append_assoc]
    rw [wrapLoop]
    dsimp only
    split
    next hroom =>
      have hmore : (lineText strIndent (line ++ [word])).length ≤ width := by
        rw [htext, List.length_append, List.length_cons]
        omega
      have hlonger : line ++ [word] ≠ [] := by simp
      obtain ⟨lines, hwrapped, hprinted⟩ := ih hlonger fun _ => hmore
      rw [List.append_assoc, List.singleton_append] at hwrapped
      rw [← htext]
      exact ⟨lines, hwrapped, hprinted⟩
    next hroom =>
      -- the line is printed, and the word begins the next one
      have hfirst : strIndent ++ word = lineText strIndent [word] := by rw [lineText, List.intercalate_singleton]
      obtain ⟨lines, hwrapped, hprinted⟩ := ih (List.cons_ne_nil word []) fun htwo => by
        rw [List.length_singleton] at htwo
        omega
      rw [wrapLoop, hfirst]
      refine ⟨line :: lines, hwrapped.cons hne hfits (by omega), ?_⟩
      rw [List.cons_append, hprinted, List.map_cons]

/-- A line with a word is not empty. -/
theorem lineText_ne_nil {line : List (List Char)} (hne : line ≠ []) (h : ∀ word ∈ line, word ≠ []) :
    lineText strIndent line ≠ [] := by
  obtain ⟨word, rest, rfl⟩ := List.exists_cons_of_ne_nil hne
  have hword := h word List.mem_cons_self
  unfold lineText
  cases rest with
  | nil => simp [List.intercalate_singleton, hword]
  | cons next rest => simp [List.intercalate_cons_cons]

/-- A paragraph without words is an empty line; the others are wrapped. -/
theorem printParagraph_wrapped (hwidth : 1 ≤ width) (psz : List Char) :
    (textWords psz = [] ∧ printParagraph psz width = [[]]) ∨
    ∃ indent lines, IsWrapped width (lineText (List.replicate indent ' ')) (textWords psz) lines ∧
      printParagraph psz width = lines.map (lineText (List.replicate indent ' ')) := by
  have hpositive : ¬ width ≤ 0 := by omega
  unfold printParagraph
  rw [if_neg hpositive, splitParagraphIntoWords_eq]
  dsimp only
  generalize (if (psz.takeWhile PrettyPrint.isWhitespace).length ≥ width then width - 1
    else (psz.takeWhile PrettyPrint.isWhitespace).length) = indent
  cases hwords : textWords psz with
  | nil =>
    left
    rw [wrapLoop]
    exact ⟨rfl, rfl⟩
  | cons word listWords =>
    right
    have hfirst : List.replicate indent ' ' ++ word = lineText (List.replicate indent ' ') [word] := by
      rw [lineText, List.intercalate_singleton]
    obtain ⟨lines, hwrapped, hprinted⟩ := wrapLoop_wrapped width (List.replicate indent ' ') listWords
      (List.cons_ne_nil word []) fun htwo => by
        rw [List.length_singleton] at htwo
        omega
    rw [wrapLoop, hfirst]
    refine ⟨indent, lines, hwrapped, ?_⟩
    have hlast : (wrapLoop width (List.replicate indent ' ') listWords false
        (lineText (List.replicate indent ' ') [word])).2 ≠ [] := by
      obtain ⟨line, hline, hsame⟩ := List.mem_map.mp (hprinted ▸ List.mem_append_right _ List.mem_cons_self)
      rw [← hsame]
      refine lineText_ne_nil (hwrapped.nonempty line hline) fun w hw => ?_
      have hmem := List.mem_flatten_of_mem hline hw
      rw [hwrapped.flatten, List.singleton_append, ← hwords] at hmem
      exact (mem_textWords hmem).1
    rw [← hprinted, if_pos (.inl (List.length_pos_iff.mpr hlast))]

/-! ## The printed lines -/

/-- The words of a printed line are those it was made of. -/
theorem textWords_lineText {psz : List Char} {indent : Nat} {lines : List (List (List Char))}
    (h : IsWrapped width (lineText (List.replicate indent ' ')) (textWords psz) lines) :
    ∀ line ∈ lines, textWords (lineText (List.replicate indent ' ') line) = line := by
  intro line hline
  unfold textWords lineText
  have hindent : ∀ x ∈ List.replicate indent ' ', PrettyPrint.isWhitespace x = true := by
    intro x hx
    rw [List.eq_of_mem_replicate hx]
    rfl
  rw [words_append_of_blank hindent]
  refine words_intercalate rfl fun w hw => ?_
  have hmem := List.mem_flatten_of_mem hline hw
  rw [h.flatten] at hmem
  exact mem_textWords hmem

theorem printParagraph_words (hwidth : 1 ≤ width) (psz : List Char) :
    (printParagraph psz width).flatMap textWords = textWords psz := by
  rcases printParagraph_wrapped hwidth psz with ⟨hnone, hprinted⟩ | ⟨indent, lines, hwrapped, hprinted⟩
  · rw [hprinted, hnone]
    rfl
  · have hlines := textWords_lineText hwrapped
    rw [hprinted, List.flatMap_map, ← hwrapped.flatten, List.flatMap_congr hlines]
    exact List.flatMap_id

theorem printParagraph_wraps (hwidth : 1 ≤ width) (psz : List Char) : WrapsParagraph width (printParagraph psz width) := by
  rcases printParagraph_wrapped hwidth psz with ⟨hnone, hprinted⟩ | ⟨indent, lines, hwrapped, hprinted⟩
  · rw [hprinted]
    refine ⟨?_, .singleton []⟩
    intro line hline hlong
    obtain rfl := List.mem_singleton.mp hline
    exact absurd hlong (by simp)
  · have hlines := textWords_lineText hwrapped
    rw [hprinted]
    refine ⟨?_, ?_⟩
    · intro text htext hlong
      obtain ⟨line, hline, rfl⟩ := List.mem_map.mp htext
      rw [hlines line hline]
      have hsome := List.length_pos_iff.mpr (hwrapped.nonempty line hline)
      have hfew : ¬ 2 ≤ line.length := fun htwo => absurd (hwrapped.fits line hline htwo) (by omega)
      omega
    · rw [List.isChain_map]
      refine hwrapped.full.imp_of_mem_imp fun line next hline hnext hfull => ?_
      obtain ⟨word, rest, rfl⟩ := List.exists_cons_of_ne_nil (hwrapped.nonempty next hnext)
      exact ⟨word, rest, hlines _ hnext, hfull word rfl⟩

end Loop

/-- For every text and every width: the printed lines have the words of the text, a line that is longer than the width is a
single word, and what is printed are groups of lines, one for each paragraph with its words, in which every line break
is necessary. -/
theorem prettyPrint_wraps (pszInput : List Char) {width : Nat} (hwidth : 1 ≤ width) :
    (prettyPrint pszInput width).flatMap textWords = textWords pszInput ∧
    (∀ line ∈ prettyPrint pszInput width, width < line.length → (textWords line).length = 1) ∧
    ∃ groups : List (List (List Char)), prettyPrint pszInput width = groups.flatten ∧
      List.Forall₂ (fun paragraph group => WrapsParagraph width group ∧ group.flatMap textWords = textWords paragraph)
        (splitInputIntoParagraphs pszInput) groups := by
  refine ⟨?_, ?_, ?_⟩
  · rw [prettyPrint, List.flatMap_assoc, ← textWords_paragraphs pszInput]
    exact List.flatMap_congr fun paragraph _ => printParagraph_words hwidth paragraph
  · intro line hline hlong
    obtain ⟨paragraph, -, hprinted⟩ := List.mem_flatMap.mp hline
    exact (printParagraph_wraps hwidth paragraph).fits line hprinted hlong
  · refine ⟨(splitInputIntoParagraphs pszInput).map fun paragraph => printParagraph paragraph width, List.flatMap_def, ?_⟩
    rw [List.forall₂_map_right_iff, List.forall₂_same]
    intro paragraph _
    exact ⟨printParagraph_wraps hwidth paragraph, printParagraph_words hwidth paragraph⟩

/-- Two paragraphs at a width of seven: the first one fits with its indent, the second one does not. -/
theorem prettyPrint_wraps_seven :
    prettyPrint "  a nat\nfor stun".toList 7 = ["  a nat".toList, "for".toList, "stun".toList] ∧
    ∃ groups : List (List (List Char)), ["  a nat".toList, "for".toList, "stun".toList] = groups.flatten ∧
      List.Forall₂ (fun paragraph group => WrapsParagraph 7 group ∧ group.flatMap textWords = textWords paragraph)
        ["  a nat".toList, "for stun".toList] groups := by
  have hparagraphs : splitInputIntoParagraphs "  a nat\nfor stun".toList = ["  a nat".toList, "for stun".toList] := by
    simp [splitInputIntoParagraphs, lines, skipBreak, isLineBreak]
  have hindented : printParagraph "  a nat".toList 7 = ["  a nat".toList] := by
    have hwords : textWords "  a nat".toList = ["a".toList, "nat".toList] := by decide
    have hindent : ("  a nat".toList.takeWhile PrettyPrint.isWhitespace).length = 2 := by decide
    rw [printParagraph, splitParagraphIntoWords_eq, hwords, hindent]
    simp [wrapLoop]
  have hbroken : printParagraph "for stun".toList 7 = ["for".toList, "stun".toList] := by
    have hwords : textWords "for stun".toList = ["for".toList, "stun".toList] := by decide
    have hindent : ("for stun".toList.takeWhile PrettyPrint.isWhitespace).length = 0 := by decide
    rw [printParagraph, splitParagraphIntoWords_eq, hwords, hindent]
    simp [wrapLoop]
  have hprinted : prettyPrint "  a nat\nfor stun".toList 7 = ["  a nat".toList, "for".toList, "stun".toList] := by
    rw [prettyPrint, hparagraphs, List.flatMap_cons, List.flatMap_singleton, hindented, hbroken]
    rfl
  obtain ⟨-, -, hgroups⟩ := prettyPrint_wraps "  a nat\nfor stun".toList (show 1 ≤ 7 by decide)
  rw [hprinted, hparagraphs] at hgroups
  exact ⟨hprinted, hgroups⟩

end NatTester.Guarantees
