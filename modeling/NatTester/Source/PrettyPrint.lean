import NatTester.Lib.Lines

/-!
# PrettyPrint

`prettyprint.cpp`. A text is the list of its characters, without the NUL behind them.
What is printed is the list of the lines, each with a line feed behind it.
-/
namespace NatTester.Source.PrettyPrint
open NatTester.Lib

/-- `IsWhitespace` -/
def isWhitespace (ch : Char) : Bool := ch = ' ' ∨ ch = '\t' ∨ ch = Char.ofNat 11 ∨ ch = '\r' ∨ ch = '\n'

/-- `SplitParagraphIntoWords`: skip white space, take the characters up to the next. -/
def splitParagraphIntoWords (pszLine : List Char) : List (List Char) :=
  match _h : pszLine.dropWhile isWhitespace with
  | [] => []
  | ch :: rest =>
    ((ch :: rest).takeWhile fun ch => !isWhitespace ch) ::
      splitParagraphIntoWords ((ch :: rest).dropWhile fun ch => !isWhitespace ch)
termination_by pszLine.length
decreasing_by
  have hskipped := (List.dropWhile_sublist isWhitespace (l := pszLine)).length_le
  have hkept : isWhitespace ch = false := by simpa [_h] using List.head?_dropWhile_not isWhitespace pszLine
  have htaken := (List.dropWhile_sublist (fun ch => !isWhitespace ch) (l := rest)).length_le
  rw [_h, List.length_cons] at hskipped
  rw [List.dropWhile_cons_of_pos (by simp [hkept])]
  omega

/-- `SplitInputIntoParagraphs`: scan to the next CR or LF, and over a pair of them. -/
def splitInputIntoParagraphs (pszInput : List Char) : List (List Char) := lines pszInput

/-- The loop of `PrintParagraph` over the words that are left: the lines it prints, and `strLine` behind it. A word that does
not fit is looked at again, with `fLineStart` set. -/
def wrapLoop (width : Nat) (strIndent : List Char) : List (List Char) → Bool → List Char → List (List Char) × List Char
  | [], _, strLine => ([], strLine)
  | word :: listWords, true, _ => wrapLoop width strIndent listWords false (strIndent ++ word)
  | word :: listWords, false, strLine =>
    let newsize := strLine.length + 1 + word.length
    if newsize ≤ width then wrapLoop width strIndent listWords false (strLine ++ ' ' :: word)
    else
      let (printed, last) := wrapLoop width strIndent (word :: listWords) true strLine
      (strLine :: printed, last)
termination_by listWords fLineStart => (listWords.length, if fLineStart then 0 else 1)

/-- `PrintParagraph`: the printed lines. -/
def printParagraph (psz : List Char) (width : Nat) : List (List Char) :=
  if width ≤ 0 then []
  else
    let indent := (psz.takeWhile isWhitespace).length
    let listWords := splitParagraphIntoWords psz
    let indent := if indent ≥ width then width - 1 else indent
    let strIndent := List.replicate indent ' '
    let (printed, strLine) := wrapLoop width strIndent listWords true []
    if strLine.length > 0 ∨ listWords.length = 0 then printed ++ [strLine] else printed

def prettyPrint (pszInput : List Char) (width : Nat) : List (List Char) :=
  (splitInputIntoParagraphs pszInput).flatMap fun paragraph => printParagraph paragraph width

end NatTester.Source.PrettyPrint
