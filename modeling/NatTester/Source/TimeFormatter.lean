import NatTester.Lib.Double
import NatTester.Source.StringHelper

/-!
# TimeFormatter

`TimeFormatter.java`: durations as texts, and texts read as durations. A formatter is
its `delta`. Quotients are those of doubles; a text is the list of its `char`s.
-/
namespace NatTester.Source
open NatTester.Lib

/-- A number, as arithmetic on `long` leaves it. -/
def asLong (n : Int) : Int := n.bmod 0x10000000000000000

theorem asLong_of_long {n : Int} (hlow : -0x8000000000000000 ≤ n) (hhigh : n < 0x8000000000000000) : asLong n = n := by
  unfold asLong
  exact Int.bmod_eq_of_le (by omega) (by omega)

namespace TimeFormatter

def SECOND : Int := 1000
def MINUTE : Int := SECOND * 60
def HOUR : Int := MINUTE * 60
def DAY : Int := HOUR * 24
def YEAR : Int := DAY * 365
def CEILING_PERCENTAGE : Int := 15

/-- The constructor: `Math.abs(delta)`. -/
def ofLong (delta : Int) : Int := asLong delta.natAbs

/-! ## Reading -/

inductive State where
  | number | ignored | unit
  deriving DecidableEq, Repr

def getState (c : Char) : State :=
  if c.isDigit then .number
  else if c ∈ ['s', 'm', 'h', 'd', 'y', 'S', 'M', 'H', 'D', 'Y'] then .unit
  else .ignored

/-- `delta += unit * Math.abs(n)` -/
def times (unit delta n : Int) : Int := asLong (delta + asLong (unit * asInt n.natAbs))

def y (delta n : Int) : Int := times YEAR delta n
def d (delta n : Int) : Int := times DAY delta n
def h (delta n : Int) : Int := times HOUR delta n
def m (delta n : Int) : Int := times MINUTE delta n
def s (delta n : Int) : Int := times SECOND delta n
def ms (delta n : Int) : Int := times 1 delta n

def nTimes (delta : Int) (unit : List Char) (n : Int) : Int :=
  let unit := unit.map Char.toLower
  if unit = ['m', 's'] then ms delta n
  else if unit = ['s'] then s delta n
  else if unit = ['m'] then m delta n
  else if unit = ['h'] then h delta n
  else if unit = ['d'] then d delta n
  else if unit = ['y'] then y delta n
  else delta

/-- `Integer.parseInt` of a run of digits; `none` is its exception. -/
def parseInt (digits : List Char) : Option Int :=
  let n := Nat.ofDigitChars 10 digits 0
  if n ≤ 0x7fffffff then some n else none

def subSequence (s : List Char) (start stop : Nat) : List Char := (s.drop start).take (stop - start)

/-- The variables of `eval`; `stop` is its `end`. -/
structure Evaluation where
  out : Int
  num : Int
  start : Nat
  stop : Nat
  oldState : State
  deriving Repr

/-- What `eval` does with the characters of one state, when another follows. -/
def endToken (s : List Char) (e : Evaluation) : Option Evaluation :=
  match e.oldState with
  | .number => (parseInt (subSequence s e.start e.stop)).map fun num => { e with num }
  | .unit => some { e with out := nTimes e.out (subSequence s e.start e.stop) e.num, num := 0 }
  | .ignored => some e

/-- The loop of `eval`, for one character. -/
def evalChar (s : List Char) (e : Evaluation) (c : Char) : Option Evaluation :=
  let newState := getState c
  let e := if e.oldState ≠ newState then (endToken s e).map fun e => { e with start := e.stop } else some e
  e.map fun e => { e with stop := e.stop + 1, oldState := newState }

/-- What `eval` does behind its loop. -/
def evalEnd (s : List Char) (e : Evaluation) : Int :=
  if e.oldState = .unit then nTimes e.out (subSequence s e.start e.stop) e.num else e.out

/-- `eval(s).getDelta()`; `none` is an exception. -/
def eval (s : List Char) : Option Int := (s.foldlM (evalChar s) ⟨0, 0, 0, 0, .ignored⟩).map (evalEnd s)

/-! ## Writing -/

/-- The conversion of a `double` without fraction to `int`. -/
def toInt (n : Int) : Int := max (-0x80000000) (min n 0x7fffffff)

def upperCeiling (x : Int) : Int := (x / 100) * (100 - CEILING_PERCENTAGE)
def lowerCeiling (x : Int) : Int := (x / 100) * CEILING_PERCENTAGE

def ceil (d n : Int) : String := toString (toInt ⌈double (double d / double n)⌉)
def floor (d n : Int) : String := toString (toInt ⌊double (double d / double n)⌋)

/-- The variables of `getExactly`. -/
structure Exact where
  a : String
  prependBlank : Bool
  d : Int

def Exact.append (p : Exact) (number unit : String) : Exact :=
  { p with a := (if p.prependBlank then p.a ++ " " else p.a) ++ number ++ unit, prependBlank := true }

/-- One unit of `getExactly`, and the rest of the duration. -/
def exactUnit (n : Int) (unit : String) (p : Exact) : Exact :=
  let p := if p.d ≥ n then p.append (floor p.d n) unit else p
  { p with d := p.d.tmod n }

def getExactly (delta : Int) : String :=
  let p : Exact := ⟨"", false, delta⟩
  let p := exactUnit YEAR "y" p
  let p := exactUnit DAY "d" p
  let p := exactUnit HOUR "h" p
  let p := exactUnit MINUTE "m" p
  let p := exactUnit SECOND "s" p
  let p := if p.d > 0 then p.append (toString (asInt p.d)) "ms" else p
  p.a

/-- The variables of `getApproximately`. -/
structure Approximate where
  a : String
  parts : Nat
  rounded : Bool
  prependBlank : Bool
  d : Int

def Approximate.append (p : Approximate) (number unit : String) : Approximate :=
  { p with a := (if p.prependBlank then p.a ++ " " else p.a) ++ number ++ unit, prependBlank := true }

/-- One level of `getApproximately`. The years and the days come before anything is rounded, and leave `!rounded` out. -/
def approximateUnit (n : Int) (unit : String) (p : Approximate) : Approximate :=
  let mod := p.d.tmod n
  if mod ≥ upperCeiling n then { p.append (ceil p.d n) unit with parts := p.parts + 1, rounded := true }
  else if p.d ≥ n ∧ p.rounded = false then
    { p.append (floor p.d n) unit with parts := p.parts + 1, rounded := mod ≤ lowerCeiling n }
  else p

/-- `d %= n` -/
def Approximate.rest (p : Approximate) (n : Int) : Approximate := { p with d := p.d.tmod n }

def getApproximately (delta : Int) : String :=
  let p := approximateUnit YEAR "y" ⟨"", 0, false, false, delta⟩
  if p.rounded then p.a
  else
    let p := approximateUnit DAY "d" (p.rest YEAR)
    if p.parts < 2 then
      let p := approximateUnit HOUR "h" (p.rest DAY)
      if p.parts < 2 then
        let p := approximateUnit MINUTE "m" (p.rest HOUR)
        if p.parts < 2 then
          let p := approximateUnit SECOND "s" (p.rest MINUTE)
          if p.parts < 2 then
            let p := p.rest SECOND
            if p.d > 0 ∧ p.rounded = false then (p.append (toString (asInt p.d)) "ms").a else p.a
          else p.a
        else p.a
      else p.a
    else p.a

end TimeFormatter

end NatTester.Source
