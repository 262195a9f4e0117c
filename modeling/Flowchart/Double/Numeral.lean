import Flowchart.Double.Nearest

/-!
# Numerals

The numbers that may be given on a command line: an optional sign, then
decimal digits with at most one point among or around them and perhaps an
exponent, or a word for infinity or for what is not a number. A numeral
stands for the nearest double.
-/

namespace Flowchart.Double

/-- The value of decimal digits. -/
def digitsValue (digits : List Char) : Nat :=
  digits.foldl (fun n c => 10 * n + (c.toNat - '0'.toNat)) 0

/-- The digits at the front of the text, and the rest. -/
def spanDigits (text : List Char) : List Char × List Char :=
  (text.takeWhile Char.isDigit, text.dropWhile Char.isDigit)

/-- The sign at the front of the text, if there is one, and the rest. -/
def spanSign : List Char → Bool × List Char
  | '-' :: rest => (true, rest)
  | '+' :: rest => (false, rest)
  | text => (false, text)

/-- The exponent that makes up the rest of a numeral. -/
def exponent? : List Char → Option Int
  | [] => some 0
  | e :: text =>
    if e = 'e' || e = 'E' then
      let (negative, text) := spanSign text
      let (digits, rest) := spanDigits text
      if digits.isEmpty || !rest.isEmpty then none
      else some (if negative then -digitsValue digits else digitsValue digits)
    else none

/-- A numeral without sign, as digits and an exponent. -/
def unsigned? (text : List Char) : Option (Nat × Int) := do
  let (whole, rest) := spanDigits text
  let (fraction, rest) := match rest with
    | '.' :: rest => spanDigits rest
    | _ => ([], rest)
  let digits := whole ++ fraction
  if digits.isEmpty then none
  else
    let exponent ← exponent? rest
    return (digitsValue digits, exponent - fraction.length)

/-- **The double that a numeral stands for.** -/
def ofNumeral? (text : List Char) : Option Float :=
  let (negative, text) := spanSign text
  let word := text.map Char.toLower
  if word = "inf".toList || word = "infinity".toList then some (signed negative infinityBits)
  else if word = "nan".toList then some (signed negative (infinityBits + Nat.pow 2 51))
  else (unsigned? text).map fun (digits, exponent) => ofDecimal negative digits exponent

end Flowchart.Double
