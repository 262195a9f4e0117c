import Flowchart.Json.Reader

/-!
# JSON numbers

A number without point and exponent is a whole number if it fits into 64
bits, and any other number is a double. Its digits are collected in a
64 bit significand: once that is full, further digits before the point
count as powers of ten and those behind it are dropped. The double is
the significand scaled by the exponent in floating point, so it is not
always the double nearest to the number.
-/

namespace Flowchart.Json

/-- A number, by what it is written as. -/
inductive Number where
  /-- A whole number from 0 up to `2 ^ 64 - 1`. -/
  | natural (value : Nat)
  /-- A negative whole number down to `-2 ^ 63`, given without its sign. -/
  | negative (value : Nat)
  | real (value : Float)

/-- The double nearest to a natural number. -/
def doubleOfNat (n : Nat) : Float :=
  Double.signed false (Double.nearestBits n 1)

/-- The double that a number stands for. -/
def Number.toDouble : Number → Float
  | .natural value => doubleOfNat value
  | .negative value => -doubleOfNat value
  | .real value => value

/-- The number as found in place of another kind of value. -/
def Number.found : Number → Found
  | .natural value => .whole value
  | .negative value => .whole (-value)
  | .real value => .real value

/-- The bound below which significands stay. -/
def significandBound : Nat := Nat.pow 2 64

/-- The value of a decimal digit. -/
def digitValue (c : Char) : Nat :=
  c.toNat - '0'.toNat

/-- Takes digits before the point into a significand. The second number
counts the digits that no longer fit. -/
def takeWhole (significand dropped : Nat) : List Char → Nat × Nat
  | [] => (significand, dropped)
  | c :: digits =>
    let next := significand * 10 + digitValue c
    if dropped = 0 && next < significandBound then takeWhole next 0 digits
    else takeWhole significand (dropped + 1) digits

/-- Takes digits behind the point into a significand, up to the first that
does not fit. The second number counts the digits taken. -/
def takeFraction (significand taken : Nat) : List Char → Nat × Nat
  | [] => (significand, taken)
  | c :: digits =>
    let next := significand * 10 + digitValue c
    if next < significandBound then takeFraction next (taken + 1) digits
    else (significand, taken)

/-- The bound below which exponents are read. -/
def exponentBound : Nat := Nat.pow 2 31

/-- Takes the digits of an exponent. Of an exponent that is too large nothing
is known but the digits behind the one that made it so. -/
def takeExponent (exponent : Nat) : List Char → Except (List Char) Nat
  | [] => .ok exponent
  | c :: digits =>
    let next := exponent * 10 + digitValue c
    if next < exponentBound then takeExponent next digits else .error digits

/-- A power of ten as a double. -/
def powerOfTen (n : Nat) : Float :=
  Double.ofDecimal false 1 n

/-- A double times a power of ten; nothing if that is too large. Powers are
taken in steps of at most 308. -/
def scale? (x : Float) (exponent : Int) : Option Float :=
  if exponent.natAbs ≤ 308 then
    if 0 ≤ exponent then
      let product := x * powerOfTen exponent.natAbs
      if product.isInf then none else some product
    else some (x / powerOfTen exponent.natAbs)
  else if x == 0.0 then some x
  else if 0 ≤ exponent then none
  else scale? (x / powerOfTen 308) (exponent + 308)
termination_by exponent.natAbs
decreasing_by omega

/-- The double of a significand and an exponent, ahead of the given text. -/
def assemble (negative : Bool) (significand : Nat) (exponent : Int) (rest : List Char) :
    Except Fault (Number × List Char) :=
  match scale? (doubleOfNat significand) exponent with
  | some x => .ok (.real (if negative then -x else x), rest)
  | none => faultAt .numberOutOfRange rest

/-- An exponent, behind the letter that announces it. -/
def readExponent (negative : Bool) (significand : Nat) (exponent : Int) (input : List Char) :
    Except Fault (Number × List Char) :=
  let (down, input) := match input with
    | '+' :: rest => (false, rest)
    | '-' :: rest => (true, rest)
    | other => (false, other)
  match input with
  | [] => faultAt .endInValue []
  | c :: _ =>
    if !c.isDigit then faultIn .badNumber input
    else
      let digits := input.takeWhile Char.isDigit
      let rest := input.dropWhile Char.isDigit
      match takeExponent 0 digits with
      | .ok e => assemble negative significand (if down then exponent - e else exponent + e) rest
      | .error unread =>
        if significand ≠ 0 && !down then faultAt .numberOutOfRange (unread ++ rest)
        else .ok (.real (Double.signed negative 0), rest)

/-- What may follow the digits of a number: an exponent, or nothing. -/
def readScale (negative : Bool) (significand : Nat) (exponent : Int) (input : List Char) :
    Except Fault (Number × List Char) :=
  match input with
  | 'e' :: rest => readExponent negative significand exponent rest
  | 'E' :: rest => readExponent negative significand exponent rest
  | rest => assemble negative significand exponent rest

/-- The digits behind the point. -/
def readFraction (negative : Bool) (significand dropped : Nat) (input : List Char) :
    Except Fault (Number × List Char) :=
  let digits := input.takeWhile Char.isDigit
  let rest := input.dropWhile Char.isDigit
  if digits.isEmpty then
    match rest with
    | [] => faultAt .endInValue []
    | _ => faultIn .badNumber rest
  else
    let (significand, taken) := takeFraction significand 0 digits
    readScale negative significand (dropped - taken) rest

/-- A whole number that has been read without point and exponent. -/
def Number.ofWhole (negative : Bool) (value : Nat) : Number :=
  if !negative then .natural value
  else if value = 0 || Nat.pow 2 63 < value then .real (-doubleOfNat value)
  else .negative value

/-- A number, behind its sign. -/
def number (negative : Bool) (input : List Char) : Except Fault (Number × List Char) :=
  match input with
  | [] => faultAt .endInValue []
  | c :: tail =>
    if !c.isDigit then faultIn .badNumber input
    else if c = '0' && tail.head?.any Char.isDigit then faultIn .badNumber tail
    else
      let (significand, dropped) := takeWhole 0 0 (input.takeWhile Char.isDigit)
      match input.dropWhile Char.isDigit with
      | '.' :: rest => readFraction negative significand dropped rest
      | 'e' :: rest => readExponent negative significand dropped rest
      | 'E' :: rest => readExponent negative significand dropped rest
      | rest =>
        if dropped = 0 then .ok (.ofWhole negative significand, rest)
        else assemble negative significand dropped rest

end Flowchart.Json
