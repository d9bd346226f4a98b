/-! The shortest decimal that a binary64 number is the nearest one to. -/

namespace TodoMarkers

/-- A decimal number: its digits times a power of ten. -/
structure Decimal where
  /-- The digits, as a natural number. -/
  digits : Nat
  /-- The power of ten. -/
  exponent : Int
  deriving DecidableEq, Repr

namespace Decimal

/-- The numbers that round to a binary64 number, in quarters of a power of two. -/
structure Interval where
  /-- The lower end. -/
  low : Nat
  /-- The number itself. -/
  middle : Nat
  /-- The upper end. -/
  high : Nat
  /-- The power of two that is counted in quarters. -/
  exponent : Int
  /-- Whether the ends round to the number as well. -/
  closed : Bool

/-- The interval of a finite binary64 number's magnitude, given its bits without the sign. -/
def Interval.ofBits (bits : Nat) : Interval :=
  let fraction := bits % Nat.pow 2 52
  let biased := bits / Nat.pow 2 52
  let significand := if biased = 0 then fraction else fraction + Nat.pow 2 52
  let exponent : Int := (max biased 1 : Nat) - 1075
  -- Below a power of two the numbers lie twice as close.
  let gap := if fraction = 0 ∧ 1 < biased then 1 else 2
  ⟨4 * significand - gap, 4 * significand, 4 * significand + 2, exponent - 2,
    significand % 2 = 0⟩

/-- The interval's ends and middle, and one unit of a decimal place, over a common denominator. -/
def Interval.onGrid (interval : Interval) (place : Int) : Nat × Nat × Nat × Nat :=
  let scale := Nat.pow 2 interval.exponent.toNat * Nat.pow 10 (-place).toNat
  (interval.low * scale, interval.middle * scale, interval.high * scale,
    Nat.pow 2 (-interval.exponent).toNat * Nat.pow 10 place.toNat)

/-- The multiple of a decimal place inside the interval that is nearest to its middle. -/
def Interval.nearestAt? (interval : Interval) (place : Int) : Option Decimal :=
  let (low, middle, high, unit) := interval.onGrid place
  let inside (digits : Nat) : Bool :=
    if interval.closed then low ≤ digits * unit && digits * unit ≤ high
    else low < digits * unit && digits * unit < high
  let below := middle / unit
  match inside below, inside (below + 1) with
  | false, false => none
  | true, false => some ⟨below, place⟩
  | false, true => some ⟨below + 1, place⟩
  | true, true =>
    let toBelow := middle - below * unit
    let toAbove := (below + 1) * unit - middle
    if toBelow < toAbove ∨ (toBelow = toAbove ∧ below % 2 = 0) then some ⟨below, place⟩
    else some ⟨below + 1, place⟩

/-- The coarsest place that has a hit, from a place downwards. -/
def Interval.search (interval : Interval) : Nat → Int → Decimal
  | 0, place => ⟨0, place⟩
  | steps + 1, place =>
    match interval.nearestAt? place with
    | some found => if found.digits = 0 then interval.search steps (place - 1) else found
    | none => interval.search steps (place - 1)

/-- Drops the zeros at the end of the digits. -/
def normal : Nat → Decimal → Decimal
  | 0, value => value
  | steps + 1, value =>
    if value.digits % 10 = 0 then normal steps ⟨value.digits / 10, value.exponent + 1⟩
    else value

/-- The shortest decimal of a positive finite binary64 number, given its bits. -/
def shortest (bits : Nat) : Decimal :=
  -- No binary64 number reaches 10 ^ 309, and none needs a place below 10 ^ -340.
  (Interval.search (Interval.ofBits bits) 650 309).normal 20

/-- A decimal in plain notation where its point lies near its digits, and in powers of ten
otherwise. -/
def text (value : Decimal) : String :=
  let digits := Nat.toDigits 10 value.digits
  let length : Int := digits.length
  let point := length + value.exponent
  if 0 ≤ value.exponent ∧ point ≤ 16 then
    String.ofList (digits ++ List.replicate value.exponent.toNat '0') ++ ".0"
  else if 0 < point ∧ point ≤ 16 then
    String.ofList (digits.take point.toNat ++ '.' :: digits.drop point.toNat)
  else if -5 < point ∧ point ≤ 0 then
    String.ofList (['0', '.'] ++ List.replicate (-point).toNat '0' ++ digits)
  else
    let power := "e" ++ toString (point - 1)
    match digits with
    | [digit] => String.ofList [digit] ++ power
    | first :: rest => String.ofList (first :: '.' :: rest) ++ power
    | [] => power

/-- The text of a finite binary64 number. -/
def textOfFloat (value : Float) : String :=
  let bits := value.toBits.toNat
  let sign := if Nat.pow 2 63 ≤ bits then "-" else ""
  let magnitude := bits % Nat.pow 2 63
  if magnitude = 0 then sign ++ "0.0" else sign ++ (shortest magnitude).text

end Decimal

end TodoMarkers
