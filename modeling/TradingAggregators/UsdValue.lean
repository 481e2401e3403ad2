import TradingAggregators.Error

/-!
# `usd_value.rs`

What a trade pays and gets back in USD.  The values are display-only: nothing that is
built, signed or sent depends on them.
-/

namespace TradingAggregators

/-! ## Reading a number -/

/-- Read decimal digits off the front: their value, how many there were, and the rest. -/
def takeDigits : List Char → ℕ → ℕ → ℕ × ℕ × List Char
  | [], n, count => (n, count, [])
  | c :: cs, n, count =>
      if '0' ≤ c ∧ c ≤ '9' then takeDigits cs (n * 10 + (c.toNat - '0'.toNat)) (count + 1)
      else (n, count, c :: cs)

/-- The exponent part of a decimal number, up to the end of the text. -/
def parseExponent : List Char → Option Int
  | [] => some 0
  | e :: cs => do
      guard (e = 'e' ∨ e = 'E')
      let (negative, digits) := match cs with
        | '-' :: ds => (true, ds)
        | '+' :: ds => (false, ds)
        | ds => (false, ds)
      let (n, count, rest) := takeDigits digits 0 0
      guard (count ≠ 0 ∧ rest = [])
      pure (if negative then -(n : Int) else n)

/-- A number without its sign. -/
def parseMagnitude (cs : List Char) : Option Float :=
  let name := String.ofList (cs.map Char.toLower)
  if name = "inf" ∨ name = "infinity" then some (1.0 / 0.0)
  else if name = "nan" then some (0.0 / 0.0)
  else do
    let (whole, wholeCount, rest) := takeDigits cs 0 0
    let (mantissa, fractionCount, rest) := match rest with
      | '.' :: ds =>
          let (m, count, rest) := takeDigits ds whole 0
          (m, count, rest)
      | ds => (whole, 0, ds)
    guard (wholeCount + fractionCount ≠ 0)
    let exponent := (← parseExponent rest) - fractionCount
    pure (Float.ofScientific mantissa (exponent < 0) exponent.natAbs)

/-- `str::parse::<f64>`, without the text of its error. -/
def parseF64 (s : String) : Option Float :=
  match s.toList with
  | '-' :: cs => (parseMagnitude cs).map fun x => -x
  | '+' :: cs => parseMagnitude cs
  | cs => parseMagnitude cs

/-! ## The value of a trade -/

/-- What a trade pays and gets back in USD, as priced by the quote's provider: both finite,
the paid amount positive and the received one not negative. -/
structure UsdValue where
  paid : Float
  received : Float
  valid : (paid.isFinite && paid > 0 && received.isFinite && received >= 0) = true

namespace UsdValue

def new (paid received : Float) : Option UsdValue :=
  if h : (paid.isFinite && paid > 0 && received.isFinite && received >= 0) = true then
    some ⟨paid, received, h⟩
  else none

/-- Providers may omit either side; both are needed to show a loss. -/
def fromReported (paid received : Option Float) : Option UsdValue := do
  new (← paid) (← received)

end UsdValue
end TradingAggregators
