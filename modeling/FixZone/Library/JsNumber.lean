import FixZone.Library.JsText
import Mathlib.Data.Rat.Defs
import Mathlib.Algebra.Order.Field.Rat
import Mathlib.Algebra.Field.Rat

/-!
# Values as numbers

`Number(value)`, and `String(x)` of a number. Numbers are exact, where the language has floating
point ones: a numeral stands for what it says, if that is finite as such a number. A value that
stands for no finite number has none here, `NaN` and the infinities alike.
-/

namespace FixZone.Library

/-! ### Numerals -/

/-- What a digit stands for. -/
def digitOf? (radix : ℕ) (c : Char) : Option ℕ :=
  let n := if c.isDigit then c.toNat - 0x30
    else if c.isAlpha then c.toLower.toNat - 0x61 + 10
    else radix
  if n < radix then some n else none

/-- An unsigned integer, of one digit at least. -/
def readDigits? (radix : ℕ) (cs : List Char) : Option ℕ :=
  if cs.isEmpty then none
  else cs.foldlM (fun n c => (digitOf? radix c).map fun digit => radix * n + digit) 0

/-- The exponent of a decimal numeral, with or without a sign. -/
def readExponent? : List Char → Option ℤ
  | '-' :: cs => (readDigits? 10 cs).map fun n => -n
  | '+' :: cs => (readDigits? 10 cs).map fun n => n
  | cs => (readDigits? 10 cs).map fun n => n

/-- `StrUnsignedDecimalLiteral`, but for `Infinity`. -/
def readDecimal? (cs : List Char) : Option ℚ := do
  let (mantissa, power) := cs.span fun c => c ≠ 'e' ∧ c ≠ 'E'
  let (whole, fraction) := mantissa.span fun c => c ≠ '.'
  let digits ← readDigits? 10 (whole ++ fraction.tail)
  let exponent ← if power.isEmpty then some 0 else readExponent? power.tail
  return mkRat (digits * 10 ^ exponent.toNat : ℕ) (10 ^ (fraction.tail.length + (-exponent).toNat))

/-- `StrNumericLiteral`. -/
def readNumeral? : List Char → Option ℚ
  | '0' :: 'x' :: cs | '0' :: 'X' :: cs => (readDigits? 16 cs).map fun n => n
  | '0' :: 'o' :: cs | '0' :: 'O' :: cs => (readDigits? 8 cs).map fun n => n
  | '0' :: 'b' :: cs | '0' :: 'B' :: cs => (readDigits? 2 cs).map fun n => n
  | '-' :: cs => (readDecimal? cs).map fun x => -x
  | '+' :: cs => readDecimal? cs
  | cs => readDecimal? cs

/-- `Number(text)`, where that is finite: from here on a number is rounded to an infinity. -/
def textNumber? (text : String) : Option ℚ :=
  let cs := (trim text).toList
  let value? := if cs.isEmpty then some 0 else readNumeral? cs
  value?.filter fun x => |x| < (2 ^ 1024 - 2 ^ 970 : ℕ)

/-- `Number(value)`, where that is finite. -/
def finiteNumber? : Option Json → Option ℚ
  | none => none
  | some .null => some 0
  | some (.bool b) => some (if b then 1 else 0)
  | some value => value.toText.bind textNumber?

example : ["4.50", " 12 ", "", "-.5e1", "0x1F", "1e400", "4,5", "Infinity"].map textNumber? =
    [some (9 / 2), some 12, some 0, some (-5), some 31, none, none, none] := by
  decide +kernel

/-! ### Numbers as text -/

/-- How many decimals a number has that has finitely many. -/
def decimalsOf (x : ℚ) : ℕ :=
  ((List.range (x.den.log2 + 1)).find? fun n => 10 ^ n % x.den = 0).getD 0

/-- `String(x)`, of a number with finitely many decimals. -/
def numberText (x : ℚ) : String :=
  let all := Nat.toDigits 10 (|x| * (10 ^ decimalsOf x : ℕ)).num.natAbs
  let digits := (all.reverse.dropWhile (· = '0')).reverse
  let point : ℤ := all.length - decimalsOf x
  let text :=
    if x = 0 then ['0']
    else if digits.length ≤ point ∧ point ≤ 21 then
      digits ++ List.replicate (point - digits.length).toNat '0'
    else if 0 < point ∧ point ≤ 21 then
      digits.take point.toNat ++ '.' :: digits.drop point.toNat
    else if -6 < point ∧ point ≤ 0 then
      '0' :: '.' :: List.replicate (-point).toNat '0' ++ digits
    else
      (if digits.length = 1 then digits else digits.take 1 ++ '.' :: digits.drop 1) ++
        'e' :: (if point < 1 then '-' else '+') :: Nat.toDigits 10 (point - 1).natAbs
  String.ofList (if x < 0 then '-' :: text else text)

/-- A number as it is stored in a column: `NaN` and the infinities are `null`. -/
def numberJson (x : Option ℚ) : Json := (x.map fun x => Json.num (numberText x)).getD .null

example : [0, 7, -5 / 4, 1 / 100, 1200, 10 ^ 21, 3 / 2 * 10 ^ 22, 1 / 10 ^ 7].map numberText =
    ["0", "7", "-1.25", "0.01", "1200", "1e+21", "1.5e+22", "1e-7"] := by
  decide +kernel

end FixZone.Library
