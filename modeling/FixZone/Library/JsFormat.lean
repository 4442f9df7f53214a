import FixZone.Library.JsText
import Mathlib.Algebra.Order.Floor.Ring
import Mathlib.Data.Rat.Floor

/-!
# Numbers and values as text

`Math.round` and `toFixed`, of numbers that are computed exactly, and `JSON.stringify`.
-/

namespace FixZone.Library

/-! ### Rounding -/

/-- `Math.round(x)`: to the nearest integer, the larger one of two. -/
def mathRound (x : ℚ) : ℤ := ⌊x + 1 / 2⌋

/-- The absolute value in units of the last of `digits` decimals, the larger one of two. -/
def fixedUnits (digits : ℕ) (x : ℚ) : ℕ := (mathRound (|x| * 10 ^ digits)).toNat

/-- `x.toFixed(digits)`, for some digits and a number below `10 ** 21`. -/
def toFixed (digits : ℕ) (x : ℚ) : String :=
  let units := fixedUnits digits x
  (if x < 0 then "-" else "") ++ toString (units / 10 ^ digits) ++ "." ++
    padded digits (units % 10 ^ digits)

/-- A character within a JSON string. -/
def quotedChar (c : Char) : String :=
  if c.toNat = 0x22 then "\\\""
  else if c.toNat = 0x5C then "\\\\"
  else if c.toNat = 0x8 then "\\b"
  else if c.toNat = 0x9 then "\\t"
  else if c.toNat = 0xA then "\\n"
  else if c.toNat = 0xC then "\\f"
  else if c.toNat = 0xD then "\\r"
  else if c.toNat < 0x20 then
    "\\u00" ++ toString (c.toNat / 16) ++ String.ofList (Nat.toDigits 16 (c.toNat % 16))
  else String.singleton c

/-- A text as a JSON string. -/
def quoted (s : String) : String := "\"" ++ String.join (s.toList.map quotedChar) ++ "\""

namespace Json

mutual

/-- `JSON.stringify(value)`. -/
def stringify : Json → String
  | .null => "null"
  | .bool b => if b then "true" else "false"
  | .num text => text
  | .str s => quoted s
  | .arr items => "[" ++ ",".intercalate (itemTexts items) ++ "]"
  | .obj fields => "\x7b" ++ ",".intercalate (fieldTexts fields) ++ "\x7d"

/-- The items of an array. -/
def itemTexts : List Json → List String
  | [] => []
  | item :: items => stringify item :: itemTexts items

/-- The fields of an object. -/
def fieldTexts : List (String × Json) → List String
  | [] => []
  | (name, value) :: fields => (quoted name ++ ":" ++ stringify value) :: fieldTexts fields

end

end Json

end FixZone.Library
