import FrameEval.Json.Basic
import FrameEval.Text.Numeral

/-!
# Writing JSON

The text of a value without white space.  A string escapes quotes, backslashes and control
characters.  A real is written with the fewest digits that read back: positionally between
1e-5 and 1e16, always with a decimal point there, and outside with an exponent that bears its
sign.
-/

namespace FrameEval.Json

/-- One character of a string. -/
def escape (letter : Char) : String :=
  match letter with
  | '"' => "\\\""
  | '\\' => "\\\\"
  | '\x08' => "\\b"
  | '\x0c' => "\\f"
  | '\n' => "\\n"
  | '\r' => "\\r"
  | '\t' => "\\t"
  | _ =>
      if letter.toNat < 0x10 then "\\u000" ++ Text.hex letter.toNat
      else if letter.toNat < 0x20 then "\\u00" ++ Text.hex letter.toNat
      else String.singleton letter

/-- A string in quotes. -/
def quoted (text : String) : String :=
  "\"" ++ String.join (text.toList.map escape) ++ "\""

/-- A decimal number: positional where its point lies near its digits, else with an exponent. -/
def decimalText (decimal : Binary.Decimal) : String :=
  let point := decimal.pointPosition
  if 0 ≤ decimal.exponent ∧ point ≤ 16 then decimal.positional ++ ".0"
  else if -5 < point ∧ point ≤ 16 then decimal.positional
  else
    let digits := decimal.digits
    let fraction := if digits.length ≤ 1 then [] else '.' :: digits.drop 1
    let sign := if point < 1 then "-" else "+"
    String.ofList (digits.take 1 ++ fraction) ++ s!"e{sign}{(point - 1).natAbs}"

/-- A real; what has no digits is written as null. -/
def realText (value : Double) : String :=
  match value.datum with
  | .finite negative significand exponent =>
      let magnitude :=
        if significand = 0 then "0.0"
        else decimalText (Binary.Format.double.shortest .toEven significand exponent)
      if negative then "-" ++ magnitude else magnitude
  | _ => "null"

/-- A number. -/
def numberText : Number → String
  | .natural value => toString value.toNat
  | .negative value => toString value.toInt
  | .real value => realText value

mutual

/-- The text of a value. -/
def print : Json → String
  | null => "null"
  | bool true => "true"
  | bool false => "false"
  | number value => numberText value
  | string value => quoted value
  | array items => "[" ++ String.intercalate "," (printItems items) ++ "]"
  | object members => "\x7b" ++ String.intercalate "," (printMembers members) ++ "\x7d"

/-- The texts of the items of an array. -/
def printItems : List Json → List String
  | [] => []
  | item :: rest => print item :: printItems rest

/-- The texts of the members of an object. -/
def printMembers : List (String × Json) → List String
  | [] => []
  | (name, value) :: rest => (quoted name ++ ":" ++ print value) :: printMembers rest

end

end FrameEval.Json
