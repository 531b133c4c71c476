import FrameEval.Text.Invisible
import FrameEval.Text.Numeral

/-!
# Quoted text

A text between double quotes in which quotes, backslashes, the common controls and every
invisible character are written as escapes, so that the quoted form is one visible line.
-/

namespace FrameEval.Text

/-- One character of a quoted text. -/
def quoteChar (letter : Char) : String :=
  match letter with
  | '"' => "\\\""
  | '\\' => "\\\\"
  | '\n' => "\\n"
  | '\r' => "\\r"
  | '\t' => "\\t"
  | '\x00' => "\\0"
  | _ =>
      if isInvisible letter then "\\u\x7b" ++ hex letter.toNat ++ "\x7d"
      else String.singleton letter

/-- A text in quotes. -/
def quote (text : String) : String :=
  "\"" ++ String.join (text.toList.map quoteChar) ++ "\""

end FrameEval.Text
