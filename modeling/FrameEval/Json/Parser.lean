import FrameEval.Json.Basic
import FrameEval.Text.Numeral

/-!
# Reading JSON

Each reader takes the remaining characters and returns what it read with the rest.
A text is one value between white space; nested arrays and objects go at most 127 deep.

A number is read digit by digit into a 64-bit significand.  Integers stay exact while they
fit; all others become a double by multiplying or dividing the significand by one power of
ten, each step rounded on its own, and digits past the significand's 64 bits are dropped.
An escaped surrogate must be the first half of a pair.
-/

namespace FrameEval.Json

/-- A reader of the remaining characters. -/
abbrev Reader (α : Type) := List Char → Option (α × List Char)

/-- Drop the white space of the JSON grammar. -/
def skipSpace : List Char → List Char :=
  List.dropWhile fun letter =>
    letter = ' ' || letter = '\n' || letter = '\t' || letter = '\r'

/-- The value of a decimal digit. -/
def digit? (letter : Char) : Option Nat :=
  Text.digitValue? 10 letter

/-- Whether a character is a decimal digit. -/
def isDigit (letter : Char) : Bool :=
  (digit? letter).isSome

/-- The double nearest to a power of ten. -/
def powerOfTen (exponent : Nat) : Double :=
  .ofWord (Binary.Format.double.round false ⟨Nat.pow 10 exponent, 1⟩)

/--
The double that a significand and a decimal exponent are read as; `none` beyond the largest
one.  Exponents down to -308 take one division; each further 308 places take one more.
-/
def scaleReal? (significand : Nat) (exponent : Int) : Option Double :=
  let number := Double.ofInt significand
  if exponent ≥ 0 then
    if exponent ≤ 308 then
      let scaled := number.mul (powerOfTen exponent.toNat)
      if scaled.datum = .infinite false then none else some scaled
    else if significand = 0 then some number
    else none
  else
    let places := (-exponent).toNat
    if places ≤ 308 then some (number.div (powerOfTen places))
    else
      let coarse := (number.div (powerOfTen 308)).div (powerOfTen (min (places - 308) 308))
      some (if places ≤ 616 then coarse else Double.zero)

/-- A double with the sign in front of its digits. -/
def signedReal (negative : Bool) (magnitude : Double) : Number :=
  .real (if negative then magnitude.neg else magnitude)

/--
Digits added to a significand for as long as it stays below `2 ^ 64`: the significand, the
number of digits taken, and the rest.
-/
def takeDigits (significand taken : Nat) : List Char → Nat × Nat × List Char
  | [] => (significand, taken, [])
  | letter :: rest =>
      match digit? letter with
      | none => (significand, taken, letter :: rest)
      | some digit =>
          if significand * 10 + digit < UInt64.size then
            takeDigits (significand * 10 + digit) (taken + 1) rest
          else (significand, taken, letter :: rest)

/-- The greatest exponent that is told apart from greater ones. -/
def greatestExponent : Nat := 2147483647

/-- The exponent part after its letter, added to an exponent already counted. -/
def readExponent (negative : Bool) (significand : Nat) (exponent : Int) : Reader Number
  | letters =>
      let signed : Bool × List Char :=
        match letters with
        | '+' :: rest => (false, rest)
        | '-' :: rest => (true, rest)
        | rest => (false, rest)
      let digits := signed.2.takeWhile isDigit
      let rest := signed.2.dropWhile isDigit
      let written := digits.foldl (fun value letter => value * 10 + (digit? letter).getD 0) 0
      if digits.isEmpty then
        none
      else if written > greatestExponent then
        if significand ≠ 0 ∧ !signed.1 then none
        else some (signedReal negative Double.zero, rest)
      else
        let total := if signed.1 then exponent - written else exponent + written
        (scaleReal? significand total).map fun magnitude => (signedReal negative magnitude, rest)

/-- What may follow the digits of a real: an exponent or the end of the number. -/
def finishReal (negative : Bool) (significand : Nat) (exponent : Int) : Reader Number
  | 'e' :: rest => readExponent negative significand exponent rest
  | 'E' :: rest => readExponent negative significand exponent rest
  | rest =>
      (scaleReal? significand exponent).map fun magnitude => (signedReal negative magnitude, rest)

/-- The decimals after a point. -/
def readDecimals (negative : Bool) (significand : Nat) (exponent : Int) : Reader Number
  | letters =>
      let (total, taken, rest) := takeDigits significand 0 letters
      let dropped := rest.dropWhile isDigit
      if taken = 0 ∧ !(rest.head?.any isDigit) then none
      else finishReal negative total (exponent - taken) dropped

/-- What may follow the integral digits of a number. -/
def finishNumber (negative : Bool) (significand : Nat) : Reader Number
  | '.' :: rest => readDecimals negative significand 0 rest
  | 'e' :: rest => readExponent negative significand 0 rest
  | 'E' :: rest => readExponent negative significand 0 rest
  | rest =>
      if !negative then
        some (.natural (UInt64.ofNat significand), rest)
      else if significand = 0 ∨ significand > Int64.minValue.toInt.natAbs then
        some (signedReal true (Double.ofInt significand), rest)
      else
        some (.negative (Int64.ofInt (-significand)), rest)

/-- The rest of a number whose integral digits no longer fit: more digits only scale it. -/
def finishLong (negative : Bool) (significand : Nat) (letters : List Char) :
    Option (Number × List Char) :=
  let more := letters.takeWhile isDigit
  match letters.dropWhile isDigit with
  | '.' :: rest => readDecimals negative significand more.length rest
  | rest => finishReal negative significand more.length rest

/-- A number after its sign; a leading zero stands alone. -/
def readNumber (negative : Bool) : Reader Number
  | '0' :: rest =>
      if rest.head?.any isDigit then none else finishNumber negative 0 rest
  | letters =>
      let (significand, taken, rest) := takeDigits 0 0 letters
      if taken = 0 then none
      else if rest.head?.any isDigit then finishLong negative significand rest
      else finishNumber negative significand rest

/-- Four hexadecimal digits. -/
def readUnit : Reader Nat
  | first :: second :: third :: fourth :: rest =>
      (do
        let high ← Text.digitValue? 16 first
        let next ← Text.digitValue? 16 second
        let third ← Text.digitValue? 16 third
        let low ← Text.digitValue? 16 fourth
        some (((high * 16 + next) * 16 + third) * 16 + low)).map fun unit => (unit, rest)
  | _ => none

/-- The character of an escape after its `u`; a leading surrogate takes a second escape. -/
def readEscapedUnit : Reader Char
  | letters => do
      let (unit, rest) ← readUnit letters
      if 0xdc00 ≤ unit ∧ unit ≤ 0xdfff then
        none
      else if 0xd800 ≤ unit ∧ unit ≤ 0xdbff then
        match rest with
        | '\\' :: 'u' :: more => do
            let (low, rest) ← readUnit more
            if 0xdc00 ≤ low ∧ low ≤ 0xdfff then
              some (Char.ofNat (0x10000 + (unit - 0xd800) * 0x400 + (low - 0xdc00)), rest)
            else none
        | _ => none
      else some (Char.ofNat unit, rest)

/-- One character of a string after a backslash. -/
def readEscape : Reader Char
  | '"' :: rest => some ('"', rest)
  | '\\' :: rest => some ('\\', rest)
  | '/' :: rest => some ('/', rest)
  | 'b' :: rest => some ('\x08', rest)
  | 'f' :: rest => some ('\x0c', rest)
  | 'n' :: rest => some ('\n', rest)
  | 'r' :: rest => some ('\r', rest)
  | 't' :: rest => some ('\t', rest)
  | 'u' :: rest => readEscapedUnit rest
  | _ => none

/--
A string after its opening quote; `bound` is at least the number of characters left, and the
characters read so far are kept in reverse.
-/
def readString (bound : Nat) (before : List Char) : Reader String
  | [] => none
  | '"' :: rest => some (String.ofList before.reverse, rest)
  | letter :: rest =>
      match bound with
      | 0 => none
      | bound + 1 =>
          if letter = '\\' then do
            let (escaped, rest) ← readEscape rest
            readString bound (escaped :: before) rest
          else if letter.toNat < 0x20 then none
          else readString bound (letter :: before) rest

mutual

/--
A value after optional white space.  `bound` limits the number of reading steps, and `depth`
is how many arrays and objects may still be opened.
-/
def readValue (bound depth : Nat) (letters : List Char) : Option (Json × List Char) :=
  match bound with
  | 0 => none
  | bound + 1 =>
      match skipSpace letters with
      | 'n' :: 'u' :: 'l' :: 'l' :: rest => some (null, rest)
      | 't' :: 'r' :: 'u' :: 'e' :: rest => some (bool true, rest)
      | 'f' :: 'a' :: 'l' :: 's' :: 'e' :: rest => some (bool false, rest)
      | '"' :: rest => (readString bound [] rest).map fun (text, rest) => (string text, rest)
      | '-' :: rest => (readNumber true rest).map fun (value, rest) => (number value, rest)
      | '[' :: rest =>
          match depth with
          | 0 => none
          | depth + 1 =>
              match skipSpace rest with
              | ']' :: rest => some (array [], rest)
              | rest => readItems bound depth [] rest
      | '\x7b' :: rest =>
          match depth with
          | 0 => none
          | depth + 1 =>
              match skipSpace rest with
              | '\x7d' :: rest => some (object [], rest)
              | rest => readMembers bound depth [] rest
      | rest => (readNumber false rest).map fun (value, rest) => (number value, rest)

/-- The items of an array from the next one on, those before it in reverse. -/
def readItems (bound depth : Nat) (before : List Json) (letters : List Char) :
    Option (Json × List Char) :=
  match bound with
  | 0 => none
  | bound + 1 =>
      match readValue bound depth letters with
      | none => none
      | some (item, rest) =>
          match skipSpace rest with
          | ',' :: rest => readItems bound depth (item :: before) rest
          | ']' :: rest => some (array (item :: before).reverse, rest)
          | _ => none

/-- The members of an object from the next one on, after those already in order. -/
def readMembers (bound depth : Nat) (before : List (String × Json)) (letters : List Char) :
    Option (Json × List Char) :=
  match bound with
  | 0 => none
  | bound + 1 =>
      match skipSpace letters with
      | '"' :: rest =>
          match readString bound [] rest with
          | none => none
          | some (name, rest) =>
              match skipSpace rest with
              | ':' :: rest =>
                  match readValue bound depth rest with
                  | none => none
                  | some (value, rest) =>
                      match skipSpace rest with
                      | ',' :: rest => readMembers bound depth (setMember name value before) rest
                      | '\x7d' :: rest => some (object (setMember name value before), rest)
                      | _ => none
              | _ => none
      | _ => none

end

/-- How many arrays and objects may be open at once. -/
def maximumDepth : Nat := 127

/-- Read a whole text as one value. -/
def parse? (text : String) : Option Json :=
  let letters := text.toList
  match readValue (2 * letters.length + 2) maximumDepth letters with
  | some (value, rest) => if (skipSpace rest).isEmpty then some value else none
  | none => none

end FrameEval.Json
