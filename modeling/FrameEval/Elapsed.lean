/-!
# Time spans

A span is a whole number of nanoseconds.  Its text uses the largest of the units
second, millisecond, microsecond and nanosecond that fits at least once, with as many
decimals as the span needs.
-/

namespace FrameEval

/-- A span of time. -/
structure Elapsed where
  nanoseconds : Nat
  deriving DecidableEq, Inhabited

namespace Elapsed

/-- A span of whole milliseconds. -/
def ofMilliseconds (count : Nat) : Elapsed := ⟨count * 1000000⟩

/-- A span of whole seconds. -/
def ofSeconds (count : Nat) : Elapsed := ⟨count * 1000000000⟩

/-- The decimals of a fraction `part / unit` of a power of ten, without trailing zeros. -/
def decimals : Nat → Nat → Nat → List Char
  | 0, _, _ => []
  | places + 1, part, unit =>
      if part = 0 then []
      else Nat.digitChar (part * 10 / unit) :: decimals places (part * 10 % unit) unit

/-- A count of a unit of so many nanoseconds, with decimals. -/
def inUnit (span : Elapsed) (unit places : Nat) (name : String) : String :=
  let fraction := decimals places (span.nanoseconds % unit) unit
  let point := if fraction.isEmpty then [] else ['.']
  toString (span.nanoseconds / unit) ++ String.ofList (point ++ fraction) ++ name

/-- The text of a span, such as `1.5s`, `30ms` or `0ns`. -/
def display (span : Elapsed) : String :=
  if span.nanoseconds ≥ 1000000000 then span.inUnit 1000000000 9 "s"
  else if span.nanoseconds ≥ 1000000 then span.inUnit 1000000 6 "ms"
  else if span.nanoseconds ≥ 1000 then span.inUnit 1000 3 "µs"
  else span.inUnit 1 0 "ns"

end Elapsed

end FrameEval
