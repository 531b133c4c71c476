import FrameEval.Table
import FrameEval.Wire.Variable

/-!
# Symbol tables

The local variables of a frame that are live where the frame stands, by name.
-/

namespace FrameEval

open Wire

/-- Where a frame keeps a local variable. -/
structure LocalSlot where
  slot : UInt32
  signature : String
  deriving DecidableEq

/-- The visible local variables of a frame. -/
abbrev SymbolTable := Table String LocalSlot

namespace SymbolTable

/-- The variables that are live at a code index; of equal names the last one counts. -/
def ofVariables (table : List Variable) (codeIndex : UInt64) : SymbolTable :=
  Table.ofList ((table.filter fun entry => entry.isLiveAt codeIndex).map fun entry =>
    (entry.name, ⟨entry.slot, entry.signature⟩))

end SymbolTable

end FrameEval
