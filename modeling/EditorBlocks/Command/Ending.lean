import EditorBlocks.Command.World

/-!
# How commands end
-/

namespace EditorBlocks

/-- How a command ends: what it printed, its surroundings after it, and its failure if
it did not succeed. -/
structure Ending where
  printed : String
  world : World
  failure : Option Failure

namespace Ending

def success (printed : String) (w : World) : Ending := ⟨printed, w, none⟩

def failed (w : World) (f : Failure) : Ending := ⟨"", w, some f⟩

end Ending

end EditorBlocks
