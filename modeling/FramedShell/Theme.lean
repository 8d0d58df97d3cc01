import FramedShell.Cell

/-!
# The colors of the picture

A theme gives a color to every part of the picture and the title shown in the banner.
-/

namespace FramedShell

/-- **A mixed color**: its red, green and blue parts. -/
structure Mix where
  red : UInt8
  green : UInt8
  blue : UInt8
deriving DecidableEq, Inhabited

/-- The cell color of a mix. -/
def Mix.color (m : Mix) : Color := .rgb m.red m.green m.blue

/-- **A theme.** -/
structure Theme where
  background : Mix := ⟨20, 40, 60⟩
  banner : Mix := ⟨35, 45, 60⟩
  band : Mix := ⟨28, 70, 120⟩
  border : Mix := ⟨255, 105, 180⟩
  shadow : Mix := ⟨60, 60, 90⟩
  barForeground : Mix := ⟨245, 245, 245⟩
  barBackground : Mix := ⟨0, 0, 0⟩
  title : String := "sfterm"
deriving DecidableEq, Inhabited

end FramedShell
