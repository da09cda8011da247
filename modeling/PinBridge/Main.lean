import PinBridge.Simulator.Bus
import PinBridge.Tour

/-!
# The command line

Takes the tour on a simulated bus with one light board, and waits where the tour pauses.
-/

namespace PinBridge

/-- Shows a line of the tour. -/
def Tour.Line.perform : Tour.Line → IO Unit
  | .print text => IO.println text
  | .pause ms => IO.sleep (UInt32.ofNat ms)

/-- Shows the tour of a board and yields the exit status. -/
def showTour (board : Simulator.Board) : IO UInt32 := do
  match (Tour.tour.run Simulator.bus (.ofBoards [board])).1 with
  | none => return 2
  | some transcript =>
    transcript.lines.forM Tour.Line.perform
    match transcript.failure with
    | none => return 0
    | some e =>
      IO.eprintln (Tour.failureText e)
      return 1

end PinBridge

/-- Shows the tour of a light board. -/
def main : IO UInt32 := PinBridge.showTour PinBridge.Simulator.Board.light
