import Zpl.CommandLine.Run

/-!
# The executable

Reads the command line and the environment, and shows what a run leaves behind. No printer is in
reach of this program but the one that only records, so every other printer is reported as out of
reach.
-/

namespace Zpl

/-- The variable that names the printer's host. -/
def hostVariable : String := "ZPL_PRINTER_HOST"

/-- Nothing answers at the other end of a link. Whether a file can be written turns out only when it
is written. -/
def outOfReach : Circumstances :=
  { openFault :=
      (Fault.told "OSError" { inRow := [.int 101, "Network is unreachable"] }).toOption
    connected := false
    destination := fun path => .ok (.file path) }

/-- Shows what a run leaves behind; the result is the exit status. -/
def Outcome.show (o : Outcome) : IO UInt32 := do
  for (name, content) in o.files ++ o.filesElsewhere do
    IO.FS.writeFile name.toString content.toString
  IO.print o.stdout.toString
  IO.eprint o.stderr.toString
  match o.ending with
  | .exit status => return UInt32.ofNat status
  | .refused message =>
    IO.eprintln message.toString
    return 2
  | .failed fault =>
    IO.eprintln (fault.name ++ ": " ++ fault.text.toString)
    return 1

end Zpl

def main (args : List String) : IO UInt32 := do
  let host ← IO.getEnv Zpl.hostVariable
  Zpl.Outcome.show <|
    Zpl.Program.run (host.map Zpl.Text.ofString) Zpl.outOfReach (args.map Zpl.Text.ofString)
