import Zpl.Fault.Wording
import Zpl.File

/-!
# Circumstances

What a program finds and has no say in: how links to printers behave, for how much there is memory,
and which files can be written. Nothing is proved about a particular one of them.

## Main definitions

* `Circumstances` — where a link fails, what a USB device looks like, for how much there is memory,
  and where files are.
-/

namespace Zpl

/-- Where a link fails, what a USB device looks like, for how much there is memory, and where files
are. Unless something else is said, nothing fails, and files are where they usually are. -/
structure Circumstances where
  /-- Why no link can be opened. -/
  openFault : Option Fault := none
  /-- Why bytes are not taken. -/
  sendFault : Option Fault := none
  /-- Why a serial line is not flushed. -/
  flushFault : Option Fault := none
  /-- Why a USB device cannot be configured. -/
  configurationFault : Option Fault := none
  /-- Why it is unknown whether a kernel driver holds the device. -/
  kernelFault : Option Fault := none
  /-- Why the kernel driver does not let go of the device. -/
  detachFault : Option Fault := none
  /-- Whether there is a device at all. -/
  connected : Bool := true
  /-- The endpoint addresses of the device. -/
  endpoints : List Nat := [0x81, 0x02]
  /-- Whether a kernel driver holds the device. -/
  kernelDriver : Bool := false
  /-- How many writes a device takes before it fails. -/
  goodWrites : Int := 0
  /-- How long a sequence may become by repetition until there is no memory left for it. -/
  capacity : Nat := 0x200000000
  /-- Where a text ends up that is written to the file of a normalized path, or why it cannot be
  written. -/
  destination : Text → Except Fault File.Destination := File.usual

end Zpl
