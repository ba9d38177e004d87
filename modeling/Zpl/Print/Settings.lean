import Zpl.Print.Backend

/-!
# Printer settings

Settings name one of a few interfaces and say what that interface needs to know. Identifiers of USB
devices may be written in decimal or, announced by a mark, in another base.

## Main definitions

* `Settings.interfaces` — the interfaces by which a printer can be reached.
* `Settings.identifier` — the number that an identifier stands for.
-/

namespace Zpl.Settings

/-- The interfaces by which a printer can be reached. -/
def interfaces : List String := ["network", "serial", "usb", "dry_run"]

/-- A fault of the settings. -/
def refused (message : Text) : Fault := .print { stage := .configuration, message := .text message }

/-- An identifier, given as a number or as text in an announced base. -/
def identifier : Value → Except Fault Int
  | .text t => Numeral.readLiteral t
  | v => v.toInt

end Zpl.Settings
