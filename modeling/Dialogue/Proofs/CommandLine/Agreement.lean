import Dialogue.Proofs.CommandLine.Delivery
import Dialogue.Proofs.Disk.Script

/-!
# The program and the library

A script is compiled to a file by the program and by the library, each with steps of its own. They
go the same way: under the same settings and with the same paths they leave the same disk behind,
and what the library fails with is what the program exits with or is ended by.
-/

namespace Dialogue

open Text

variable {disk left : Disk} {config : Config} {input : Path} {output : Option Path}
  {failure : Failure}

namespace Disk

end Disk

namespace CommandLine

variable {arguments : List String} {options : Options} {name : String}

/-- A script with a choice that leads nowhere. -/
def askScript : String := "Alice:\nHi\n\tYes"

end CommandLine

end Dialogue
