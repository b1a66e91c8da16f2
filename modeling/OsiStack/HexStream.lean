import OsiStack.GroupBuffer
import OsiStack.HexGrammar

set_option autoImplicit false

namespace OsiStack

open Octets

section
variable (heap : Memory)

end

end OsiStack
