import OsiStack.PollLoop
import OsiStack.Traceroute
import OsiStack.Transcript

set_option autoImplicit false

namespace OsiStack

open Octets Walks

def senderMac : MacAddr := macOctets 0x12 0x9f 0x41 0x0d 0x0e 0x63

def senderIp : IpAddr := ipOctets 1 2 1 2

def announced : List UInt8 :=
  NumberText.ascii "sending frame, length " ++ (NumberText.decimal 86 ++
    NumberText.ascii "\nPress Control-C to terminate sender.\n")

section
variable (ttl : UInt8) (destAddr : IpAddr)

end

end OsiStack
