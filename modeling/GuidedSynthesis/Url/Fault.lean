/-!
Why a text is no URL.
-/

namespace GuidedSynthesis.Url

inductive Fault where
  | emptyHost
  | invalidHost
  | invalidHostCharacter
  | invalidPort
  | invalidIpv4
  | invalidIpv6
  | relativeWithoutBase
  deriving DecidableEq, Repr

def Fault.message : Fault → String
  | emptyHost => "empty host"
  | invalidHost => "invalid international domain name"
  | invalidHostCharacter => "invalid domain character"
  | invalidPort => "invalid port number"
  | invalidIpv4 => "invalid IPv4 address"
  | invalidIpv6 => "invalid IPv6 address"
  | relativeWithoutBase => "relative URL without a base"

end GuidedSynthesis.Url
