/-
  WeblogDesk.Url.Fault

  Why a text is no URL.
-/

namespace WeblogDesk
namespace Url

/-- The first thing wrong with a text that should be a URL. -/
inductive Fault where
  /-- It does not begin with a scheme. -/
  | relative
  /-- A host is needed and there is none. -/
  | emptyHost
  /-- The port is no number below `2 ^ 16`. -/
  | badPort
  /-- The host ends in a number and is no IPv4 address. -/
  | badIpv4
  /-- The brackets hold no IPv6 address. -/
  | badIpv6
  /-- The host has a character that no name on the network has. -/
  | badDomain
  /-- The host has a character that no host has. -/
  | badHostCharacter
  deriving DecidableEq, Repr

/-- The fault in words. -/
def Fault.text : Fault → String
  | .relative => "relative URL without a base"
  | .emptyHost => "empty host"
  | .badPort => "invalid port number"
  | .badIpv4 => "invalid IPv4 address"
  | .badIpv6 => "invalid IPv6 address"
  | .badDomain => "invalid international domain name"
  | .badHostCharacter => "invalid domain character"

end Url
end WeblogDesk
