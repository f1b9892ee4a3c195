/-!
Why a text is not a URL.
-/
namespace PluginRelease

inductive UrlFault
  | emptyHost
  | badDomain
  | badDomainCharacter
  | badPort
  | badIpv4
  | badIpv6
  | relativeWithoutBase
  /-- The base has a path that is no list of names, such as that of `mailto:`. -/
  | relativeWithRootlessBase
deriving DecidableEq, Repr

def UrlFault.message : UrlFault → String
  | emptyHost => "empty host"
  | badDomain => "invalid international domain name"
  | badDomainCharacter => "invalid domain character"
  | badPort => "invalid port number"
  | badIpv4 => "invalid IPv4 address"
  | badIpv6 => "invalid IPv6 address"
  | relativeWithoutBase => "relative URL without a base"
  | relativeWithRootlessBase => "relative URL with a cannot-be-a-base base"

end PluginRelease
