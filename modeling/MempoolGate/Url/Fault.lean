namespace MempoolGate.Url

inductive Fault
  | noScheme
  | emptyHost
  | badPort
  | badDomain
  | badHostCharacter
  | badIpv4
  | badIpv6
deriving DecidableEq, Repr

def Fault.message : Fault → String
  | noScheme => "relative URL without a base"
  | emptyHost => "empty host"
  | badPort => "invalid port number"
  | badDomain => "invalid international domain name"
  | badHostCharacter => "invalid domain character"
  | badIpv4 => "invalid IPv4 address"
  | badIpv6 => "invalid IPv6 address"

end MempoolGate.Url
