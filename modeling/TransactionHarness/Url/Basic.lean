/-!
# Addresses

The parts of an address (`Url`) and what can be wrong with the text of one (`Url.Fault`).
-/

namespace TransactionHarness

/-- What an address leads to. -/
inductive Host where
  | name (s : String)
  /-- An address of thirty-two bits. -/
  | short (address : Nat)
  /-- An address of a hundred and twenty-eight bits, in eight pieces. -/
  | long (pieces : List Nat)
  deriving DecidableEq, Repr, Inhabited

/-- An address. -/
structure Url where
  /-- The name of the way to get there, in small letters. -/
  scheme : String
  /-- What stands in front of the host: who asks. -/
  userInfo? : Option String := none
  host? : Option Host := none
  /-- The port, unless it is the usual one. -/
  port? : Option Nat := none
  path : String := ""
  query? : Option String := none
  fragment? : Option String := none
  deriving DecidableEq, Repr, Inhabited

namespace Url

/-- What is wrong with the text of an address. -/
inductive Fault where
  | noScheme
  | emptyHost
  | badDomain
  | badHostCharacter
  | badShortAddress
  | badLongAddress
  | badPort
  deriving DecidableEq, Repr, Inhabited

/-- The words for a fault. -/
def Fault.message : Fault → String
  | noScheme => "relative URL without a base"
  | emptyHost => "empty host"
  | badDomain => "invalid international domain name"
  | badHostCharacter => "invalid domain character"
  | badShortAddress => "invalid IPv4 address"
  | badLongAddress => "invalid IPv6 address"
  | badPort => "invalid port number"

end Url

end TransactionHarness
