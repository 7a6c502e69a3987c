import BondedRelay.Ethereum.Url

namespace BondedRelay

structure Connection where
  name : String
  url : String
  deriving DecidableEq, Repr

namespace Connection

def isValid (c : Connection) : Bool := Url.isUrl c.url

def invalidMessage (c : Connection) : String :=
  "Invalid rpc url for " ++ c.name ++ ": " ++ c.url

end Connection

end BondedRelay
