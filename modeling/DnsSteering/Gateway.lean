import DnsSteering.Address.Basic
import DnsSteering.Order

namespace DnsSteering

-- Addresses form a set: neither their order nor how often one is listed matters.
structure Gateway where
  name : Json
  space : Json
  labels : Json
  addresses : List Address
  deriving DecidableEq

namespace Gateway

def ips (g : Gateway) : List String :=
  Order.ascending ((g.addresses.filter Address.isIp).map (·.value))

def hostnames (g : Gateway) : List String :=
  Order.ascending ((g.addresses.filter fun a => !a.isIp).map (·.value))

end Gateway
end DnsSteering
