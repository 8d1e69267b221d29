import AnneDeBreuil.Address
import AnneDeBreuil.SortByKey

namespace AnneDeBreuil

/-- One listening endpoint, correlated with its owner. The fields are public
and `Deserialize` is derived, so `exposure` agrees with `bindAddress` only for
values built by `Endpoint.new`. -/
structure Endpoint where
  protocol : Protocol
  bindAddress : BindAddress
  port : Port
  processId : Option ProcessId
  processPath : Option ProcessPath
  hostedServices : List ServiceName
  signatureStatus : SignatureStatus
  exposure : Exposure
  commandLine : Option Utf8
deriving DecidableEq, Repr

def Endpoint.new (protocol : Protocol) (bindAddress : BindAddress) (port : Port)
    (processId : Option ProcessId) (processPath : Option ProcessPath)
    (hostedServices : List ServiceName) (signatureStatus : SignatureStatus)
    (commandLine : Option Utf8) : Endpoint where
  protocol := protocol
  bindAddress := bindAddress
  port := port
  processId := processId
  processPath := processPath
  hostedServices := sortByKey ServiceName.asStr hostedServices
  signatureStatus := signatureStatus
  exposure := .classify bindAddress.ip
  commandLine := commandLine

/-- The order of `(protocol, address, port)`, as one number. -/
def Endpoint.sortKey (endpoint : Endpoint) : Nat :=
  (endpoint.protocol.ctorIdx * 2 ^ 129 + endpoint.bindAddress.ip.rank) * 2 ^ 16 + endpoint.port.get.toNat

end AnneDeBreuil
