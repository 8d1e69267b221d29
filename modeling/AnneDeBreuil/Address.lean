import AnneDeBreuil.Values
import Mathlib.Algebra.Group.Nat.Defs

namespace AnneDeBreuil

/-- `std::net::IpAddr`, the octets of each family read big-endian. -/
inductive IpAddr
  | v4 (bits : BitVec 32)
  | v6 (bits : BitVec 128)
deriving DecidableEq, Repr

/-- The derived order: every IPv4 address first, then by the octets. -/
def IpAddr.rank : IpAddr → Nat
  | .v4 bits => bits.toNat
  | .v6 bits => 2 ^ 32 + bits.toNat

/-- `IpAddr::is_loopback`: 127.0.0.0/8, or `::1`. -/
def IpAddr.isLoopback : IpAddr → Bool
  | .v4 bits => bits.extractLsb' 24 8 == 127#8
  | .v6 bits => bits == 1#128

def IpAddr.isUnspecified : IpAddr → Bool
  | .v4 bits => bits == 0#32
  | .v6 bits => bits == 0#128

/-- `Ipv4Addr::to_ipv6_mapped`: the address as `::ffff:a.b.c.d`. -/
def IpAddr.mapped (bits : BitVec 32) : IpAddr := .v6 (0xffff#96 ++ bits)

structure BindAddress where
  ip : IpAddr
deriving DecidableEq, Repr

/-- How broadly a bind address exposes a listener. -/
inductive Exposure
  | loopback
  | specificInterface
  | allInterfaces
deriving DecidableEq, Repr

def Exposure.classify (addr : IpAddr) : Exposure :=
  if addr.isLoopback then .loopback
  else if addr.isUnspecified then .allInterfaces
  else .specificInterface

end AnneDeBreuil
