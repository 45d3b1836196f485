import BeanMeter.Net.IpAddress

/-! # Listening

Which addresses can be listened at on a machine that is connected to no other one.

* `SocketAddress.clashes` — two listeners that cannot exist at the same time.
* `listenFault?` — why there can be no listener at an address, in the words of the operating system.
-/

namespace BeanMeter

namespace IpAddress

/-- An address of version 4 that is written as one of version 6, as itself. -/
def plain : IpAddress → IpAddress
  | .v6 [0, 0, 0, 0, 0, 0xffff, h, l] => .v4 [h / 256, h % 256, l / 256, l % 256]
  | ip => ip

/-- Whether an address stands for all addresses of the machine. -/
def isWildcard (ip : IpAddress) : Bool :=
  match ip.plain with
  | .v4 octets => octets.all (· == 0)
  | .v6 groups => groups.all (· == 0)

/-- Whether an address leads back to the machine itself. -/
def isLoopback (ip : IpAddress) : Bool :=
  match ip.plain with
  | .v4 octets => octets.head? == some 127
  | .v6 groups => groups == [0, 0, 0, 0, 0, 0, 0, 1]

/-- Whether an address reaches many machines at once. It belongs to no machine, but can be listened
at on any. -/
def isShared (ip : IpAddress) : Bool :=
  match ip.plain with
  | .v4 octets =>
    octets == [255, 255, 255, 255] || octets.head?.any fun a => 224 ≤ a && a < 240
  | .v6 _ => false

/-- Whether what arrives at one address also arrives at the other. -/
def overlaps (a b : IpAddress) : Bool :=
  match a.plain, b.plain with
  | .v6 _, .v4 _ => a.isWildcard
  | .v4 _, .v6 _ => b.isWildcard
  | a, b => a == b || a.isWildcard || b.isWildcard

end IpAddress

namespace SocketAddress

/-- Whether two listeners cannot exist at the same time. Port 0 stands for any port that is free. -/
def clashes (a b : SocketAddress) : Bool :=
  a.port == b.port && a.port != 0 && a.ip.overlaps b.ip

/-- The address with a port that a text writes. -/
def parse? (s : String) : Option SocketAddress :=
  let (port, host) := Text.splitFirst? ':' s.toList.reverse |>.getD ([], [])
  let host := match host.reverse with
    | '[' :: rest => rest.dropLast
    | host => host
  (IpAddress.parse? (String.ofList host)).bind fun ip =>
    (readDigits? port.reverse).map fun port => ⟨ip, port⟩

end SocketAddress

/-- Why there can be no listener at an address, where one at `taken` exists. -/
def listenFault? (taken : Option SocketAddress) (a : SocketAddress) : Option String :=
  if !(a.ip.isWildcard || a.ip.isLoopback || a.ip.isShared) then
    some "Cannot assign requested address (os error 99)"
  else if taken.any a.clashes then some "Address already in use (os error 98)"
  else none

end BeanMeter
