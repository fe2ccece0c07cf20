import FourVrs.Lib.Bytes
import FourVrs.Network.Owner

/-!
# Messages and frames (`network/gateway_dhcp_wire.c`)

The message the client sends, the frames it is given, and the ARP packets that tell of
another host with its address. A frame is an Ethernet frame with an IPv4 packet with a UDP
datagram with a message; each length is checked against the one around it.
-/

set_option autoImplicit false

namespace FourVrs.Network

open FourVrs.Core Config Lib

/-! ## The message of the client -/

/-- The word an address spells, 0 for none. -/
def addressWord (address : CText) : Nat := ((ipv4Parse address).map BitVec.toNat).getD 0

variable (d : DhcpClient) (p : List UInt8)

/-- The options of a message. -/
def dhcpMessageOptions (type : Nat) : List UInt8 :=
  [53, 1, UInt8.ofNat type, 61, 7, 1] ++ d.mac.take 6 ++
    (if type = 3 ∨ type = 4 then
      (if d.valid then [] else [50, 4] ++ put32 (addressWord d.lease.address)) ++
        (if d.state = .requesting ∨ type = 4 then [54, 4] ++ put32 d.server.toNat else [])
    else []) ++
    [55, 6, 1, 3, 6, 51, 58, 59, 255]

/-- The message `gateway_dhcp_packet` makes, padded to 300 bytes. -/
def dhcpMessage (now : CoreTick) : List UInt8 :=
  let seconds := min ((now - d.started).toNat / 1000) 65535
  let message :=
    [1, 1, 6, 0] ++ put32 d.xid.toNat ++ [UInt8.ofNat (seconds / 256), UInt8.ofNat seconds] ++
      (if d.valid then [0, 0] ++ put32 (addressWord d.lease.address) else [128, 0, 0, 0, 0, 0]) ++
      List.replicate 12 0 ++ d.mac.take 6 ++ List.replicate 202 0 ++ put32 0x63825363 ++
      dhcpMessageOptions d d.sendType
  message ++ List.replicate (300 - message.length) 0

/-- `gateway_dhcp_packet`: nothing to send, or no room for it, and the client stays as it is. -/
def dhcpPacket (cap : Nat) (now : CoreTick) : List UInt8 × DhcpClient :=
  if d.sendType = 0 ∨ cap < 300 then ([], d)
  else
    (dhcpMessage (if d.sendType = 3 ∧ ¬ d.haveRequest then { d with requestedAt := now, haveRequest := true }
      else d) now, dhcpPacketMade d now)

/-! ## Frames -/

/-- `word`. -/
def wordAt (offset : Nat) : Nat :=
  (p.getD offset 0).toNat * 256 + (p.getD (offset + 1) 0).toNat

/-- `sum`: the words of a packet, the last one filled up with a zero. -/
def wordSum (p : List UInt8) (value : Nat) : Nat :=
  match p with
  | a :: b :: rest => wordSum rest (value + a.toNat * 256 + b.toNat)
  | [a] => value + a.toNat * 256
  | [] => value

/-- The carries of `checksum` are added until there are none. -/
def foldCarries (value : Nat) : Nat :=
  if h : value / 65536 = 0 then value else foldCarries (value % 65536 + value / 65536)
  termination_by value
  decreasing_by omega

/-- `checksum`. -/
def checksum (value : Nat) : Nat := 65535 - foldCarries value

def broadcastMac : List UInt8 := List.replicate 6 255

/-- The Ethernet header of a frame for this interface that does not come from it. -/
def frameForClient : Bool :=
  decide (42 ≤ p.length) && decide (p.length ≤ 1514) && decide (wordAt p 12 = 0x0800) &&
    (p.take 6 = d.mac.take 6 || p.take 6 = broadcastMac) && (p.drop 6).take 6 ≠ d.mac.take 6

/-- The length of the IPv4 header. -/
def headerLength (v : List UInt8) : Nat := (v.getD 0 0).toNat % 16 * 4

/-- An IPv4 packet with a whole UDP datagram in it. -/
def carriesUdp (v : List UInt8) : Bool :=
  let header := headerLength v
  let total := wordAt v 2
  decide ((v.getD 0 0).toNat / 16 = 4) && decide (20 ≤ header) && decide (header ≤ 60) &&
    decide (header + 8 ≤ total) && decide (total ≤ v.length) && v.getD 9 0 = 17 &&
    decide (wordAt v 6 % 0x4000 = 0) && decide (checksum (wordSum (v.take header) 0) = 0)

/-- A datagram of a DHCP server of the length the packet leaves it. -/
def fromServer (v udp : List UInt8) (length : Nat) : Bool :=
  decide (wordAt udp 0 = 67) && decide (wordAt udp 2 = 68) && decide (wordAt udp 4 = length) &&
    (decide (wordAt udp 6 = 0) ||
      decide (checksum (wordSum (udp.take length) (wordSum ((v.drop 12).take 8) (17 + length))) = 0))

/-- What `gateway_dhcp_frame` hands on to `gateway_dhcp_receive`. -/
def framePayload : Option (List UInt8) :=
  let v := p.drop 14
  let header := headerLength v
  let length := wordAt v 2 - header
  if frameForClient d p && carriesUdp v && fromServer v (v.drop header) length then
    some (((v.drop header).drop 8).take (length - 8))
  else none

/-- `gateway_dhcp_frame`. -/
def dhcpFrame (now : CoreTick) : Int × DhcpClient :=
  match framePayload d p with
  | none => (-1, d)
  | some payload => dhcpReceive d payload now

/-! ## Conflicts -/

/-- `gateway_dhcp_arp_conflict`: a request or a reply of another host for the address. -/
def arpConflict : Bool :=
  decide (42 ≤ p.length) && decide (p.length ≤ 1514) && decide (wordAt p 12 = 0x0806) &&
    decide (wordAt p 14 = 1) && decide (wordAt p 16 = 0x0800) && p.getD 18 0 = 6 && p.getD 19 0 = 4 &&
    (decide (wordAt p 20 = 1) || decide (wordAt p 20 = 2)) && (p.drop 22).take 6 ≠ d.mac.take 6 &&
    match ipv4Parse d.lease.address with
    | none => false
    | some address =>
        let target := put32 address.toNat
        (p.drop 28).take 4 = target ||
          ((p.drop 28).take 4 = [0, 0, 0, 0] && (p.drop 38).take 4 = target)

end FourVrs.Network
