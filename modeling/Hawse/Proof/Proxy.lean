import Hawse.Proof.Net
import Hawse.Proof.Packet

namespace Hawse.Proof.Proxy
open Hawse.Proxy Proof.Net Proof.Packet

section Grammar

inductive Command
  | unrelayed
  | proxy
deriving DecidableEq

inductive Transport
  | unspec
  | stream
  | dgram
deriving DecidableEq

inductive Addresses
  | unspec
  | inet (source dest : BitVec 32) (sourcePort destPort : UInt16)
  | inet6 (source dest : BitVec 128) (sourcePort destPort : UInt16)
  | unix (source dest : List UInt8)
deriving DecidableEq

structure Header where
  command : Command
  transport : Transport
  addresses : Addresses
  tlvs : List UInt8
deriving DecidableEq

def command : Nat → Option Command
  | 0 => some .unrelayed
  | 1 => some .proxy
  | _ => none

def transport : Nat → Option Transport
  | 0 => some .unspec
  | 1 => some .stream
  | 2 => some .dgram
  | _ => none

def bits (w : Nat) (bytes : List UInt8) : Option (BitVec w × List UInt8) :=
  if bytes.length < w / 8 then none else some (ofOctets w (bytes.take (w / 8)), bytes.drop (w / 8))

def ports (bytes : List UInt8) : Option (UInt16 × UInt16 × List UInt8) := do
  let (source, bytes) ← bits 16 bytes
  let (dest, bytes) ← bits 16 bytes
  some (⟨source⟩, ⟨dest⟩, bytes)

/-- The address block of a family, and the bytes after it. -/
def addresses (family : Nat) (bytes : List UInt8) : Option (Addresses × List UInt8) :=
  match family with
  | 0 => some (.unspec, bytes)
  | 1 => do
      let (source, bytes) ← bits 32 bytes
      let (dest, bytes) ← bits 32 bytes
      let (sourcePort, destPort, bytes) ← ports bytes
      some (.inet source dest sourcePort destPort, bytes)
  | 2 => do
      let (source, bytes) ← bits 128 bytes
      let (dest, bytes) ← bits 128 bytes
      let (sourcePort, destPort, bytes) ← ports bytes
      some (.inet6 source dest sourcePort destPort, bytes)
  | 3 =>
      if bytes.length < 216 then none
      else some (.unix (bytes.take 108) ((bytes.drop 108).take 108), bytes.drop 216)
  | _ => none

/-- A version 2 header of the PROXY protocol at the start of what a proxy receives: the version and
the command in one byte, the family and the transport in the next, a length, and so many bytes. -/
def parse (bytes : List UInt8) : Option (Header × List UInt8) :=
  if bytes.take 12 ≠ [0x0D, 0x0A, 0x0D, 0x0A, 0x00, 0x0D, 0x0A, 0x51, 0x55, 0x49, 0x54, 0x0A] then none
  else
    match bytes.drop 12 with
    | versionCommand :: familyTransport :: hi :: lo :: rest =>
        let len := (ofOctets 16 [hi, lo]).toNat
        if versionCommand.toNat / 16 ≠ 2 ∨ rest.length < len then none
        else do
          let command ← command (versionCommand.toNat % 16)
          let transport ← transport (familyTransport.toNat % 16)
          let (addresses, tlvs) ← addresses (familyTransport.toNat / 16) (rest.take len)
          some (⟨command, transport, addresses, tlvs⟩, rest.drop len)
    | _ => none

def Addresses.family : Addresses → Nat
  | .unspec => 0
  | .inet .. => 1
  | .inet6 .. => 2
  | .unix .. => 3

def Addresses.ends : Addresses → Option (SocketAddr × SocketAddr)
  | .inet source dest sourcePort destPort => some (⟨.v4 source, sourcePort⟩, ⟨.v4 dest, destPort⟩)
  | .inet6 source dest sourcePort destPort => some (⟨.v6 source, sourcePort⟩, ⟨.v6 dest, destPort⟩)
  | .unspec | .unix .. => none

theorem bits_octets {w : Nat} (whole : 8 ∣ w) (value : BitVec w) (rest : List UInt8) :
    bits w (octets value ++ rest) = some (value, rest) := by
  have length := octets_length value
  rw [bits, if_neg (by simp), List.take_left' length, List.drop_left' length, ofOctets_octets whole]

theorem ports_octets (source dest : UInt16) (rest : List UInt8) :
    ports (octets source.toBitVec ++ (octets dest.toBitVec ++ rest)) = some (source, dest, rest) := by
  simp only [ports, bits_octets (show 8 ∣ 16 by decide), bind, Option.bind]

theorem addresses_inet (source dest : BitVec 32) (sourcePort destPort : UInt16) :
    addresses 1 (octets source ++ (octets dest ++ (octets sourcePort.toBitVec ++ octets destPort.toBitVec))) =
      some (.inet source dest sourcePort destPort, []) := by
  have last := ports_octets sourcePort destPort []
  rw [List.append_nil] at last
  simp only [addresses, bits_octets (show 8 ∣ 32 by decide), bind, Option.bind, last]

theorem addresses_inet6 (source dest : BitVec 128) (sourcePort destPort : UInt16) :
    addresses 2 (octets source ++ (octets dest ++ (octets sourcePort.toBitVec ++ octets destPort.toBitVec))) =
      some (.inet6 source dest sourcePort destPort, []) := by
  have last := ports_octets sourcePort destPort []
  rw [List.append_nil] at last
  simp only [addresses, bits_octets (show 8 ∣ 128 by decide), bind, Option.bind, last]

theorem parse_proxy {familyTransport : UInt8} {len : BitVec 16} {body : List UInt8} (length : body.length = len.toNat)
    {named : Transport} (known : transport (familyTransport.toNat % 16) = some named) {found : Addresses}
    (read : addresses (familyTransport.toNat / 16) body = some (found, [])) (payload : List UInt8) :
    parse (signature ++ ([version2Proxy, familyTransport] ++ octets len ++ body) ++ payload) =
      some (⟨.proxy, named, found, []⟩, payload) := by
  obtain ⟨hi, lo, pair⟩ := List.length_eq_two.mp (octets_length len)
  have back := ofOctets_octets (show 8 ∣ 16 by decide) len
  rw [pair] at back
  have rest : signature ++ ([version2Proxy, familyTransport] ++ octets len ++ body) ++ payload =
      signature ++ (version2Proxy :: familyTransport :: hi :: lo :: (body ++ payload)) := by
    rw [pair]
    simp only [List.append_assoc, List.cons_append, List.nil_append]
  have fits : ¬ (version2Proxy.toNat / 16 ≠ 2 ∨ (body ++ payload).length < len.toNat) := by
    rw [List.length_append, length]
    rintro (other | short)
    · exact other rfl
    · omega
  rw [rest, parse, if_neg (by simp [signature]), List.drop_left' (show signature.length = 12 from rfl)]
  simp only [back, if_neg fits, List.take_left' length, List.drop_left' length, known, read]
  rfl

end Grammar

section Written
variable (src dst : SocketAddr) (overIpv4 overIpv6 : UInt8)

def canonical (addr : SocketAddr) : SocketAddr := ⟨addr.ip.toCanonical, addr.port⟩

theorem toCanonical_ipv6 (ip : IpAddr) : IpAddr.toCanonical (.v6 (ipv6 ip.toCanonical)) = ip.toCanonical := by
  cases form : ip.toCanonical with
  | v4 bits => exact toCanonical_mapped bits
  | v6 bits => exact toCanonical_v6 form

theorem v2_inet {source dest : BitVec 32} (from4 : src.ip.toCanonical = .v4 source)
    (to4 : dst.ip.toCanonical = .v4 dest) :
    v2 src dst overIpv4 overIpv6 = signature ++ ([version2Proxy, overIpv4] ++ octets 12#16 ++
      (octets source ++ (octets dest ++ (octets src.port.toBitVec ++ octets dst.port.toBitVec)))) := by
  simp only [v2, from4, to4, List.append_assoc, List.cons_append, List.nil_append]

theorem v2_inet6 (mixed : ∀ source dest, ¬ (src.ip.toCanonical = .v4 source ∧ dst.ip.toCanonical = .v4 dest)) :
    v2 src dst overIpv4 overIpv6 = signature ++ ([version2Proxy, overIpv6] ++ octets 36#16 ++
      (octets (ipv6 src.ip.toCanonical) ++ (octets (ipv6 dst.ip.toCanonical) ++
        (octets src.port.toBitVec ++ octets dst.port.toBitVec)))) := by
  unfold v2
  cases from' : src.ip.toCanonical <;> cases to' : dst.ip.toCanonical
  · exact absurd ⟨from', to'⟩ (mixed _ _)
  all_goals simp only [List.append_assoc, List.cons_append, List.nil_append]

/-- What the bytes of a header have to be for a proxy to take it as one of a visitor at `src` and a
listener at `dst`. -/
structure Carries (named : Transport) (bytes : List UInt8) (src dst : SocketAddr) : Prop where
  parsed : ∃ found source dest byte,
    (∀ payload, parse (bytes ++ payload) = some (⟨.proxy, named, found, []⟩, payload)) ∧
    found.ends = some (source, dest) ∧ canonical source = canonical src ∧ canonical dest = canonical dst ∧
    bytes[13]? = some byte ∧ transport (byte.toNat % 16) = some named ∧ byte.toNat / 16 = found.family
  declared : (ofOctets 16 ((bytes.drop 14).take 2)).toNat = (bytes.drop 16).length

theorem declared_length {familyTransport : UInt8} {len : BitVec 16} {body : List UInt8}
    (length : body.length = len.toNat) :
    (ofOctets 16 (((signature ++ ([version2Proxy, familyTransport] ++ octets len ++ body)).drop 14).take 2)).toNat =
      ((signature ++ ([version2Proxy, familyTransport] ++ octets len ++ body)).drop 16).length := by
  have first : (signature ++ ([version2Proxy, familyTransport] ++ octets len ++ body)).drop 14 =
      octets len ++ body := rfl
  have second : (signature ++ ([version2Proxy, familyTransport] ++ octets len ++ body)).drop 16 =
      (octets len ++ body).drop 2 := rfl
  rw [first, second, List.take_left' (octets_length len), List.drop_left' (octets_length len),
    ofOctets_octets (by decide), length]

theorem v2_carries {named : Transport} (inet : transport (overIpv4.toNat % 16) = some named)
    (inet6 : transport (overIpv6.toNat % 16) = some named) (family4 : overIpv4.toNat / 16 = 1)
    (family6 : overIpv6.toNat / 16 = 2) : Carries named (v2 src dst overIpv4 overIpv6) src dst := by
  by_cases both : ∃ source dest, src.ip.toCanonical = .v4 source ∧ dst.ip.toCanonical = .v4 dest
  · obtain ⟨source, dest, from4, to4⟩ := both
    have read := addresses_inet source dest src.port dst.port
    rw [v2_inet src dst overIpv4 overIpv6 from4 to4]
    refine ⟨⟨.inet source dest src.port dst.port, _, _, overIpv4, parse_proxy (by simp) inet (by rw [family4]; exact read),
      rfl, ?_, ?_, rfl, inet, family4⟩, declared_length (by simp)⟩
    · exact congrArg (SocketAddr.mk · src.port) from4.symm
    · exact congrArg (SocketAddr.mk · dst.port) to4.symm
  · have read := addresses_inet6 (ipv6 src.ip.toCanonical) (ipv6 dst.ip.toCanonical) src.port dst.port
    rw [v2_inet6 src dst overIpv4 overIpv6 fun source dest found => both ⟨source, dest, found⟩]
    refine ⟨⟨.inet6 _ _ src.port dst.port, _, _, overIpv6, parse_proxy (by simp) inet6 (by rw [family6]; exact read),
      rfl, ?_, ?_, rfl, inet6, family6⟩, declared_length (by simp)⟩
    · exact congrArg (SocketAddr.mk · src.port) (toCanonical_ipv6 src.ip)
    · exact congrArg (SocketAddr.mk · dst.port) (toCanonical_ipv6 dst.ip)

theorem v2_canonical : v2 (canonical src) (canonical dst) overIpv4 overIpv6 = v2 src dst overIpv4 overIpv6 := by
  unfold v2 canonical
  dsimp only
  rw [toCanonical_idem, toCanonical_idem]

end Written

theorem Carries.unique {named named' : Transport} {bytes : List UInt8} {src dst src' dst' : SocketAddr}
    (carries : Carries named bytes src dst) (carries' : Carries named' bytes src' dst') :
    named = named' ∧ canonical src = canonical src' ∧ canonical dst = canonical dst' := by
  obtain ⟨⟨found, source, dest, -, parsed, ends, from1, to1, -⟩, -⟩ := carries
  obtain ⟨⟨found', source', dest', -, parsed', ends', from2, to2, -⟩, -⟩ := carries'
  have same := (parsed []).symm.trans (parsed' [])
  simp only [Option.some.injEq, Prod.mk.injEq, Header.mk.injEq, true_and, and_true] at same
  obtain ⟨rfl, rfl⟩ := same
  obtain ⟨rfl, rfl⟩ := Prod.mk.inj (Option.some.inj (ends.symm.trans ends'))
  exact ⟨rfl, from1.symm.trans from2, to1.symm.trans to2⟩

theorem v2_tcp_carries (src dst : SocketAddr) : Carries .stream (v2Tcp src dst) src dst :=
  v2_carries src dst tcpOverIpv4 tcpOverIpv6 rfl rfl rfl rfl

theorem v2_udp_carries (src dst : SocketAddr) : Carries .dgram (v2Udp src dst) src dst :=
  v2_carries src dst udpOverIpv4 udpOverIpv6 rfl rfl rfl rfl

theorem v2_eq_iff {src dst src' dst' : SocketAddr} {overIpv4 overIpv6 : UInt8} {named : Transport}
    (carries : ∀ src dst, Carries named (v2 src dst overIpv4 overIpv6) src dst) :
    v2 src dst overIpv4 overIpv6 = v2 src' dst' overIpv4 overIpv6 ↔
      canonical src = canonical src' ∧ canonical dst = canonical dst' := by
  constructor
  · intro same
    have other := carries src' dst'
    rw [← same] at other
    exact ((carries src dst).unique other).2
  · rintro ⟨source, dest⟩
    rw [← v2_canonical src, ← v2_canonical src', source, dest]

theorem proxy_headers_parse (src dst src' dst' : SocketAddr) :
    Carries .stream (v2Tcp src dst) src dst ∧
    Carries .dgram (v2Udp src dst) src dst ∧
    (v2Tcp src dst = v2Tcp src' dst' ↔ canonical src = canonical src' ∧ canonical dst = canonical dst') ∧
    (v2Udp src dst = v2Udp src' dst' ↔ canonical src = canonical src' ∧ canonical dst = canonical dst') ∧
    v2Tcp src dst ≠ v2Udp src' dst' := by
  refine ⟨v2_tcp_carries src dst, v2_udp_carries src dst, v2_eq_iff v2_tcp_carries, v2_eq_iff v2_udp_carries, ?_⟩
  intro same
  have tcp := v2_tcp_carries src dst
  rw [same] at tcp
  cases (tcp.unique (v2_udp_carries src' dst')).1

end Hawse.Proof.Proxy
