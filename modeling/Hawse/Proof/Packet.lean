import Hawse.Client.Udp
import Hawse.Proof.Client.Frame

namespace Hawse.Proof.Packet
open Hawse.Packet Hawse.Server
open Hawse.Frame (maxFrame)
open Std (ExtTreeMap)

section Octets

def spell (start : Nat) (bytes : List UInt8) : Nat := bytes.foldl (fun n byte => 256 * n + byte.toNat) start

theorem spell_eq (start : Nat) (bytes : List UInt8) :
    ∃ rest < 256 ^ bytes.length, spell start bytes = start * 256 ^ bytes.length + rest := by
  induction bytes generalizing start with
  | nil => exact ⟨0, by simp, by simp [spell]⟩
  | cons byte bytes ih =>
      obtain ⟨rest, less, spelled⟩ := ih (256 * start + byte.toNat)
      have small := byte.toNat_lt
      refine ⟨byte.toNat * 256 ^ bytes.length + rest, ?_, ?_⟩
      · rw [List.length_cons, Nat.pow_succ]
        nlinarith
      · rw [List.length_cons, Nat.pow_succ]
        refine spelled.trans ?_
        ring

theorem octet_spell (start : Nat) (byte : UInt8) (bytes : List UInt8) :
    UInt8.ofNat (spell (256 * start + byte.toNat) bytes >>> (8 * bytes.length)) = byte := by
  obtain ⟨rest, less, spelled⟩ := spell_eq (256 * start + byte.toNat) bytes
  have power : 2 ^ (8 * bytes.length) = 256 ^ bytes.length := by rw [Nat.pow_mul]
  rw [Nat.shiftRight_eq_div_pow, power, spelled, Nat.mul_comm _ (256 ^ _),
    Nat.mul_add_div (Nat.pow_pos (by decide)), Nat.div_eq_of_lt less, Nat.add_zero]
  apply UInt8.toNat_inj.mp
  have small := byte.toNat_lt
  rw [UInt8.toNat_ofNat']
  omega

theorem octets_spell (start : Nat) (bytes : List UInt8) :
    ((List.range bytes.length).reverse.map fun i => UInt8.ofNat (spell start bytes >>> (8 * i))) = bytes := by
  induction bytes generalizing start with
  | nil => rfl
  | cons byte bytes ih =>
      rw [List.length_cons, List.range_succ, List.reverse_append, List.reverse_singleton, List.singleton_append,
        List.map_cons]
      exact congrArg₂ List.cons (octet_spell start byte bytes) (ih (256 * start + byte.toNat))

theorem spell_octets (start n count : Nat) :
    spell start ((List.range count).reverse.map fun i => UInt8.ofNat (n >>> (8 * i))) =
      start * 256 ^ count + n % 256 ^ count := by
  induction count generalizing start with
  | zero => simp [spell, Nat.mod_one]
  | succ count ih =>
      rw [List.range_succ, List.reverse_append, List.reverse_singleton, List.singleton_append, List.map_cons]
      refine (ih _).trans ?_
      have power : 2 ^ (8 * count) = 256 ^ count := by rw [Nat.pow_mul]
      have split : n % 256 ^ (count + 1) = n % 256 ^ count + 256 ^ count * (n / 256 ^ count % 256) := Nat.mod_pow_succ
      dsimp only
      rw [UInt8.toNat_ofNat', Nat.shiftRight_eq_div_pow, power, split, show 2 ^ 8 = 256 from rfl]
      ring

variable {w : Nat}

@[simp] theorem octets_length (bits : BitVec w) : (octets bits).length = w / 8 := by
  simp [octets]

theorem ofOctets_octets (whole : 8 ∣ w) (bits : BitVec w) : ofOctets w (octets bits) = bits := by
  obtain ⟨count, rfl⟩ := whole
  have power : 2 ^ (8 * count) = 256 ^ count := by rw [Nat.pow_mul]
  have less := bits.isLt
  have spelled := spell_octets 0 bits.toNat (8 * count / 8)
  apply BitVec.eq_of_toNat_eq
  rw [ofOctets, BitVec.toNat_ofNat]
  refine (congrArg (· % _) spelled).trans ?_
  rw [Nat.mul_div_cancel_left count (by decide), ← power, Nat.zero_mul, Nat.zero_add, Nat.mod_mod,
    Nat.mod_eq_of_lt less]

theorem octets_ofOctets (whole : 8 ∣ w) {bytes : List UInt8} (length : bytes.length = w / 8) :
    octets (ofOctets w bytes) = bytes := by
  obtain ⟨count, rfl⟩ := whole
  obtain ⟨rest, less, spelled⟩ := spell_eq 0 bytes
  have power : 2 ^ (8 * count) = 256 ^ bytes.length := by
    rw [Nat.pow_mul, length, Nat.mul_div_cancel_left count (by decide)]
  have value : (ofOctets (8 * count) bytes).toNat = spell 0 bytes := by
    rw [ofOctets, BitVec.toNat_ofNat]
    apply Nat.mod_eq_of_lt
    rw [power]
    exact lt_of_eq_of_lt (spelled.trans (by simp)) less
  rw [octets, value, ← length]
  exact octets_spell 0 bytes

end Octets

section Visitor
variable {Header : Type} {decode : List UInt8 → Option (Header × List UInt8)}

theorem port_octets {hi lo : UInt8} : octets (⟨ofOctets 16 [hi, lo]⟩ : UInt16).toBitVec = [hi, lo] :=
  octets_ofOctets (by decide) rfl

theorem octets_port (port : UInt16) : ∃ hi lo, octets port.toBitVec = [hi, lo] ∧ ⟨ofOctets 16 [hi, lo]⟩ = port := by
  have back := ofOctets_octets (by decide) port.toBitVec
  obtain ⟨hi, lo, pair⟩ := List.length_eq_two.mp (octets_length port.toBitVec)
  rw [pair] at back
  exact ⟨hi, lo, pair, congrArg UInt16.ofBitVec back⟩

theorem address_length (ip : IpAddr) : (address ip).length = 1 + addressLen ip := by
  cases ip <;> simp [address, addressLen]

theorem visitorIp_address (ip : IpAddr) (rest : List UInt8) : visitorIp (address ip ++ rest) = some (ip, rest) := by
  cases ip with
  | v4 bits =>
      have length := octets_length bits
      simp [address, visitorIp, List.take_left' length, List.drop_left' length, ofOctets_octets]
  | v6 bits =>
      have length := octets_length bits
      have other : ipv6 ≠ ipv4 := by decide
      simp [address, visitorIp, other, List.take_left' length, List.drop_left' length, ofOctets_octets]

theorem address_visitorIp {bytes rest : List UInt8} {ip : IpAddr} (read : visitorIp bytes = some (ip, rest)) :
    bytes = address ip ++ rest := by
  cases bytes with
  | nil => cases read
  | cons family bytes =>
      by_cases four : family = ipv4
      · simp only [visitorIp, four, ↓reduceIte, ne_eq, not_true_eq_false, false_and, false_or] at read
        split_ifs at read with short
        cases read
        have length := List.length_take_of_le (Nat.le_of_not_lt short)
        rw [address, octets_ofOctets (by decide) length, four, List.cons_append, List.take_append_drop]
      · simp only [visitorIp, four, ↓reduceIte, ne_eq, not_false_eq_true, true_and] at read
        split_ifs at read with bad
        cases read
        obtain ⟨six, long⟩ := not_or.mp bad
        have length := List.length_take_of_le (Nat.le_of_not_lt long)
        rw [address, octets_ofOctets (by decide) length, not_not.mp six, List.cons_append, List.take_append_drop]

theorem decodeFrom_eq_some {packet payload : List UInt8} {header : Header} {visitor : SocketAddr} :
    decodeFrom decode packet = some (header, visitor, payload) ↔
      decode packet = some (header, address visitor.ip ++ octets visitor.port.toBitVec ++ payload) := by
  unfold decodeFrom
  constructor
  · intro decoded
    split at decoded
    next => cases decoded
    next other rest headed =>
      split at decoded
      next ip hi lo after read =>
        cases decoded
        rw [headed, address_visitorIp read, port_octets, List.append_assoc]
        rfl
      next => cases decoded
  · intro headed
    obtain ⟨hi, lo, pair, port⟩ := octets_port visitor.port
    simp only [headed, List.append_assoc, visitorIp_address, pair, List.cons_append, port]
    rfl

/-- A known family, the whole of its address and a port. -/
def Visitor (bytes : List UInt8) : Prop :=
  ∃ family ip port payload, bytes = family :: ip ++ port ++ payload ∧ port.length = 2 ∧
    (family = ipv4 ∧ ip.length = 4 ∨ family = ipv6 ∧ ip.length = 16)

theorem visitor_iff {bytes : List UInt8} :
    Visitor bytes ↔ ∃ (visitor : SocketAddr) (payload : List UInt8),
      bytes = address visitor.ip ++ octets visitor.port.toBitVec ++ payload := by
  constructor
  · rintro ⟨family, ip, port, payload, rfl, two, kind⟩
    obtain ⟨hi, lo, rfl⟩ := List.length_eq_two.mp two
    rcases kind with ⟨rfl, length⟩ | ⟨rfl, length⟩
    · refine ⟨⟨.v4 (ofOctets 32 ip), ⟨ofOctets 16 [hi, lo]⟩⟩, payload, ?_⟩
      rw [port_octets, address, octets_ofOctets (by decide) length]
    · refine ⟨⟨.v6 (ofOctets 128 ip), ⟨ofOctets 16 [hi, lo]⟩⟩, payload, ?_⟩
      rw [port_octets, address, octets_ofOctets (by decide) length]
  · rintro ⟨⟨ip, port⟩, payload, rfl⟩
    cases ip with
    | v4 bits => exact ⟨ipv4, octets bits, _, payload, rfl, octets_length _, .inl ⟨rfl, octets_length bits⟩⟩
    | v6 bits => exact ⟨ipv6, octets bits, _, payload, rfl, octets_length _, .inr ⟨rfl, octets_length bits⟩⟩

theorem decodeFrom_eq_none {packet : List UInt8} :
    decodeFrom decode packet = none ↔
      decode packet = none ∨ ∃ header rest, decode packet = some (header, rest) ∧ ¬ Visitor rest := by
  constructor
  · intro failed
    cases headed : decode packet with
    | none => exact .inl rfl
    | some decoded =>
        refine .inr ⟨decoded.1, decoded.2, rfl, ?_⟩
        rw [visitor_iff]
        rintro ⟨visitor, payload, whole⟩
        have read := decodeFrom_eq_some.mpr (headed.trans (congrArg (fun rest => some (decoded.1, rest)) whole))
        rw [failed] at read
        cases read
  · intro failed
    cases read : decodeFrom decode packet with
    | none => rfl
    | some decoded =>
        have headed := decodeFrom_eq_some.mp read
        rcases failed with none | ⟨header, rest, headed', cut⟩
        · rw [headed] at none
          cases none
        · rw [headed] at headed'
          cases headed'
          exact absurd (visitor_iff.mpr ⟨_, _, rfl⟩) cut

end Visitor

def headerLen (header : DatagramHeader) : Nat :=
  varintLen header.serviceId.toNat + varintLen header.session.toNat

theorem headerLen_le (header : DatagramHeader) : headerLen header ≤ headerMax :=
  Nat.add_le_add (Client.Frame.varintLen_le (by decide) (header.serviceId.toNat_lt.trans (by decide)))
    (Client.Frame.varintLen_le (by decide) (header.session.toNat_lt.trans (by decide)))

section Encode

theorem ok_ite {Error Value : Type} {large : Prop} [Decidable large] {error : Error} {value found : Value}
    (made : (if large then Except.error error else .ok value) = .ok found) : found = value := by
  split_ifs at made
  exact (Except.ok.inj made).symm

theorem exists_ok_ite {Error Value : Type} {size limit : Nat} {error : Error} {value : Value} :
    (∃ found, (if limit < size then Except.error error else .ok value) = .ok found) ↔ size ≤ limit := by
  split_ifs with large <;> simp <;> omega

variable [Slice DatagramHeader] [lawful : LawfulSlice DatagramHeader headerLen] (header : DatagramHeader)
  (visitor : SocketAddr) (payload : List UInt8)
include lawful

theorem toSlice_eq : toSlice header = .ok (Slice.write header) := by
  have fits := headerLen_le header
  have length := lawful.write_length header
  rw [toSlice, if_neg]
  omega

theorem encode_eq :
    encode header payload =
      if maxFrame < headerLen header + payload.length then .error (.tooLarge (headerLen header + payload.length))
      else .ok (Slice.write header ++ payload) := by
  rw [encode, toSlice_eq, ← lawful.write_length header]
  rfl

def fromLen (header : DatagramHeader) (visitor : SocketAddr) (payload : List UInt8) : Nat :=
  headerLen header + 1 + addressLen visitor.ip.toCanonical + 2 + payload.length

theorem encodeFrom_eq :
    encodeFrom header visitor payload =
      if maxFrame < fromLen header visitor payload then .error (.tooLarge (fromLen header visitor payload))
      else .ok (Slice.write header ++
        (address visitor.ip.toCanonical ++ octets visitor.port.toBitVec ++ payload)) := by
  rw [encodeFrom, toSlice_eq, fromLen, ← lawful.write_length header, ← List.append_assoc, ← List.append_assoc]
  rfl

theorem decode_encode (packet : List UInt8) (made : encode header payload = .ok packet) :
    decode packet = some (header, payload) := by
  rw [encode_eq] at made
  rw [ok_ite made]
  exact lawful.take_write header payload

theorem decode_encodeFrom (packet : List UInt8) (made : encodeFrom header visitor payload = .ok packet) :
    decode packet =
      some (header, address visitor.ip.toCanonical ++ octets visitor.port.toBitVec ++ payload) := by
  rw [encodeFrom_eq] at made
  rw [ok_ite made]
  exact lawful.take_write header _

/-- One header, two layouts: what the plain decoder makes of a packet with a visitor in it starts with
the same header. -/
theorem packet_layouts :
    (∀ (header : DatagramHeader) (payload : List UInt8),
      ((∃ packet, encode header payload = .ok packet) ↔ headerLen header + payload.length ≤ maxFrame) ∧
      (payload.length ≤ 65527 → ∃ packet, encode header payload = .ok packet) ∧
      ∀ packet, encode header payload = .ok packet → decode packet = some (header, payload)) ∧
    (∀ (header : DatagramHeader) (visitor : SocketAddr) (payload : List UInt8),
      ((∃ packet, encodeFrom header visitor payload = .ok packet) ↔
        headerLen header + (address visitor.ip.toCanonical).length + 2 + payload.length ≤ maxFrame) ∧
      ∀ packet, encodeFrom header visitor payload = .ok packet →
        decodeFrom decode packet = some (header, ⟨visitor.ip.toCanonical, visitor.port⟩, payload) ∧
        ∃ rest, decode packet = some (header, rest)) ∧
    (∀ (header : DatagramHeader) (visitor : SocketAddr) (payload packet : List UInt8)
      (registry : ExtTreeMap UInt16 Hawse.Client.UdpLocal),
      encode header payload = .ok packet ∨ encodeFrom header visitor payload = .ok packet →
        Hawse.Client.demux decode registry packet = registry[header.serviceId]?) ∧
    (∀ packet, decodeFrom (decode : Decode) packet = none ↔ (decode : Decode) packet = none ∨
      ∃ (header : DatagramHeader) (rest : List UInt8), decode packet = some (header, rest) ∧ ¬ Visitor rest) ∧
    ∀ packet (header : DatagramHeader) (visitor : SocketAddr) (payload : List UInt8),
      decodeFrom decode packet = some (header, visitor, payload) →
        ∃ head, decode head = some (header, []) ∧
          packet = head ++ address visitor.ip ++ octets visitor.port.toBitVec ++ payload := by
  refine ⟨?_, ?_, ?_, fun _ => decodeFrom_eq_none, ?_⟩
  · intro header payload
    have fits := headerLen_le header
    have succeeds : (∃ packet, encode header payload = .ok packet) ↔
        headerLen header + payload.length ≤ maxFrame := by
      rw [encode_eq]
      exact exists_ok_ite
    refine ⟨succeeds, ?_, decode_encode header payload⟩
    intro short
    rw [succeeds]
    unfold maxFrame
    unfold headerMax at fits
    omega
  · intro header visitor payload
    refine ⟨?_, ?_⟩
    · rw [encodeFrom_eq, exists_ok_ite, address_length, fromLen]
      omega
    · intro packet made
      have headed := decode_encodeFrom header visitor payload packet made
      exact ⟨decodeFrom_eq_some.mpr headed, _, headed⟩
  · rintro header visitor payload packet registry (made | made)
    · simp only [Hawse.Client.demux, decode_encode header payload packet made]
    · simp only [Hawse.Client.demux, decode_encodeFrom header visitor payload packet made]
  · intro packet header visitor payload read
    obtain ⟨head, rfl, alone⟩ := lawful.take_prefix packet header _ (decodeFrom_eq_some.mp read)
    refine ⟨head, ?_, by simp only [List.append_assoc]⟩
    have none_left := alone []
    rwa [List.append_nil] at none_left

end Encode

section Example
open Client.Frame (varint varint_length)

/-- `postcard`'s varint, of so many bytes at most. -/
def takeVarint : Nat → List UInt8 → Option (Nat × List UInt8)
  | 0, _ => none
  | _ + 1, [] => none
  | left + 1, byte :: bytes =>
      if byte.toNat < 128 then some (byte.toNat, bytes)
      else (takeVarint left bytes).map fun (n, rest) => (128 * n + (byte.toNat - 128), rest)

theorem takeVarint_varint {left n : Nat} (some : left ≠ 0) (fits : n < 128 ^ left) (rest : List UInt8) :
    takeVarint left (varint n ++ rest) = .some (n, rest) := by
  induction left generalizing n with
  | zero => exact absurd rfl some
  | succ left ih =>
      unfold varint
      split_ifs with small
      · have value : (UInt8.ofNat n).toNat = n := by
          rw [UInt8.toNat_ofNat']
          omega
        rw [List.singleton_append, takeVarint, value, if_pos small]
      · have value : (UInt8.ofNat (n % 128 + 128)).toNat = n % 128 + 128 := by
          rw [UInt8.toNat_ofNat']
          omega
        have more : left ≠ 0 := by
          rintro rfl
          omega
        have less : n / 128 < 128 ^ left := Nat.div_lt_of_lt_mul (by rwa [← Nat.pow_succ'])
        rw [List.cons_append, takeVarint, value, if_neg (by omega), ih more less]
        refine congrArg Option.some (Prod.ext ?_ rfl)
        show 128 * (n / 128) + (n % 128 + 128 - 128) = n
        omega

theorem takeVarint_prefix {left n : Nat} {packet rest : List UInt8} (taken : takeVarint left packet = some (n, rest)) :
    ∃ head, packet = head ++ rest ∧ ∀ other, takeVarint left (head ++ other) = some (n, other) := by
  induction left generalizing n packet with
  | zero => cases taken
  | succ left ih =>
      cases packet with
      | nil => cases taken
      | cons byte bytes =>
          rw [takeVarint] at taken
          split_ifs at taken with last
          · cases taken
            refine ⟨[byte], rfl, ?_⟩
            intro other
            rw [List.singleton_append, takeVarint, if_pos last]
          · obtain ⟨⟨more, rest'⟩, read, made⟩ := Option.map_eq_some_iff.mp taken
            obtain ⟨rfl, rfl⟩ := Prod.mk.inj made
            obtain ⟨head, rfl, alone⟩ := ih read
            refine ⟨byte :: head, rfl, ?_⟩
            intro other
            rw [List.cons_append, takeVarint, if_neg last, alone other, Option.map_some]

def takeHeader (packet : List UInt8) : Option (DatagramHeader × List UInt8) :=
  match takeVarint 3 packet with
  | none => none
  | some (serviceId, rest) =>
      match takeVarint 5 rest with
      | none => none
      | some (session, rest) =>
          if serviceId < 2 ^ 16 ∧ session < 2 ^ 32 then some (⟨.ofNat serviceId, .ofNat session⟩, rest) else none

local instance slice : Slice DatagramHeader where
  write header := varint header.serviceId.toNat ++ varint header.session.toNat
  take := takeHeader

local instance lawfulSlice : LawfulSlice DatagramHeader headerLen where
  write_length header := by
    show (varint header.serviceId.toNat ++ varint header.session.toNat).length = _
    rw [List.length_append, varint_length, varint_length]
    rfl
  take_write header rest := by
    have service : header.serviceId.toNat < 128 ^ 3 := header.serviceId.toNat_lt.trans (by decide)
    have session : header.session.toNat < 128 ^ 5 := header.session.toNat_lt.trans (by decide)
    have small := header.serviceId.toNat_lt
    have small' := header.session.toNat_lt
    show takeHeader (varint header.serviceId.toNat ++ varint header.session.toNat ++ rest) = _
    simp only [takeHeader, List.append_assoc, takeVarint_varint (by decide) service, takeVarint_varint (by decide) session,
      small, small', and_self, ↓reduceIte, UInt16.ofNat_toNat, UInt32.ofNat_toNat]
  take_prefix packet header rest taken := by
    have taken : takeHeader packet = some (header, rest) := taken
    unfold takeHeader at taken
    cases first : takeVarint 3 packet with
    | none => simp [first] at taken
    | some read =>
        obtain ⟨serviceId, bytes⟩ := read
        cases second : takeVarint 5 bytes with
        | none => simp [first, second] at taken
        | some read =>
            obtain ⟨session, bytes'⟩ := read
            simp only [first, second] at taken
            split_ifs at taken with small
            cases taken
            obtain ⟨head, rfl, alone⟩ := takeVarint_prefix first
            obtain ⟨head', rfl, alone'⟩ := takeVarint_prefix second
            refine ⟨head ++ head', (List.append_assoc ..).symm, ?_⟩
            intro other
            show takeHeader (head ++ head' ++ other) = _
            rw [List.append_assoc]
            simp only [takeHeader, alone, alone', small, and_self, ↓reduceIte]

/-- A visitor seen as `::ffff:192.0.2.1` takes seven bytes. -/
theorem packet_layouts_mapped : ∃ packet,
    encodeFrom (⟨7, 9⟩ : DatagramHeader) ⟨.v6 0xffffc0000201, 53⟩ [104, 105] = .ok packet ∧
    decodeFrom (decode : Decode) packet = some (⟨7, 9⟩, ⟨.v4 0xc0000201, 53⟩, [104, 105]) := by
  obtain ⟨-, layout, -⟩ := packet_layouts
  obtain ⟨succeeds, back⟩ := layout ⟨7, 9⟩ ⟨.v6 0xffffc0000201, 53⟩ [104, 105]
  obtain ⟨packet, made⟩ := succeeds.mpr (by decide)
  exact ⟨packet, made, (back packet made).1⟩

end Example
end Hawse.Proof.Packet
