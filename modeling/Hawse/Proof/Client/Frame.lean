import Hawse.Client.Session
import Hawse.Proof.Client.Services
import Hawse.Proof.Server.Reload
import Hawse.Proto.Packet

namespace Hawse.Proof.Client.Frame
open Lib Hawse.Client
open Hawse.Frame (maxFrame)
open Std (ExtTreeMap)

section Length

theorem varintLen_small {n : Nat} (small : n < 128) : varintLen n = 1 := by
  rw [varintLen, Nat.log_of_lt small]

theorem varintLen_le {n groups : Nat} (some : groups ≠ 0) (fits : n < 128 ^ groups) : varintLen n ≤ groups :=
  Nat.log_lt_of_lt_pow' some fits

def portLen : PortRequest → Nat
  | .any _ => 0
  | .fixed port => varintLen port.number.toNat

/-- The bytes of a bind for a service whose name's length takes one. -/
def bindLen (service : String) (expose : Expose) : Nat :=
  5 + service.utf8ByteSize + portLen expose.port + varintLen expose.allow.length +
    (expose.allow.map netLen).sum

variable [Postcard] [LawfulPostcard]
open LawfulPostcard

theorem nets_length (allow : List IpNet) :
    (allow.map Postcard.net).flatten.length = (allow.map netLen).sum := by
  rw [List.length_flatten, List.map_map]
  congr 1
  apply List.map_congr_left
  intro net _
  exact net_length net

theorem kind_length (kind : Kind) : kind.serialize.length = 1 := by
  cases kind <;> simp [Kind.serialize, variant_length]

theorem name_length {service : String} (short : service.utf8ByteSize < 128) :
    (Postcard.str service).length = 1 + service.utf8ByteSize := by
  rw [str_length, varintLen_small short]

theorem bind_length {service : String} (short : service.utf8ByteSize < 128) (expose : Expose) :
    (Client.bind service expose).serialize.length = bindLen service expose := by
  unfold Client.bind bindLen
  cases expose.port with
  | any kind =>
      simp only [ClientMessage.serialize, variant_length, Nat.reduceLT, List.flatten_cons, List.flatten_nil,
        List.length_append, List.length_nil, name_length short, kind_length, Option.map_none, none_length, seq_length,
        List.length_map, nets_length, bool_length, portLen]
      omega
  | fixed port =>
      simp only [ClientMessage.serialize, variant_length, Nat.reduceLT, List.flatten_cons, List.flatten_nil,
        List.length_append, List.length_nil, name_length short, kind_length, Option.map_some, some_length, u16_length,
        seq_length, List.length_map, nets_length, bool_length, portLen]
      omega

theorem unbind_length {service : String} (short : service.utf8ByteSize < 128) :
    (ClientMessage.unbind service).serialize.length = 2 + service.utf8ByteSize := by
  simp only [ClientMessage.serialize, variant_length, Nat.reduceLT, List.flatten_cons, List.flatten_nil,
    List.append_nil, name_length short]
  omega

theorem nonce_length (nonce : UInt64) : (Postcard.u64 nonce).length ≤ 10 := by
  rw [u64_length]
  apply varintLen_le (by decide)
  exact nonce.toNat_lt.trans (by decide)

theorem heartbeat_fits (nonce : UInt64) :
    (ClientMessage.ping nonce).serialize.length ≤ maxFrame ∧ (ClientMessage.pong nonce).serialize.length ≤ maxFrame := by
  have short := nonce_length nonce
  simp only [ClientMessage.serialize, variant_length, Nat.reduceLT, List.flatten_cons, List.flatten_nil,
    List.append_nil, maxFrame]
  omega

end Length

section Encode
variable [Postcard]

theorem encode_ok {msg : ClientMessage} (fits : msg.serialize.length ≤ maxFrame) :
    Hawse.Frame.encode msg = .ok msg.serialize := if_neg (Nat.not_lt.mpr fits)

theorem encode_tooLarge {msg : ClientMessage} (large : maxFrame < msg.serialize.length) :
    Hawse.Frame.encode msg = .error (.tooLarge msg.serialize.length) := if_pos large

theorem sendMsg_encode {msg : ClientMessage} {written : Bool} {error : FrameError}
    (ended : sendMsg msg written = .error (.encode error)) : maxFrame < msg.serialize.length := by
  by_contra fits
  unfold sendMsg at ended
  rw [encode_ok (Nat.le_of_not_lt fits)] at ended
  cases written <;> cases ended

theorem ask_encode {msgs : List (ClientMessage × Bool)} {error : FrameError}
    (ended : ask msgs = .error (.encode error)) : ∃ msg ∈ msgs.map (·.1), maxFrame < msg.serialize.length := by
  induction msgs with
  | nil => cases ended
  | cons sent msgs ih =>
      obtain ⟨msg, written⟩ := sent
      unfold ask at ended
      split at ended
      · rename_i error' failed
        obtain rfl : error' = .encode error := by simpa using ended
        exact ⟨msg, .head _, sendMsg_encode failed⟩
      · obtain ⟨other, member, large⟩ := ih ended
        exact ⟨other, .tail _ member, large⟩

theorem ask_tooLarge {msgs : List ClientMessage} (large : ∃ msg ∈ msgs, maxFrame < msg.serialize.length) :
    ∃ error, ask (msgs.map (·, true)) = .error (.encode error) := by
  induction msgs with
  | nil =>
      obtain ⟨msg, member, -⟩ := large
      cases member
  | cons first msgs ih =>
      by_cases fits : first.serialize.length ≤ maxFrame
      · have later : ∃ msg ∈ msgs, maxFrame < msg.serialize.length := by
          obtain ⟨msg, member, large⟩ := large
          rcases List.mem_cons.mp member with rfl | member
          · omega
          · exact ⟨msg, member, large⟩
        obtain ⟨error, ended⟩ := ih later
        refine ⟨error, ?_⟩
        simp only [List.map_cons, ask, sendMsg, encode_ok fits, ↓reduceIte]
        exact ended
      · refine ⟨.tooLarge first.serialize.length, ?_⟩
        simp only [List.map_cons, ask, sendMsg, encode_tooLarge (Nat.lt_of_not_le fits)]

end Encode

section Validate

theorem name_short {name : String} (valid : Name.validate name = .ok ()) : name.utf8ByteSize ≤ Name.maxLen := by
  unfold Name.validate at valid
  split at valid
  · cases valid
  · split_ifs at valid with start long
    exact Nat.le_of_not_lt long

variable [Ipv6Net]

theorem checkExposed_each {exposed : List (String × Expose)} (accepted : ClientConfig.checkExposed exposed = .ok ())
    {service : String} {expose : Expose} (member : (service, expose) ∈ exposed) :
    Name.validate service = .ok () ∧ mappedEntry expose.allow = none := by
  induction exposed with
  | nil => cases member
  | cons first exposed ih =>
      obtain ⟨name, settings⟩ := first
      unfold ClientConfig.checkExposed at accepted
      split at accepted
      · cases accepted
      · rename_i valid
        split at accepted
        · split at accepted
          · cases accepted
          · rename_i unmapped
            rcases List.mem_cons.mp member with same | member
            · obtain ⟨rfl, rfl⟩ := Prod.mk.inj same
              exact ⟨valid, unmapped⟩
            · exact ih accepted member
        · cases accepted

theorem validate_exposed {cfg : ClientConfig} (accepted : cfg.validate = .ok ()) :
    ClientConfig.checkExposed cfg.expose.toList = .ok () := by
  unfold ClientConfig.validate at accepted
  dsimp only at accepted
  split_ifs at accepted
  · cases accepted
  · split at accepted
    · cases accepted
    · obtain ⟨_, -, checked⟩ := Fallible.bind_eq_ok.mp accepted
      exact checked

theorem validate_named {cfg : ClientConfig} (accepted : cfg.validate = .ok ()) {service : String} {expose : Expose}
    (exposed : cfg.expose[service]? = some expose) : service.utf8ByteSize ≤ Name.maxLen :=
  name_short (checkExposed_each (validate_exposed accepted)
    (ExtTreeMap.mem_toList_iff_getElem?_eq_some.mpr exposed)).1

end Validate

section Session

/-- Every service there is can be asked for. -/
def Roomy (exposed : ExtTreeMap String Expose) : Prop :=
  ∀ (service : String) (expose : Expose), exposed[service]? = some expose → bindLen service expose ≤ maxFrame

/-- A config that loads and can be asked for. -/
def Askable [Ipv6Net] (cfg : ClientConfig) : Prop := cfg.validate = .ok () ∧ Roomy cfg.expose

/-- The same, of services with names `validate` lets through. -/
def Named (exposed : ExtTreeMap String Expose) : Prop :=
  ∀ (service : String) (expose : Expose), exposed[service]? = some expose →
    service.utf8ByteSize ≤ Name.maxLen ∧ bindLen service expose ≤ maxFrame

theorem Askable.named [Ipv6Net] {cfg : ClientConfig} (askable : Askable cfg) : Named cfg.expose :=
  fun service expose exposed => ⟨validate_named askable.1 exposed, askable.2 service expose exposed⟩

variable [Postcard]

structure Steady (this : Serve) : Prop where
  wanted : Named this.wanted
  exposed : Named this.state.services.exposed
  pending : ∀ msg ∈ this.pending, msg.serialize.length ≤ maxFrame

variable [LawfulPostcard]

theorem Named.bind_fits {exposed : ExtTreeMap String Expose} (named : Named exposed) {service : String}
    {expose : Expose} (member : (service, expose) ∈ exposed.toList) :
    (Client.bind service expose).serialize.length ≤ maxFrame := by
  obtain ⟨short, fits⟩ := named service expose (ExtTreeMap.mem_toList_iff_getElem?_eq_some.mp member)
  unfold Name.maxLen at short
  rw [bind_length (by omega)]
  exact fits

theorem Named.greeting_fits {exposed : ExtTreeMap String Expose} (named : Named exposed) :
    ∀ msg ∈ Serve.greeting exposed, msg.serialize.length ≤ maxFrame := by
  intro msg member
  obtain ⟨⟨service, expose⟩, listed, rfl⟩ := List.mem_map.mp member
  exact named.bind_fits listed

theorem Named.rebind_fits {exposed next : ExtTreeMap String Expose} (had : Named exposed) (wants : Named next)
    (retry : Finset String) : ∀ msg ∈ rebind exposed next retry, msg.serialize.length ≤ maxFrame := by
  intro msg member
  rcases List.mem_append.mp member with member | member
  · obtain ⟨⟨service, expose⟩, listed, rfl⟩ := List.mem_map.mp member
    have held := ExtTreeMap.mem_toList_iff_getElem?_eq_some.mp (List.mem_filter.mp listed).1
    obtain ⟨short, -⟩ := had service expose held
    unfold Name.maxLen at short
    rw [unbind_length (by omega)]
    unfold maxFrame
    omega
  · obtain ⟨⟨service, expose⟩, listed, rfl⟩ := List.mem_map.mp member
    exact wants.bind_fits (List.mem_filter.mp listed).1

omit [Postcard] [LawfulPostcard] in
theorem heard_exposed (this : State) (remote : SocketAddr) (msg : ServerMessage) :
    (this.heard remote msg).2.services.exposed = this.services.exposed := by
  cases answers : answer msg with
  | none => rw [heard_other this remote answers]
  | some answered =>
      obtain ⟨service, id⟩ := answered
      exact (heard_fields this (heard_heard this remote answers).2 service).1

theorem heard_fits (this : State) (remote : SocketAddr) {msg : ServerMessage} {reply : ClientMessage}
    (replied : (this.heard remote msg).1 = .ok (some reply)) : reply.serialize.length ≤ maxFrame := by
  cases answers : answer msg with
  | some answered =>
      obtain ⟨service, id⟩ := answered
      cases (heard_heard this remote answers).1.symm.trans replied
  | none =>
      cases msg with
      | ping nonce =>
          cases replied
          exact (heartbeat_fits nonce).2
      | bound | bindFailed => cases answers
      | pong | welcome | denied | shutdown => cases replied

theorem Steady.step {this next : Serve} {remote : SocketAddr} {event : Serve.Event}
    {reply : Except ClientError (Option ClientMessage)} (steady : Steady this)
    (loads : ∀ expose, event = .reload expose → Named expose)
    (stepped : this.step remote event = some (reply, next)) :
    Steady next ∧ ∀ msg, reply = .ok (some msg) → msg.serialize.length ≤ maxFrame := by
  cases event with
  | reload expose =>
      cases stepped
      exact ⟨⟨loads expose rfl, steady.exposed, steady.pending⟩, by simp⟩
  | pop =>
      simp only [Serve.step] at stepped
      split at stepped
      · cases stepped
      · rename_i msg pending first
        cases stepped
        have fits := steady.pending
        rw [first] at fits
        refine ⟨⟨steady.wanted, steady.exposed, fun msg member => fits msg (.tail _ member)⟩, ?_⟩
        rintro _ ⟨⟩
        exact fits msg (.head _)
  | changed =>
      simp only [Serve.step] at stepped
      split_ifs at stepped
      cases stepped
      refine ⟨⟨steady.wanted, steady.wanted, ?_⟩, by simp⟩
      intro msg member
      rcases List.mem_append.mp member with member | member
      · exact steady.pending msg member
      · exact steady.exposed.rebind_fits steady.wanted _ msg member
  | ping =>
      cases stepped
      refine ⟨⟨steady.wanted, steady.exposed, steady.pending⟩, ?_⟩
      rintro _ ⟨⟩
      exact (heartbeat_fits _).1
  | heard msg =>
      cases stepped
      refine ⟨⟨steady.wanted, ?_, steady.pending⟩, fun reply => heard_fits this.state remote⟩
      show Named (this.state.heard remote msg).2.services.exposed
      rw [heard_exposed]
      exact steady.exposed

theorem Steady.turn {this next : Serve} {remote : SocketAddr} {written : Bool} {event : Serve.Event}
    {result : Except SessionError Unit} (steady : Steady this)
    (loads : ∀ expose, event = .reload expose → Named expose)
    (turned : this.turn remote written event = some (result, next)) :
    Steady next ∧ ∀ error, result ≠ .error (.encode error) := by
  unfold Serve.turn at turned
  split at turned
  · cases turned
  · rename_i error after stepped
    cases turned
    exact ⟨(steady.step loads stepped).1, by simp⟩
  · rename_i after stepped
    cases turned
    exact ⟨(steady.step loads stepped).1, by simp⟩
  · rename_i msg after stepped
    cases turned
    obtain ⟨steady', fits⟩ := steady.step loads stepped
    refine ⟨steady', ?_⟩
    intro error ended
    exact absurd (fits msg rfl) (Nat.not_le.mpr (sendMsg_encode ended))

omit [Postcard] [LawfulPostcard] in
theorem loads_named [Ipv6Net] {event : Serve.Event} (loads : event.Loads Askable) (expose : ExtTreeMap String Expose)
    (reloads : event = .reload expose) : Named expose := by
  obtain ⟨cfg, askable, rfl⟩ := loads expose reloads
  exact askable.named

theorem reachable_steady [Ipv6Net] {remote : SocketAddr} {this : Serve}
    (reachable : (serving remote Askable).Reachable this) : Steady this := by
  apply reachable.invariant Steady
  · rintro _ ⟨cfg, askable, rfl⟩
    exact ⟨askable.named, askable.named, by simp [Serve.new]⟩
  · rintro before event after _ steady ⟨loads, written, turned⟩
    exact (steady.turn (loads_named loads) turned).1

end Session

section Fits

theorem sum_netLen_le (allow : List IpNet) : (allow.map netLen).sum ≤ 18 * allow.length := by
  induction allow with
  | nil => rfl
  | cons net allow ih =>
      have one : netLen net ≤ 18 := by cases net <;> simp [netLen]
      simp only [List.map_cons, List.sum_cons, List.length_cons]
      omega

theorem portLen_le (port : PortRequest) : portLen port ≤ 3 := by
  cases port with
  | any kind => exact Nat.zero_le 3
  | fixed port => exact varintLen_le (by decide) (port.number.toNat_lt.trans (by decide))

/-- Networks of the longer kind take the whole frame at 3639. -/
theorem bindLen_le {service : String} {expose : Expose} (named : service.utf8ByteSize ≤ Name.maxLen)
    (few : expose.allow.length ≤ 3638) : bindLen service expose ≤ maxFrame := by
  have nets := sum_netLen_le expose.allow
  have port := portLen_le expose.port
  have count : varintLen expose.allow.length ≤ 2 := varintLen_le (by decide) (by omega)
  unfold Name.maxLen at named
  unfold bindLen maxFrame
  omega

variable [Postcard] [LawfulPostcard]

theorem bind_encodes {service : String} (named : service.utf8ByteSize ≤ Name.maxLen) (expose : Expose) :
    (∃ bytes, Hawse.Frame.encode (Client.bind service expose) = .ok bytes ∧ bytes.length ≤ maxFrame) ↔
      bindLen service expose ≤ maxFrame := by
  unfold Name.maxLen at named
  rw [← bind_length (by omega)]
  constructor
  · rintro ⟨bytes, encoded, -⟩
    by_contra large
    rw [encode_tooLarge (Nat.lt_of_not_le large)] at encoded
    cases encoded
  · intro fits
    exact ⟨_, encode_ok fits, fits⟩

theorem connect_encodes [Ipv6Net] {cfg : ClientConfig} (accepted : cfg.validate = .ok ()) :
    (∀ asked : List (ClientMessage × Bool), asked.map (·.1) = Serve.greeting cfg.expose →
      ∀ error, ask asked ≠ .error (.encode error)) ↔ Roomy cfg.expose := by
  constructor
  · intro sent service expose exposed
    by_contra large
    have named := validate_named accepted exposed
    unfold Name.maxLen at named
    have listed : Client.bind service expose ∈ Serve.greeting cfg.expose :=
      List.mem_map.mpr ⟨(service, expose), ExtTreeMap.mem_toList_iff_getElem?_eq_some.mpr exposed, rfl⟩
    obtain ⟨error, ended⟩ := ask_tooLarge ⟨_, listed, by rw [bind_length (by omega)]; omega⟩
    refine sent _ ?_ error ended
    rw [List.map_map]
    exact List.map_id _
  · intro roomy asked greets error ended
    obtain ⟨msg, member, large⟩ := ask_encode ended
    have askable : Askable cfg := ⟨accepted, roomy⟩
    exact absurd (askable.named.greeting_fits msg (greets ▸ member)) (Nat.not_le.mpr large)

end Fits

/-- A bind that no frame holds is a config the client gives up on, and what can make one that long
is the service's `allow`. -/
theorem accepted_config_asked [Ipv6Net] [Postcard] [LawfulPostcard] (cfg : ClientConfig)
    (accepted : cfg.validate = .ok ()) :
    (∀ (service : String) (expose : Expose), cfg.expose[service]? = some expose →
      ((∃ bytes, Hawse.Frame.encode (Client.bind service expose) = .ok bytes ∧ bytes.length ≤ maxFrame) ↔
        bindLen service expose ≤ maxFrame) ∧
      (expose.allow.length ≤ 3638 → bindLen service expose ≤ maxFrame)) ∧
    ((∀ asked : List (ClientMessage × Bool), asked.map (·.1) = Serve.greeting cfg.expose →
      ∀ error, ask asked ≠ .error (.encode error)) ↔ Roomy cfg.expose) ∧
    (∀ remote this, (serving remote Askable).Reachable this → ∀ event written result next,
      event.Loads Askable → this.turn remote written event = some (result, next) →
        ∀ error, result ≠ .error (.encode error)) ∧
    ∀ error, classify (.encode error) = .config ∧ retries (.encode error) = false := by
  refine ⟨?_, connect_encodes accepted, ?_, fun error => ⟨rfl, rfl⟩⟩
  · intro service expose exposed
    have named := validate_named accepted exposed
    exact ⟨bind_encodes named expose, bindLen_le named⟩
  · intro remote this reachable event written result next loads turned
    exact ((reachable_steady reachable).turn (loads_named loads) turned).2

section Example
attribute [local instance] Proof.Reload.ipv6Net

def varint (n : Nat) : List UInt8 :=
  if n < 128 then [UInt8.ofNat n] else UInt8.ofNat (n % 128 + 128) :: varint (n / 128)
termination_by n
decreasing_by omega

theorem varint_length (n : Nat) : (varint n).length = varintLen n := by
  induction n using Nat.strongRecOn with
  | ind n ih =>
      unfold varint
      split_ifs with small
      · exact (varintLen_small small).symm
      · rw [List.length_cons, ih (n / 128) (by omega), varintLen, varintLen,
          Nat.log_of_one_lt_of_le (by decide) (Nat.le_of_not_lt small)]

local instance postcard : Postcard where
  variant index fields := varint index ++ fields.flatten
  str text := varint text.utf8ByteSize ++ text.toByteArray.data.toList
  u16 n := varint n.toNat
  u64 n := varint n.toNat
  bool b := [if b then 1 else 0]
  option
    | none => [0]
    | some value => 1 :: value
  seq values := varint values.length ++ values.flatten
  net
    | .v4 net => 0 :: octets net.addr ++ [UInt8.ofNat net.prefixLen]
    | .v6 net => 1 :: octets net.addr ++ [UInt8.ofNat net.prefixLen]

local instance lawfulPostcard : LawfulPostcard where
  variant_length index fields small := by
    show (varint index ++ fields.flatten).length = _
    rw [List.length_append, varint_length, varintLen_small small]
  str_length text := by
    show (varint text.utf8ByteSize ++ text.toByteArray.data.toList).length = _
    rw [List.length_append, varint_length]
    rfl
  u16_length n := varint_length n.toNat
  u64_length n := varint_length n.toNat
  bool_length b := rfl
  none_length := rfl
  some_length value := Nat.add_comm _ 1
  seq_length values := by
    show (varint values.length ++ values.flatten).length = _
    rw [List.length_append, varint_length]
  net_length net := by
    cases net with
    | v4 net =>
        show (0 :: octets net.addr ++ [UInt8.ofNat net.prefixLen]).length = 6
        simp [octets]
    | v6 net =>
        show (1 :: octets net.addr ++ [UInt8.ofNat net.prefixLen]).length = 18
        simp [octets]

def dns (allow : List IpNet) : Expose := ⟨"127.0.0.1:53", .any .udp, allow, false⟩

def dnsConfig (allow : List IpNet) : ClientConfig where
  server := "example.com"
  serverKey := Vector.replicate 32 7
  key := none
  name := none
  expose := (∅ : ExtTreeMap String Expose).insert "dns" (dns allow)
  transport := ⟨.auto, .cubic, 30000000000, (8 : UInt64) <<< 20, (64 : UInt64) <<< 20, (16 : UInt64) <<< 10⟩

/-- So many hosts of `10.0.0.0/8`. -/
def hosts (count : Nat) : List IpNet :=
  (List.range count).map fun i => .v4 ⟨BitVec.ofNat 32 (10 * 2 ^ 24 + i), 32, le_rfl⟩

theorem dnsConfig_accepted (count : Nat) : (dnsConfig (hosts count)).validate = .ok () := by
  have unmapped : mappedEntry (hosts count) = none := by
    simp [mappedEntry, hosts, ipv4Form]
  have checked : ClientConfig.checkExposed [("dns", dns (hosts count))] = .ok () := by
    have named : Name.validate "dns" = .ok () := by decide +kernel
    have ported : splitHostPort "127.0.0.1:53" = some ("127.0.0.1", some 53) := by decide +kernel
    simp only [ClientConfig.checkExposed, named, dns, ported, unmapped]
  have listed : (dnsConfig (hosts count)).expose.toList = [("dns", dns (hosts count))] := rfl
  have reached : splitHostPort "example.com" ≠ none := by decide +kernel
  have windows : validateTransport ((16 : UInt64) <<< 10) ((8 : UInt64) <<< 20) ((64 : UInt64) <<< 20) 30000000000 =
      .ok () := by decide +kernel
  unfold ClientConfig.validate
  rw [listed, checked]
  show (if splitHostPort "example.com" = none then _ else _) = _
  rw [if_neg reached]
  exact congrArg (Except.bind · _) windows

theorem hosts_netLen (count : Nat) : ((hosts count).map netLen).sum = 6 * count := by
  have each : (hosts count).map netLen = List.replicate count 6 := by
    unfold hosts
    rw [List.map_map]
    exact (List.map_const' ..).trans (by rw [List.length_range])
  rw [each, List.sum_replicate, smul_eq_mul, Nat.mul_comm]

theorem hosts_tooLarge {count : Nat} (many : 10922 < count) :
    maxFrame < (Client.bind "dns" (dns (hosts count))).serialize.length := by
  rw [bind_length (by decide)]
  have nets := hosts_netLen count
  unfold bindLen maxFrame
  show _ < _ + _ + _ + _ + ((hosts count).map netLen).sum
  omega

theorem hosts_asked {count : Nat} (many : 10922 < count) : ∃ len, maxFrame < len ∧
    Hawse.Frame.encode (Client.bind "dns" (dns (hosts count))) = .error (.tooLarge len) ∧
    ask ((Serve.greeting (dnsConfig (hosts count)).expose).map (·, true)) = .error (.encode (.tooLarge len)) := by
  have encoded := encode_tooLarge (hosts_tooLarge many)
  refine ⟨_, hosts_tooLarge many, encoded, ?_⟩
  show ask [(Client.bind "dns" (dns (hosts count)), true)] = _
  simp only [ask, sendMsg, encoded]

/-- Two IPv4 hosts take twelve bytes of a bind of twenty-one. -/
theorem accepted_config_asked_dns :
    ∃ bytes, Hawse.Frame.encode (Client.bind "dns" (dns (hosts 2))) = .ok bytes ∧ bytes.length ≤ maxFrame := by
  obtain ⟨each, -⟩ := accepted_config_asked (dnsConfig (hosts 2)) (dnsConfig_accepted 2)
  obtain ⟨encodes, few⟩ := each "dns" (dns (hosts 2)) ExtTreeMap.getElem?_insert_self
  exact encodes.mpr (few (by decide))

/-- The client loads a config whose service it cannot ask for, and stops for good at the greeting. -/
theorem long_allow_not_asked :
    (dnsConfig (hosts 10923)).validate = .ok () ∧
    (dnsConfig (hosts 10923)).expose["dns"]? = some (dns (hosts 10923)) ∧
    ∃ len, maxFrame < len ∧
      Hawse.Frame.encode (Client.bind "dns" (dns (hosts 10923))) = .error (.tooLarge len) ∧
      ask ((Serve.greeting (dnsConfig (hosts 10923)).expose).map (·, true)) = .error (.encode (.tooLarge len)) ∧
      retries (.encode (.tooLarge len)) = false := by
  obtain ⟨len, large, encoded, asked⟩ := hosts_asked (show 10922 < 10923 by decide)
  exact ⟨dnsConfig_accepted 10923, ExtTreeMap.getElem?_insert_self, len, large, encoded, asked, rfl⟩

end Example
end Hawse.Proof.Client.Frame
