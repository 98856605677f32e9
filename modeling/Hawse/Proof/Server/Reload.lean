import Hawse.Lib.Fallible
import Hawse.Server.Reload

namespace Hawse.Proof.Reload
open Lib.Fallible Hawse.Server Hawse.ServerConfig
open Std (ExtTreeMap)

theorem lookup_fromConfig {cfg : ServerConfig} {key : PublicKey} {grant : Grant}
    (found : (Policy.fromConfig cfg).lookup key = some grant) :
    ∃ policy : ClientPolicy, cfg.clients[grant.name]? = some policy ∧ policy.key = key ∧
      grant.ports = policy.ports := by
  have folded (clients : List (String × ClientPolicy)) (byKey : ExtTreeMap PublicKey Grant)
      (found : (clients.foldl (fun byKey (client : String × ClientPolicy) => byKey.insert client.2.key
        ⟨client.1, client.2.ports, client.2.bind.getD cfg.bind, client.2.allow⟩) byKey)[key]? = some grant) :
      byKey[key]? = some grant ∨ ∃ policy, (grant.name, policy) ∈ clients ∧ policy.key = key ∧
        grant.ports = policy.ports := by
    induction clients generalizing byKey with
    | nil => exact .inl found
    | cons client clients ih =>
        rcases ih _ found with stored | ⟨policy, member, same⟩
        · rw [ExtTreeMap.getElem?_insert] at stored
          split_ifs at stored with same
          · obtain rfl := Option.some.inj stored
            exact .inr ⟨client.2, List.mem_cons_self, Std.compare_eq_iff_eq.mp same, rfl⟩
          · exact .inl stored
        · exact .inr ⟨policy, List.mem_cons_of_mem _ member, same⟩
  rcases folded cfg.clients.toList ∅ found with stored | ⟨policy, member, same⟩
  · simp at stored
  · exact ⟨policy, ExtTreeMap.mem_toList_iff_getElem?_eq_some.mp member, same⟩

theorem fromConfig_name {cfg : ServerConfig} {key key' : PublicKey} {grant grant' : Grant}
    (found : (Policy.fromConfig cfg).lookup key = some grant)
    (found' : (Policy.fromConfig cfg).lookup key' = some grant') (same : grant.name = grant'.name) :
    key = key' := by
  obtain ⟨policy, client, rfl, -⟩ := lookup_fromConfig found
  obtain ⟨policy', client', rfl, -⟩ := lookup_fromConfig found'
  rw [same] at client
  rw [Option.some.inj (client.symm.trans client')]

section Validate

theorem checkGrants_ok (listen : UInt16) (pool : PortSpan) (clients : List (String × ClientPolicy)) :
    checkGrants listen pool clients = .ok () ↔
      ∀ client ∈ clients, ∀ range ∈ client.2.ports, names listen range = false ∧ meets pool range = false := by
  induction clients with
  | nil => simp [checkGrants]
  | cons client clients ih =>
      obtain ⟨name, policy⟩ := client
      rw [checkGrants, List.forall_mem_cons, ← ih]
      split_ifs with named
      · obtain ⟨range, member, named⟩ := List.any_eq_true.mp named
        constructor
        · intro failed
          cases failed
        · rintro ⟨apart, -⟩
          cases (apart range member).1.symm.trans named
      · have unnamed : ∀ range ∈ policy.ports, names listen range = false := by simpa using named
        cases met : policy.ports.find? (meets pool) with
        | some range =>
            constructor
            · intro failed
              cases failed
            · rintro ⟨apart, -⟩
              cases (apart range (List.mem_of_find?_eq_some met)).2.symm.trans (List.find?_some met)
        | none =>
            have unmet : ∀ range ∈ policy.ports, meets pool range = false := by simpa using met
            exact ⟨fun rest => ⟨fun range member => ⟨unnamed range member, unmet range member⟩, rest⟩, And.right⟩

/-- The listen port is clear of the pool and of every grant, and the pool of every grant. -/
structure Clear (cfg : ServerConfig) : Prop where
  port : cfg.listen.port ≠ 0
  pool : cfg.dynamicPorts.containsNumber cfg.listen.port = false
  grants : ∀ (name : String) (policy : ClientPolicy), cfg.clients[name]? = some policy → ∀ range ∈ policy.ports,
    names cfg.listen.port range = false ∧ meets cfg.dynamicPorts.toPortSpan range = false

theorem forall_toList (clients : ExtTreeMap String ClientPolicy) (holds : ClientPolicy → Prop) :
    (∀ client ∈ clients.toList, holds client.2) ↔
      ∀ (name : String) (policy : ClientPolicy), clients[name]? = some policy → holds policy := by
  constructor
  · intro all name policy found
    exact all (name, policy) (ExtTreeMap.mem_toList_iff_getElem?_eq_some.mpr found)
  · rintro all ⟨name, policy⟩ member
    exact all name policy (ExtTreeMap.mem_toList_iff_getElem?_eq_some.mp member)

theorem checkListen_ok {cfg : ServerConfig} : cfg.checkListen = .ok () ↔ Clear cfg := by
  have grants := (checkGrants_ok cfg.listen.port cfg.dynamicPorts.toPortSpan cfg.clients.toList).trans
    (forall_toList cfg.clients fun policy => ∀ range ∈ policy.ports,
      names cfg.listen.port range = false ∧ meets cfg.dynamicPorts.toPortSpan range = false)
  unfold checkListen
  split_ifs with zero inside
  · exact iff_of_false id fun clear => clear.port zero
  · exact iff_of_false id fun clear => by simp [clear.pool] at inside
  · rw [grants]
    exact ⟨fun grants => ⟨zero, by simpa using inside, grants⟩, Clear.grants⟩

section
variable [Ipv6Net]

/-- What `validate` checks after the listen port and the grants. -/
def checkOthers (cfg : ServerConfig) : Except ConfigError Unit := do
  validateTransport cfg.transport.buffer cfg.transport.streamWindow cfg.transport.connectionWindow
    cfg.transport.idleTimeout
  if cfg.limits.streamsPerClient < 2 then throw .streamsPerClient
  if cfg.limits.udpSessionsPerService = 0 then throw .udpSessions
  checkClients ∅ cfg.clients.toList

theorem validate_ok {cfg : ServerConfig} : cfg.validate = .ok () ↔ Clear cfg ∧ checkOthers cfg = .ok () := by
  rw [← checkListen_ok]
  constructor
  · intro accepted
    obtain ⟨_, checked, others⟩ := bind_eq_ok.mp accepted
    exact ⟨checked, others⟩
  · rintro ⟨checked, others⟩
    exact bind_eq_ok.mpr ⟨(), checked, others⟩

end
end Validate

section Reload
variable [Ipv6Net]

theorem reloaded_self (cfg : ServerConfig) :
    reloaded cfg cfg = .ok (.fromConfig cfg) ↔ cfg.validate = .ok () := by
  constructor
  · intro reloads
    obtain ⟨_, accepted, -⟩ := bind_eq_ok.mp reloads
    exact accepted
  · intro accepted
    exact bind_eq_ok.mpr ⟨(), accepted, rfl⟩

theorem loadServer_validated {parse : String → Except String ServerConfig} {disk : String → OnDisk}
    {file : String} {cfg : ServerConfig} {located : Located}
    (loaded : loadServer parse disk file = .ok (cfg, located)) : cfg.validate = .ok () := by
  unfold loadServer at loaded
  obtain ⟨read, -, checked⟩ := bind_eq_ok.mp loaded
  split at checked
  · cases checked
  · rename_i accepted
    obtain ⟨rfl, -⟩ := Prod.mk.inj (Except.ok.inj checked)
    exact accepted

/-- A port that `--listen` may name without a later reload turning the config down. -/
def Spared (cfg : ServerConfig) (port : UInt16) : Prop :=
  port ≠ 0 ∧ cfg.dynamicPorts.containsNumber port = false ∧
    ∀ (name : String) (policy : ClientPolicy), cfg.clients[name]? = some policy →
      ∀ range ∈ policy.ports, names port range = false

theorem validate_listen {cfg : ServerConfig} (accepted : cfg.validate = .ok ()) (listen : SocketAddr) :
    { cfg with listen }.validate = .ok () ↔ Spared cfg listen.port := by
  obtain ⟨clear, others⟩ := validate_ok.mp accepted
  have same : checkOthers { cfg with listen } = checkOthers cfg := rfl
  rw [validate_ok, same]
  constructor
  · rintro ⟨cleared, -⟩
    exact ⟨cleared.port, cleared.pool, fun name policy found range member =>
      (cleared.grants name policy found range member).1⟩
  · rintro ⟨port, pool, grants⟩
    exact ⟨⟨port, pool, fun name policy found range member =>
      ⟨grants name policy found range member, (clear.grants name policy found range member).2⟩⟩, others⟩

/-- The start takes a `--listen` as it is, and the reload validates it. -/
theorem reload_unchanged (parse : String → Except String ServerConfig) (disk : String → OnDisk)
    (file : String) (listen : Option SocketAddr) (onFile : ServerConfig) (located : Located)
    (loaded : loadServer parse disk file = .ok (onFile, located)) :
    (∃ cfg, load parse disk file listen = .ok (cfg, located) ∧
      ∃ again, load parse disk file listen = .ok (again, located) ∧
        reloaded cfg again = .ok (.fromConfig cfg) ∧ cfg.needsRestart again = false) ↔
    ∀ addr, listen = some addr → Spared onFile addr.port := by
  have accepted := loadServer_validated loaded
  have calm (cfg : ServerConfig) : cfg.needsRestart cfg = false := by simp [needsRestart]
  cases listen with
  | none =>
      have same : load parse disk file none = .ok (onFile, located) := by
        unfold load
        rw [loaded]
        rfl
      refine iff_of_true ⟨onFile, same, onFile, same, (reloaded_self onFile).mpr accepted, calm onFile⟩ ?_
      intro _ impossible
      cases impossible
  | some listen =>
      have same : load parse disk file (some listen) = .ok ({ onFile with listen }, located) := by
        unfold load
        rw [loaded]
        rfl
      rw [same]
      constructor
      · rintro ⟨cfg, started, again, found, reloads, -⟩ addr given
        obtain rfl := Option.some.inj given
        obtain ⟨rfl, -⟩ := Prod.mk.inj (Except.ok.inj started)
        obtain ⟨rfl, -⟩ := Prod.mk.inj (Except.ok.inj found)
        exact (validate_listen accepted listen).mp ((reloaded_self _).mp reloads)
      · intro spared
        have accepted := (validate_listen accepted listen).mpr (spared listen rfl)
        exact ⟨_, rfl, _, rfl, (reloaded_self _).mpr accepted, calm _⟩

end Reload

section Example

local instance ipv6Net : Ipv6Net where
  network net := net.trunc.addr

/-- An empty `server.toml`, which leaves every setting at its default. -/
def emptyFile : String → OnDisk := fun _ => .text ""

theorem empty_loads : loadServer (fun _ => .ok default) emptyFile "server.toml" =
    .ok (default, ⟨"server.toml", true⟩) := by
  have accepted : default.validate = .ok () := by decide +kernel
  refine bind_eq_ok.mpr ⟨default, rfl, ?_⟩
  rw [accepted]
  rfl

theorem reload_unchanged_empty : ∃ cfg, load (fun _ => .ok default) emptyFile "server.toml" none =
    .ok (cfg, ⟨"server.toml", true⟩) ∧ ∃ policy, reloaded cfg cfg = .ok policy := by
  obtain ⟨cfg, started, again, found, reloads, -⟩ :=
    (reload_unchanged _ _ _ none default _ empty_loads).mpr (by rintro _ ⟨⟩)
  obtain ⟨rfl, -⟩ := Prod.mk.inj (Except.ok.inj (started.symm.trans found))
  exact ⟨cfg, started, _, reloads⟩

/-- `--listen 0.0.0.0:0` starts on a port the kernel picks, and no reload is taken up after that. -/
theorem reload_refused :
    loadServer (fun _ => .ok default) emptyFile "server.toml" = .ok (default, ⟨"server.toml", true⟩) ∧
    ∃ cfg, load (fun _ => .ok default) emptyFile "server.toml" (some ⟨.v4 0, 0⟩) =
      .ok (cfg, ⟨"server.toml", true⟩) ∧ reloaded cfg cfg = .error .listenPort := by
  refine ⟨empty_loads, { default with listen := ⟨.v4 0, 0⟩ }, ?_, rfl⟩
  unfold load
  rw [empty_loads]
  rfl

end Example
end Hawse.Proof.Reload
