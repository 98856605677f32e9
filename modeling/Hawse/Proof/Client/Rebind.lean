import Hawse.Proof.Client.Services

namespace Hawse.Proof.Client
open Lib Hawse.Client
open Std (ExtTreeMap)

/-- What a `Bind` says of a service: all of its `Expose` but where it leads. -/
structure Settings where
  kind : Kind
  port : Option UInt16
  allow : List IpNet
  proxyProtocol : Bool
deriving DecidableEq

def settings (expose : Expose) : Settings :=
  match expose.port with
  | .any kind => ⟨kind, none, expose.allow, expose.proxyProtocol⟩
  | .fixed port => ⟨port.kind, some port.number, expose.allow, expose.proxyProtocol⟩

/-- A server with these services bound is told something. A `Bind` that meets its name still bound is
refused, and there is no server after that. -/
def told (bound : ExtTreeMap String Settings) : ClientMessage → Option (ExtTreeMap String Settings)
  | .unbind service => some (bound.erase service)
  | .bind service kind port allow proxyProtocol =>
      if service ∈ bound then none else some (bound.insert service ⟨kind, port, allow, proxyProtocol⟩)
  | _ => some bound

theorem told_bind (bound : ExtTreeMap String Settings) (service : String) (expose : Expose) :
    told bound (Client.bind service expose) =
      if service ∈ bound then none else some (bound.insert service (settings expose)) := by
  unfold Client.bind settings
  cases expose.port <;> rfl

section Told
variable {bound : ExtTreeMap String Settings}

theorem told_unbinds (services : List String) (bound : ExtTreeMap String Settings) :
    ∃ left, (services.map ClientMessage.unbind).foldlM told bound = some left ∧
      ∀ service, left[service]? = if service ∈ services then none else bound[service]? := by
  induction services generalizing bound with
  | nil => exact ⟨bound, rfl, fun _ => by simp⟩
  | cons first services ih =>
      obtain ⟨left, ran, stored⟩ := ih (bound.erase first)
      refine ⟨left, ran, ?_⟩
      intro service
      rw [stored, ExtTreeMap.getElem?_erase]
      by_cases same : first = service
      · simp [same]
      · simp [same, Ne.symm same]

theorem told_binds {entries : List (String × Expose)} (distinct : (entries.map (·.1)).Nodup)
    (free : ∀ entry ∈ entries, entry.1 ∉ bound) :
    ∃ full, (entries.map fun entry => Client.bind entry.1 entry.2).foldlM told bound = some full ∧
      (∀ entry ∈ entries, full[entry.1]? = some (settings entry.2)) ∧
      ∀ service, service ∉ entries.map (·.1) → full[service]? = bound[service]? := by
  induction entries generalizing bound with
  | nil => exact ⟨bound, rfl, by simp, fun _ _ => rfl⟩
  | cons first entries ih =>
      obtain ⟨service, expose⟩ := first
      obtain ⟨fresh, distinct⟩ := List.nodup_cons.mp distinct
      have apart : ∀ entry ∈ entries, service ≠ entry.1 := by
        intro entry member same
        exact fresh (List.mem_map.mpr ⟨entry, member, same.symm⟩)
      have free' : ∀ entry ∈ entries, entry.1 ∉ bound.insert service (settings expose) := by
        intro entry member inserted
        rw [ExtTreeMap.mem_insert, Std.compare_eq_iff_eq] at inserted
        rcases inserted with same | held
        · exact apart entry member same
        · exact free entry (.tail _ member) held
      obtain ⟨full, ran, mine, others⟩ := ih distinct free'
      refine ⟨full, ?_, ?_, ?_⟩
      · rw [List.map_cons, List.foldlM_cons, told_bind, if_neg (free _ (.head _))]
        exact ran
      · intro entry member
        rcases List.mem_cons.mp member with rfl | member
        · rw [others _ fresh, ExtTreeMap.getElem?_insert_self]
        · exact mine entry member
      · intro other missing
        obtain ⟨different, missing⟩ := List.ne_and_not_mem_of_not_mem_cons missing
        rw [others other missing, ExtTreeMap.getElem?_insert, if_neg]
        rw [Std.compare_eq_iff_eq]
        exact Ne.symm different

end Told

section Turn
variable {exposed next : ExtTreeMap String Expose} {retry : Finset String}

/-- A server that has bound some of the services, and all of them but those to be tried again. -/
structure Partly (exposed : ExtTreeMap String Expose) (retry : Finset String)
    (bound : ExtTreeMap String Settings) : Prop where
  bound_of : ∀ (service : String) (settled : Settings), bound[service]? = some settled →
    ∃ expose, exposed[service]? = some expose ∧ settled = settings expose
  rest : ∀ (service : String) (expose : Expose), service ∉ retry → exposed[service]? = some expose →
    bound[service]? = some (settings expose)

theorem mem_changed {service : String} {expose : Expose} :
    (service, expose) ∈ (exposed.toList.filter fun entry => differs retry next entry.1 entry.2) ↔
      exposed[service]? = some expose ∧ Touched exposed next retry service := by
  rw [List.mem_filter, ExtTreeMap.mem_toList_iff_getElem?_eq_some]
  exact and_congr_right fun held => differs_iff exposed next retry service held

theorem mem_changed_names {service : String} :
    service ∈ (exposed.toList.filter fun entry => differs retry next entry.1 entry.2).map (·.1) ↔
      (∃ expose, exposed[service]? = some expose) ∧ Touched exposed next retry service := by
  constructor
  · intro named
    obtain ⟨⟨service, expose⟩, listed, rfl⟩ := List.mem_map.mp named
    obtain ⟨held, touched⟩ := mem_changed.mp listed
    exact ⟨⟨expose, held⟩, touched⟩
  · rintro ⟨⟨expose, held⟩, touched⟩
    exact List.mem_map_of_mem (mem_changed.mpr ⟨held, touched⟩)

theorem touched_comm {service : String} : Touched next exposed retry service ↔ Touched exposed next retry service :=
  or_congr_right ne_comm

theorem rebind_eq (exposed next : ExtTreeMap String Expose) (retry : Finset String) :
    rebind exposed next retry =
      (((exposed.toList.filter fun entry => differs retry next entry.1 entry.2).map (·.1)).map ClientMessage.unbind) ++
        (next.toList.filter fun entry => differs retry exposed entry.1 entry.2).map
          fun entry => Client.bind entry.1 entry.2 := by
  rw [List.map_map]
  rfl

theorem changed_distinct (map : ExtTreeMap String Expose) (keep : String × Expose → Bool) :
    ((map.toList.filter keep).map (·.1)).Nodup :=
  (List.filter_sublist.map _).nodup (toList_distinct map)

theorem told_rebind {bound : ExtTreeMap String Settings} (partly : Partly exposed retry bound) :
    (rebind exposed next retry).foldlM told bound = some (next.map fun _ expose => settings expose) := by
  rw [rebind_eq, List.foldlM_append]
  obtain ⟨left, ran, remaining⟩ := told_unbinds
    ((exposed.toList.filter fun entry => differs retry next entry.1 entry.2).map (·.1)) bound
  have gone : ∀ service, Touched exposed next retry service → left[service]? = none := by
    intro service touched
    rw [remaining]
    split_ifs with unbound
    · rfl
    · cases held : bound[service]? with
      | none => rfl
      | some settled =>
          obtain ⟨expose, named, -⟩ := partly.bound_of service settled held
          exact absurd (mem_changed_names.mpr ⟨⟨expose, named⟩, touched⟩) unbound
  have stays : ∀ service, ¬ Touched exposed next retry service → left[service]? = bound[service]? := by
    intro service untouched
    rw [remaining, if_neg]
    exact fun named => untouched (mem_changed_names.mp named).2
  have free : ∀ entry ∈ next.toList.filter fun entry => differs retry exposed entry.1 entry.2, entry.1 ∉ left := by
    rintro ⟨service, expose⟩ member held
    have touched := touched_comm.mp (mem_changed.mp member).2
    rw [← ExtTreeMap.isSome_getElem?_iff_mem, gone service touched] at held
    cases held
  obtain ⟨full, ran', mine, others⟩ := told_binds (changed_distinct next _) free
  rw [ran]
  refine ran'.trans (congrArg some (ExtTreeMap.ext_getElem? ?_))
  intro service
  rw [ExtTreeMap.getElem?_map]
  by_cases touched : Touched exposed next retry service
  · cases wanted : next[service]? with
    | some expose => exact mine (service, expose) (mem_changed.mpr ⟨wanted, touched_comm.mpr touched⟩)
    | none =>
        rw [others service, gone service touched]
        · rfl
        · intro named
          obtain ⟨⟨expose, held⟩, -⟩ := mem_changed_names.mp named
          rw [held] at wanted
          cases wanted
  · rw [others service, stays service touched, untouched touched]
    · cases named : exposed[service]? with
      | some expose => exact partly.rest service expose (fun again => touched (.inl again)) named
      | none =>
          cases held : bound[service]? with
          | none => rfl
          | some settled =>
              obtain ⟨expose, named', -⟩ := partly.bound_of service settled held
              rw [named] at named'
              cases named'
    · exact fun named => touched (touched_comm.mp (mem_changed_names.mp named).2)

theorem rebind_ordered {i j : Nat} {service other : String} {kind : Kind} {port : Option UInt16}
    {allow : List IpNet} {proxyProtocol : Bool}
    (unbind : (rebind exposed next retry)[i]? = some (.unbind service))
    (bind : (rebind exposed next retry)[j]? = some (.bind other kind port allow proxyProtocol)) : i < j := by
  rw [rebind_eq, List.getElem?_append] at unbind bind
  split_ifs at bind with early
  · obtain ⟨_, -, made⟩ := List.mem_map.mp (List.mem_of_getElem? bind)
    cases made
  · split_ifs at unbind with early'
    · omega
    · obtain ⟨entry, -, made⟩ := List.mem_map.mp (List.mem_of_getElem? unbind)
      unfold Client.bind at made
      cases port : entry.2.port <;> rw [port] at made <;> cases made

end Turn

theorem rebind_turns (exposed next : ExtTreeMap String Expose) (retry : Finset String)
    (bound : ExtTreeMap String Settings) (partly : Partly exposed retry bound) :
    (rebind exposed next retry).foldlM told bound = some (next.map fun _ expose => settings expose) ∧
    (∀ (i j : Nat) (service other : String) (kind : Kind) (port : Option UInt16) (allow : List IpNet)
      (proxyProtocol : Bool), (rebind exposed next retry)[i]? = some (.unbind service) →
      (rebind exposed next retry)[j]? = some (.bind other kind port allow proxyProtocol) → i < j) ∧
    (∀ (service : String) (expose : Expose), exposed[service]? = some expose → next[service]? = some expose →
      service ∉ retry → asks service (rebind exposed next retry) = []) ∧
    ∀ service, (asks service (rebind exposed next retry)).count .unbind ≤ 1 ∧
      (asks service (rebind exposed next retry)).count .bind ≤ 1 := by
  refine ⟨told_rebind partly, ?_, ?_, ?_⟩
  · intro i j service other kind port allow proxyProtocol
    exact rebind_ordered
  · intro service expose before after settled
    rw [asks_rebind, if_neg]
    rintro (again | changed)
    · exact settled again
    · exact changed (before.trans after.symm)
  · intro service
    rw [asks_rebind]
    split_ifs
    · cases exposed[service]? <;> cases next[service]? <;> simp
    · simp

/-- A service the server refused is asked for again, though nothing about it changed. -/
theorem rebind_turns_refused :
    Partly webExposed {"web"} ∅ ∧
    (rebind webExposed webExposed {"web"}).foldlM told ∅ = some (webExposed.map fun _ expose => settings expose) ∧
    (rebind webExposed webExposed {"web"}).length = 2 := by
  have partly : Partly webExposed {"web"} ∅ := by
    refine ⟨by simp, ?_⟩
    intro service expose other named
    have known : service ∈ webExposed := ExtTreeMap.isSome_getElem?_iff_mem.mp (by rw [named]; rfl)
    simp only [webExposed, ExtTreeMap.mem_insert, Std.compare_eq_iff_eq] at known
    rcases known with rfl | known
    · exact absurd (Finset.mem_singleton_self _) other
    · exact absurd known ExtTreeMap.not_mem_empty
  exact ⟨partly, (rebind_turns webExposed webExposed {"web"} ∅ partly).1, by decide⟩

end Hawse.Proof.Client
