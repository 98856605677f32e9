import Hawse.Proof.Client.Udp

namespace Hawse.Proof.Client.Udp
open Lib Hawse.Client

section Attended
variable {this next : UdpSessions} {event : UdpSessions.Event}

/-- No reader gives its session up, for being idle, while a delivery has it in hand. -/
def Spared (this : UdpSessions) (event : UdpSessions.Event) : Prop :=
  ∀ r reader, event = .wake r → this.readers[r]? = some reader →
    this.used reader.session + this.idle ≤ this.now →
    ∀ delivery ∈ this.deliveries, ¬ Holds delivery.stage reader.session

def Running (stage : Reading) : Prop := stage = .looping ∨ ∃ expires, stage = .waiting expires

def Failed (stage : Reading) : Prop := stage = .leaving .failed ∨ stage = .left .failed

/-- There is someone for a reply to a datagram sent on the session now: its reader, or the delivery
about to start it. Otherwise it was evicted, its service unbound, or its socket failed. -/
structure Attended (this : UdpSessions) (h : Nat) : Prop where
  unexpired : ∀ reader ∈ this.readers, reader.session = h → reader.stage ≠ .expired
  live : (∃ reader ∈ this.readers, reader.session = h ∧ Running reader.stage) ∨
    (∃ delivery ∈ this.deliveries, opens h delivery = true) ∨ this.cancelled h = true ∨
    ∃ reader ∈ this.readers, reader.session = h ∧ Failed reader.stage

theorem Inv.attended (inv : Inv this) {h : Nat} (made : h < (marks this).length)
    (unexpired : ∀ reader ∈ this.readers, reader.session = h → reader.stage ≠ .expired) : Attended this h := by
  refine ⟨unexpired, ?_⟩
  have one := inv.once h made
  unfold tasks at one
  rcases Nat.eq_zero_or_pos (this.readers.countP (reads h)) with none | some
  · have opening : 0 < this.deliveries.countP (opens h) := by omega
    exact .inr (.inl (List.countP_pos_iff.mp opening))
  · obtain ⟨reader, member, mine⟩ := List.countP_pos_iff.mp some
    have mine : reader.session = h := of_decide_eq_true mine
    cases stage : reader.stage with
    | looping => exact .inl ⟨reader, member, mine, .inl stage⟩
    | waiting expires => exact .inl ⟨reader, member, mine, .inr ⟨expires, stage⟩⟩
    | expired => exact absurd stage (unexpired reader member mine)
    | leaving exit =>
        cases exit with
        | cancelled => exact .inr (.inr (.inl (mine ▸ inv.told reader member (.inl stage))))
        | failed => exact .inr (.inr (.inr ⟨reader, member, mine, .inl stage⟩))
    | left exit =>
        cases exit with
        | cancelled => exact .inr (.inr (.inl (mine ▸ inv.told reader member (.inr stage))))
        | failed => exact .inr (.inr (.inr ⟨reader, member, mine, .inr stage⟩))

/-- What the deliveries have in hand was made, and no reader has given it up. -/
def Awaited (this : UdpSessions) : Prop :=
  ∀ delivery ∈ this.deliveries, ∀ h, Holds delivery.stage h →
    h < (marks this).length ∧ ∀ reader ∈ this.readers, reader.session = h → reader.stage ≠ .expired

theorem Moved.made_mono (moved : Moved this event next) : (marks this).length ≤ (marks next).length := by
  cases moved with
  | idle same | arrived _ _ _ same | delivered _ _ _ _ _ same | spawned _ _ _ _ _ _ _ _ same
  | turned _ _ _ _ _ same | returned _ _ _ _ _ _ same => rw [same]
  | inserted i before after id' found opened locks spawning absent read evicted evicts made =>
      rw [marks_inserted made, List.length_append, evicts.length]
      exact Nat.le_add_right _ _

theorem Inv.unread (inv : Inv this) {delivery : Delivery} (member : delivery ∈ this.deliveries) {id : UInt32}
    {h : Nat} (spawning : delivery.stage = .spawning id h) :
    h < (marks this).length ∧ ∀ reader ∈ this.readers, reader.session ≠ h := by
  obtain ⟨c, marked⟩ := inv.known.opening delivery member id h spawning
  refine ⟨marked_lt marked, ?_⟩
  intro reader reading mine
  have one := inv.once h (marked_lt marked)
  have opening : 0 < this.deliveries.countP (opens h) :=
    List.countP_pos_iff.mpr ⟨delivery, member, by simp [opens, spawning]⟩
  have read : 0 < this.readers.countP (reads h) :=
    List.countP_pos_iff.mpr ⟨reader, reading, decide_eq_true mine⟩
  unfold tasks at one
  omega

theorem Moved.holds (moved : Moved this event next) {delivery : Delivery} (member : delivery ∈ next.deliveries)
    {h : Nat} (holds : Holds delivery.stage h) :
    (∃ before ∈ this.deliveries, Holds before.stage h ∨ ∃ id, before.stage = .spawning id h) ∨
      ∃ id : UInt32, this.sessions[id]? = some h := by
  cases moved with
  | idle _ _ _ deliveries | turned _ _ _ _ _ _ _ _ deliveries | returned _ _ _ _ _ _ _ _ _ deliveries =>
      rw [deliveries] at member
      exact .inl ⟨delivery, member, .inl holds⟩
  | arrived new id stage _ _ _ deliveries =>
      rw [deliveries] at member
      rcases List.mem_append.mp member with member | member
      · exact .inl ⟨delivery, member, .inl holds⟩
      · obtain rfl := List.mem_singleton.mp member
        rw [stage] at holds
        exact holds.elim
  | delivered i before after found goes _ _ _ deliveries =>
      rw [deliveries] at member
      rcases List.mem_or_eq_of_mem_set member with member | rfl
      · exact .inl ⟨delivery, member, .inl holds⟩
      · rcases goes.holds h holds with held | listed
        · exact .inl ⟨before, List.mem_of_getElem? found, .inl held⟩
        · exact .inr listed
  | inserted i before after id found opened locks spawning absent read evicted evicts made sessions readers deliveries =>
      rw [deliveries] at member
      rcases List.mem_or_eq_of_mem_set member with member | rfl
      · exact .inl ⟨delivery, member, .inl holds⟩
      · rw [spawning] at holds
        exact holds.elim
  | spawned i before after id h' found spawning touching _ _ readers deliveries =>
      rw [deliveries] at member
      rcases List.mem_or_eq_of_mem_set member with member | rfl
      · exact .inl ⟨delivery, member, .inl holds⟩
      · rw [touching] at holds
        obtain rfl : h' = h := holds
        exact .inl ⟨before, List.mem_of_getElem? found, .inr ⟨id, spawning⟩⟩

theorem Moved.expired (moved : Moved this event next) {reader : Reader} (reading : reader ∈ next.readers)
    (expired : reader.stage = .expired) :
    reader ∈ this.readers ∨ next.deliveries = this.deliveries ∧ ∃ r old, event = .wake r ∧
      this.readers[r]? = some old ∧ old.session = reader.session ∧ this.used old.session + this.idle ≤ this.now := by
  cases moved with
  | idle _ _ readers _ | arrived _ _ _ _ _ readers _ | delivered _ _ _ _ _ _ _ readers _
  | inserted _ _ _ _ _ _ _ _ _ _ _ _ _ _ readers _ =>
      rw [readers] at reading
      exact .inl reading
  | spawned i before after id h found spawning touching _ _ readers _ =>
      rw [readers] at reading
      rcases List.mem_append.mp reading with reading | reading
      · exact .inl reading
      · obtain rfl := List.mem_singleton.mp reading
        cases expired
  | turned i old stage found turns _ _ readers _ =>
      rw [readers] at reading
      rcases List.mem_or_eq_of_mem_set reading with reading | rfl
      · exact .inl reading
      · obtain rfl : stage = .expired := expired
        generalize old.stage = before at turns
        cases turns
  | returned i old stage found _ returns _ _ readers deliveries =>
      rw [readers] at reading
      rcases List.mem_or_eq_of_mem_set reading with reading | rfl
      · exact .inl reading
      · obtain rfl : stage = .expired := expired
        generalize old.stage = before at returns
        cases returns with
        | expire expires woken idle => exact .inr ⟨deliveries, i, old, woken, found, rfl, idle⟩

theorem Awaited.step (awaited : Awaited this) (inv : Inv this) (moved : Moved this event next)
    (spared : Spared this event) : Awaited next := by
  intro delivery member h holds
  have was : h < (marks this).length ∧ ∀ reader ∈ this.readers, reader.session = h → reader.stage ≠ .expired := by
    rcases moved.holds member holds with ⟨before, was, holds | ⟨id, spawning⟩⟩ | ⟨id, held⟩
    · exact awaited before was h holds
    · obtain ⟨bound, unread⟩ := inv.unread was spawning
      exact ⟨bound, fun reader reading mine => absurd mine (unread reader reading)⟩
    · -- A session in the table has a reader that is not back.
      obtain ⟨c, marked⟩ := inv.known.held id h held
      refine ⟨marked_lt marked, ?_⟩
      rintro reader reading rfl expired
      exact inv.gone reader reading (.inl expired) id held
  refine ⟨was.1.trans_le moved.made_mono, ?_⟩
  rintro reader reading rfl expired
  rcases moved.expired reading expired with reading | ⟨same, r, old, woken, found, session, idle⟩
  · exact was.2 reader reading rfl expired
  · rw [same] at member
    exact spared r old woken found idle delivery member (session ▸ holds)

theorem send_sending {decode : Server.Decode} {i : Nat} {sends : Bool}
    (stepped : this.step decode (.send i sends) = some next) :
    ∃ delivery h, this.deliveries[i]? = some delivery ∧ delivery.stage = .sending h := by
  obtain ⟨stepped, -⟩ := step_turn stepped
  simp only [UdpSessions.turn] at stepped
  split at stepped
  · rename_i datagram len h found
    exact ⟨_, h, found, rfl⟩
  · cases stepped

end Attended

section Swallowed
variable {decode : Server.Decode} {this next : UdpSessions} {r : Nat} {reader : Reader}

def Expired (this : UdpSessions) (h : Nat) : Prop := ∃ reader ∈ this.readers, reader.session = h ∧ reader.stage = .expired

/-- The run can go on to a datagram sent on a session whose reader has given it up. -/
def Swallows (decode : Server.Decode) (this : UdpSessions) : Prop :=
  ∃ events before after i delivery h, System.run (UdpSessions.step decode) this events = some before ∧
    before.step decode (.send i true) = some after ∧ before.deliveries[i]? = some delivery ∧
    delivery.stage = .sending h ∧ Expired before h

theorem wake_expires (stepped : this.step decode (.wake r) = some next) (found : this.readers[r]? = some reader)
    (idle : this.used reader.session + this.idle ≤ this.now) :
    next.deliveries = this.deliveries ∧ Expired next reader.session := by
  obtain ⟨stepped, -⟩ := step_turn stepped
  simp only [UdpSessions.turn] at stepped
  split at stepped
  · rename_i id session expires found'
    obtain rfl := Option.some.inj (found.symm.trans found')
    split_ifs at stepped
    obtain rfl := Option.some.inj stepped
    have bound := (List.getElem?_eq_some_iff.mp found).1
    rw [forget_eq]
    exact ⟨rfl, _, List.mem_set bound _, rfl, rfl⟩
  · cases stepped

theorem send_enabled {datagram : List UInt8} {len i h : Nat}
    (found : this.deliveries[i]? = some ⟨datagram, len, .sending h⟩) :
    ∃ next, this.step decode (.send i true) = some next := by
  simp [UdpSessions.step, UdpSessions.turn, UdpSessions.Event.locks, found]

/-- A delivery has no step left but to touch and send, and nothing is in its way. -/
theorem swallows {delivery : Delivery} (member : delivery ∈ this.deliveries) {h : Nat}
    (holds : Holds delivery.stage h) (expired : Expired this h) : Swallows decode this := by
  obtain ⟨i, found⟩ := List.mem_iff_getElem?.mp member
  have bound := (List.getElem?_eq_some_iff.mp found).1
  obtain ⟨datagram, len, stage⟩ := delivery
  cases stage with
  | sending session =>
      obtain rfl : session = h := holds
      obtain ⟨next, sends⟩ := send_enabled found
      exact ⟨[], this, next, i, _, session, rfl, sends, found, rfl, expired⟩
  | touching session =>
      obtain rfl : session = h := holds
      have touches : this.step decode (.touch i) =
          some ((this.touched session).delivery i ⟨datagram, len, .touching session⟩ (.sending session)) := by
        simp [UdpSessions.step, UdpSessions.turn, UdpSessions.Event.locks, found]
      have found' : ((this.touched session).delivery i ⟨datagram, len, .touching session⟩
          (.sending session)).deliveries[i]? = some ⟨datagram, len, .sending session⟩ :=
        List.getElem?_set_self bound
      obtain ⟨next, sends⟩ := send_enabled found'
      exact ⟨[.touch i], _, next, i, _, session, by rw [System.run, touches]; rfl, sends, found', rfl, expired⟩
  | looking | connecting | inserting | scanning | spawning | done => exact holds.elim

end Swallowed

/-- As long as readers spare what deliveries have in hand no reply is lost to their expiry, and from
the first time one does not, the run can go on to lose the reply to what that delivery sends. -/
theorem expiry_swallows_no_reply (id : UInt16) (proxy : Option SocketAddr) (idle cap : Nat)
    (decode : Server.Decode) :
    (∀ this, ((udpSessions id proxy idle cap decode).restrict Spared).Reachable this →
      ∀ i sends next, this.step decode (.send i sends) = some next →
        ∃ delivery h, this.deliveries[i]? = some delivery ∧ delivery.stage = .sending h ∧ Attended this h) ∧
    ∀ this event next, (udpSessions id proxy idle cap decode).Reachable this →
      this.step decode event = some next → ¬ Spared this event → Swallows decode next := by
  constructor
  · intro this reachable i sends next stepped
    have awaited : Awaited this := by
      apply reachable.invariant Awaited
      · rintro _ ⟨now, rfl⟩
        simp [Awaited, UdpSessions.new]
      · rintro before event after reached awaited ⟨spared, stepped⟩
        have inv := reachable_inv reached.of_restrict
        exact awaited.step inv (step_moved inv.scans stepped).1 spared
    obtain ⟨delivery, h, found, sending⟩ := send_sending stepped
    have holds : Holds delivery.stage h := by
      rw [sending]
      rfl
    obtain ⟨made, unexpired⟩ := awaited delivery (List.mem_of_getElem? found) h holds
    exact ⟨delivery, h, found, sending, (reachable_inv reachable.of_restrict).attended made unexpired⟩
  · intro this event next reachable stepped unspared
    unfold Spared at unspared
    push Not at unspared
    obtain ⟨r, reader, rfl, found, idle, delivery, member, holds⟩ := unspared
    obtain ⟨deliveries, expired⟩ := wake_expires stepped found idle
    exact swallows (deliveries ▸ member) holds expired

section Example
open Proof.Udp (shortDecode)

instance (stage : Delivering) (h : Nat) : Decidable (Holds stage h) :=
  match stage with
  | .touching session | .sending session => inferInstanceAs (Decidable (session = h))
  | .looking _ | .connecting _ | .inserting _ | .scanning _ _ _ | .spawning _ _ | .done => inferInstanceAs (Decidable False)

def spares (this : UdpSessions) : UdpSessions.Event → Bool
  | .wake r => this.readers[r]?.all fun reader =>
      this.deliveries.all fun delivery => ¬ Holds delivery.stage reader.session
  | _ => true

def sparing (this : UdpSessions) (event : UdpSessions.Event) : Option UdpSessions :=
  if spares this event then this.step shortDecode event else none

theorem sparing_spared (this : UdpSessions) (event : UdpSessions.Event) (next : UdpSessions)
    (stepped : sparing this event = some next) :
    ((udpSessions 4 none 60000000000 4096 shortDecode).restrict Spared).step this event next := by
  unfold sparing at stepped
  split_ifs at stepped with free
  refine ⟨?_, stepped⟩
  rintro r reader rfl found idle delivery member
  simp only [spares, found, Option.all_some, List.all_eq_true, decide_eq_true_eq] at free
  exact free delivery member

/-- A visitor's session turns idle and its reader gives it up, while a delivery has the next
visitor's session in hand. -/
def idleVisitor : List UdpSessions.Event :=
  visits 5 0 [] ++ [.loop 0, .tick 60000000000] ++ (visits 6 1 [(5, 0)]).take 6 ++ [.wake 0]

theorem expiry_swallows_no_reply_idle : ∃ this next : UdpSessions,
    ((udpSessions 4 none 60000000000 4096 shortDecode).restrict Spared).Reachable this ∧
      this.readers = [⟨5, 0, .expired⟩, ⟨6, 1, .looping⟩] ∧
      this.step shortDecode (.send 1 true) = some next ∧ Attended this 1 := by
  have first : ((udpSessions 4 none 60000000000 4096 shortDecode).restrict Spared).Reachable
      (.new 4 none 60000000000 4096 0) := .initial ⟨0, rfl⟩
  have reachable : ((udpSessions 4 none 60000000000 4096 shortDecode).restrict Spared).Reachable _ :=
    System.Reachable.run sparing_spared first idleVisitor rfl
  obtain ⟨delivery, h, found, sending, attended⟩ :=
    (expiry_swallows_no_reply 4 none 60000000000 4096 shortDecode).1 _ reachable 1 true _ rfl
  cases found
  cases sending
  exact ⟨_, _, reachable, rfl, rfl, attended⟩

/-- A visitor's second datagram comes as its session turns idle: the delivery takes the session, the
reader finds it unused since the first one, and only then does the delivery touch it. -/
def lateDatagram : List UdpSessions.Event :=
  visits 5 0 [] ++ [.loop 0, .tick 60000000000, .deliver [4, 5, 33], .lookup 1, .wake 0, .touch 1]

theorem expired_reader_sent_to : ∃ this next : UdpSessions,
    (udpSessions 4 none 60000000000 4096 shortDecode).Reachable this ∧
      this.step shortDecode (.send 1 true) = some next ∧ next.sent = this.sent ++ [(0, [33])] ∧
      this.readers = [⟨5, 0, .expired⟩] ∧ this.cancelled 0 = false ∧ ¬ Attended this 0 := by
  have first : (udpSessions 4 none 60000000000 4096 shortDecode).Reachable (.new 4 none 60000000000 4096 0) :=
    .initial ⟨0, rfl⟩
  have reachable : (udpSessions 4 none 60000000000 4096 shortDecode).Reachable _ :=
    System.Reachable.run (fun _ _ _ stepped => stepped) first lateDatagram rfl
  refine ⟨_, _, reachable, rfl, rfl, rfl, rfl, ?_⟩
  intro attended
  exact attended.unexpired ⟨5, 0, .expired⟩ (.head _) rfl rfl

end Example
end Hawse.Proof.Client.Udp
