import Hawse.Proof.Pump
import Hawse.Tunnel

namespace Hawse.Proof.Tunnel
open Hawse.Tunnel
open Hawse.Pump (Upward Downward SendHalf)
open Hawse.Client (Target)

variable {Err : Type}

/-! ## One pump -/

/-- A stream takes more, until it is finished. -/
structure Grows (up next : Upward) : Prop where
  taken : up.taken <+: next.taken
  finished : up.finishing = true → next.finishing = true ∧ next.taken = up.taken

theorem grows_of_same {up next : Upward} (taken : next.taken = up.taken) (finishing : up.finishing = true → next.finishing = true) :
    Grows up next :=
  ⟨taken ▸ List.prefix_rfl, fun finished => ⟨finishing finished, taken⟩⟩

theorem grows_upward {socket : List UInt8} {send : SendHalf} {up next : Upward} {event : Upward.Event Err}
    (inv : Pump.UpwardInv socket up) (stepped : up.step send event = some (.ok next)) : Grows up next := by
  cases event with
  | read k =>
      simp only [Upward.step] at stepped
      split_ifs at stepped
      · cases stepped
        exact grows_of_same rfl fun _ => rfl
      · cases stepped
        exact grows_of_same rfl id
  | readFails err =>
      simp only [Upward.step] at stepped
      split_ifs at stepped
      cases stepped
  | takes k =>
      simp only [Upward.step] at stepped
      split at stepped
      · next rest writing =>
          cases stepped
          refine ⟨List.prefix_append _ _, fun finished => ?_⟩
          rcases inv.finishing.mp finished with stage | stage <;> rw [writing] at stage <;> cases stage
      · cases stepped
  | writeFails err =>
      simp only [Upward.step] at stepped
      split at stepped <;> cases stepped
  | flushed =>
      simp only [Upward.step] at stepped
      split_ifs at stepped
      cases stepped
      exact grows_of_same rfl id
  | finished result =>
      simp only [Upward.step] at stepped
      split_ifs at stepped
      cases stepped
      exact grows_of_same rfl id

theorem grows_drop (up : Upward) : Grows up up.drop := by
  unfold Upward.drop
  split_ifs
  · exact grows_of_same rfl id
  · exact grows_of_same rfl id

/-- The half-close of the socket has begun. -/
def Closing (down : Downward) : Prop := down.stage = .shutdown ∨ down.stage = .done

theorem closing_downward {buffer : Nat} (room : 0 < buffer) {down next : Downward} {event : Downward.Event Err}
    (stepped : down.step buffer event = some (.ok next)) (closing : Closing next) :
    Closing down ∨ ∃ k, event = .read k ∧ down.source = [] := by
  cases event with
  | read k =>
      simp only [Downward.step] at stepped
      split_ifs at stepped with reading empty
      · right
        rcases List.take_eq_nil_iff.mp (List.eq_nil_of_length_eq_zero empty) with zero | eof
        · omega
        · exact ⟨k, rfl, eof⟩
      · cases stepped
        rcases closing with stage | stage <;> cases stage
  | readFails err =>
      simp only [Downward.step] at stepped
      split_ifs at stepped
      cases stepped
  | takes k =>
      simp only [Downward.step] at stepped
      split at stepped
      · next rest writing =>
          cases stepped
          have busy := Pump.write_copying (rest.drop (k + 1))
          exact absurd closing (not_or.mpr busy)
      · cases stepped
  | writeFails err =>
      simp only [Downward.step] at stepped
      split at stepped <;> cases stepped
  | shutdown result =>
      simp only [Downward.step] at stepped
      split_ifs at stepped with stage
      exact .inl (.inl stage)

section Pump
variable {send : SendHalf} {buffer : Nat} {this next : Hawse.Pump.State Err} {event : Hawse.Pump.Event Err}

theorem join_up (this : Hawse.Pump.State Err) : Grows this.up this.join.up := by
  unfold Hawse.Pump.State.join
  split_ifs
  · exact grows_drop _
  · exact grows_of_same rfl id

theorem join_down (this : Hawse.Pump.State Err) : this.join.down = this.down := by
  unfold Hawse.Pump.State.join
  split_ifs <;> rfl

theorem Grows.trans {a b c : Upward} (first : Grows a b) (second : Grows b c) : Grows a c := by
  refine ⟨first.taken.trans second.taken, fun finished => ?_⟩
  obtain ⟨still, same⟩ := first.finished finished
  obtain ⟨again, equal⟩ := second.finished still
  exact ⟨again, equal.trans same⟩

theorem pump_step {socket stream : List UInt8} (room : 0 < buffer) (inv : Pump.Inv socket stream this)
    (stepped : this.step send buffer event = some next) :
    Grows this.up next.up ∧
      (Closing next.down → Closing this.down ∨ ∃ k, event = .down (.read k) ∧ this.down.source = []) := by
  have running : this.outcome = .running := by
    by_contra ended
    simp only [Hawse.Pump.State.step] at stepped
    split at stepped <;> simp_all
  cases event with
  | up event =>
      simp only [Hawse.Pump.State.step, running] at stepped
      cases result : this.up.step send event with
      | none => simp [result] at stepped
      | some outcome =>
          cases outcome with
          | error err =>
              simp only [result, Option.some.injEq] at stepped
              rw [← stepped]
              exact ⟨grows_drop _, .inl⟩
          | ok up =>
              simp only [result, Option.some.injEq] at stepped
              rw [← stepped, join_down]
              exact ⟨(grows_upward inv.up result).trans (join_up ⟨up, this.down, this.finished, this.socketAborted, .running⟩), .inl⟩
  | down event =>
      simp only [Hawse.Pump.State.step, running] at stepped
      cases result : this.down.step buffer event with
      | none => simp [result] at stepped
      | some outcome =>
          cases outcome with
          | error err =>
              simp only [result, Option.some.injEq] at stepped
              rw [← stepped]
              exact ⟨grows_drop _, .inl⟩
          | ok down =>
              simp only [result, Option.some.injEq] at stepped
              rw [← stepped, join_down]
              refine ⟨join_up ⟨this.up, down, this.finished, this.socketAborted, .running⟩, fun closing => ?_⟩
              rcases closing_downward room result closing with before | ⟨k, rfl, eof⟩
              · exact .inl before
              · exact .inr ⟨k, rfl, eof⟩
  | drop =>
      simp only [Hawse.Pump.State.step, running, Option.some.injEq] at stepped
      rw [← stepped]
      exact ⟨grows_drop _, .inl⟩

end Pump

/-! ## Two of them -/

/-- What an end's stream took. -/
def sent : Option Upward → List UInt8
  | some up => up.taken
  | none => []

/-- A pump handles what has come as it would if that were all of the stream, and takes only the
stream's own end for one. -/
structure JoinedInv (socket : List UInt8) (peer : Option Upward) (side : Joined Err) : Prop where
  pump : Pump.Inv socket ((sent peer).take side.arrived) side.pump
  short : side.arrived ≤ (sent peer).length
  closing : Closing side.pump.down → Finished peer ∧ side.arrived = (sent peer).length

variable {socket : List UInt8} {peer other : Option Upward} {side next : Joined Err}

theorem start_inv (socket : List UInt8) (peer : Option Upward) : JoinedInv socket peer (Joined.start socket : Joined Err) := by
  refine ⟨?_, Nat.zero_le _, fun closing => ?_⟩
  · change Pump.Inv socket ((sent peer).take 0) _
    rw [List.take_zero]
    refine ⟨⟨rfl, rfl, ?_, ?_⟩, ⟨rfl, rfl, ?_⟩, ?_⟩ <;> simp [Joined.start, Hawse.Pump.State.start, Pump.Settled]
  · rcases closing with stage | stage <;> cases stage

/-- The other end's stream took more. -/
structure PeerGrows (peer other : Option Upward) : Prop where
  sent : sent peer <+: sent other
  finished : Finished peer → Finished other ∧ Tunnel.sent other = Tunnel.sent peer

theorem JoinedInv.of_peer (inv : JoinedInv socket peer side) (grows : PeerGrows peer other) : JoinedInv socket other side := by
  obtain ⟨more, grown⟩ := grows.sent
  refine ⟨?_, Nat.le_trans inv.short grows.sent.length_le, fun closing => ?_⟩
  · rw [← grown, List.take_append_of_le_length inv.short]
    exact inv.pump
  · obtain ⟨finished, all⟩ := inv.closing closing
    obtain ⟨still, same⟩ := grows.finished finished
    exact ⟨still, same ▸ all⟩

theorem peerGrows_some {up next : Upward} (grows : Grows up next) : PeerGrows (some up) (some next) := by
  refine ⟨grows.taken, ?_⟩
  rintro ⟨own, found, finished⟩
  obtain rfl := Option.some.inj found
  obtain ⟨still, same⟩ := grows.finished finished
  exact ⟨⟨next, rfl, still⟩, same⟩

theorem peerGrows_none (other : Option Upward) : PeerGrows none other := by
  refine ⟨List.nil_prefix, ?_⟩
  rintro ⟨own, found, _⟩
  cases found

theorem pumps_inv {send : SendHalf} {buffer : Nat} (room : 0 < buffer) {lost : Bool} {event : Hawse.Pump.Event Err}
    (inv : JoinedInv socket peer side) (pumps : Pumps send buffer peer lost side event next) :
    JoinedInv socket peer next ∧ Grows side.pump.up next.pump.up := by
  obtain ⟨stepped, reads⟩ := pumps
  obtain ⟨grows, closes⟩ := pump_step room inv.pump stepped
  have kept := Pump.step_inv room inv.pump stepped
  refine ⟨⟨kept, inv.short, fun closing => ?_⟩, grows⟩
  rcases closes closing with before | ⟨k, rfl, eof⟩
  · exact inv.closing before
  · obtain ⟨_, up, rfl, finished, _, all⟩ := reads k rfl eof
    exact ⟨⟨up, rfl, finished⟩, all⟩

theorem arrive_inv {n : Nat} (inv : JoinedInv socket peer side) (came : side.arrive peer n = some next) :
    JoinedInv socket peer next ∧ next.pump.up = side.pump.up := by
  cases peer with
  | none => cases came
  | some up =>
      simp only [Joined.arrive] at came
      split_ifs at came with behind
      cases came
      obtain ⟨⟨upward, ⟨conserved, total, at_eof⟩, settled⟩, short, closing⟩ := inv
      have open_ : ¬ Closing side.pump.down := by
        intro begun
        have all := (closing begun).2
        change side.arrived = up.taken.length at all
        omega
      have length : ((up.taken.drop side.arrived).take (n + 1)).length ≤ up.taken.length - side.arrived := by
        rw [List.length_take, List.length_drop]
        exact min_le_right _ _
      have more : up.taken.take side.arrived ++ (up.taken.drop side.arrived).take (n + 1) =
          up.taken.take (side.arrived + ((up.taken.drop side.arrived).take (n + 1)).length) := by
        rw [List.length_take, List.take_eq_take_min (i := n + 1)]
        exact List.take_add.symm
      refine ⟨⟨⟨upward, ⟨?_, total, fun begun => absurd begun open_⟩, settled⟩, ?_, fun begun => absurd begun open_⟩, rfl⟩
      · change side.pump.down.taken ++ Pump.unwritten side.pump.down.stage ++ (side.pump.down.source ++ _) = _
        rw [← List.append_assoc, conserved]
        exact more
      · change side.arrived + ((up.taken.drop side.arrived).take (n + 1)).length ≤ up.taken.length
        omega

/-! ## The tunnel -/

def headerOf : Serve Err → Option StreamHeader
  | .found header | .connecting header _ | .greeting header _ _ _ | .pumping header _ _ => some header
  | .reading | .refused _ => none

structure TunnelInv (setting : Setting) (s : State Err) : Prop where
  server : ∀ side, s.server = .pumping side → JoinedInv setting.visitor s.client.sends side
  client : ∀ header target side, s.client = .pumping header target side → JoinedInv setting.service s.server.sends side
  header : ∀ header, headerOf s.client = some header → header = setting.header
  greeting : ∀ header target written rest, s.client = .greeting header target written rest →
    written ++ rest = Tunnel.greeting header target

variable {setting : Setting} {s t : State Err}

theorem peerGrows_refl (peer : Option Upward) : PeerGrows peer peer := ⟨List.prefix_rfl, fun finished => ⟨finished, rfl⟩⟩

theorem TunnelInv.set_server (inv : TunnelInv setting s) {server : Visit Err} (grows : PeerGrows s.server.sends server.sends)
    (own : ∀ side, server = .pumping side → JoinedInv setting.visitor s.client.sends side) :
    TunnelInv setting { s with server } :=
  ⟨own, fun header target side found => (inv.client header target side found).of_peer grows, inv.header, inv.greeting⟩

theorem TunnelInv.set_client (inv : TunnelInv setting s) {client : Serve Err} (grows : PeerGrows s.client.sends client.sends)
    (own : ∀ header target side, client = .pumping header target side → JoinedInv setting.service s.server.sends side)
    (header : ∀ header, headerOf client = some header → header = setting.header)
    (greeting : ∀ header target written rest, client = .greeting header target written rest →
      written ++ rest = Tunnel.greeting header target) :
    TunnelInv setting { s with client } :=
  ⟨fun side found => (inv.server side found).of_peer grows, own, header, greeting⟩

/-- The client goes on without a pump. -/
theorem TunnelInv.waits (inv : TunnelInv setting s) {client : Serve Err} (quiet : s.client.sends = none) (silent : client.sends = none)
    (header : ∀ header, headerOf client = some header → header = setting.header)
    (greeting : ∀ header target written rest, client = .greeting header target written rest →
      written ++ rest = Tunnel.greeting header target) :
    TunnelInv setting { s with client } := by
  apply inv.set_client _ _ header greeting
  · rw [quiet]
    exact peerGrows_none _
  · rintro header target side rfl
    cases silent

theorem TunnelInv.refuses (inv : TunnelInv setting s) (quiet : s.client.sends = none) (code : UInt32) :
    TunnelInv setting { s with client := .refused code } := by
  apply inv.waits quiet rfl
  · intro header found
    cases found
  · intro header target written rest found
    cases found

theorem TunnelInv.visits (inv : TunnelInv setting s) {server : Visit Err} (quiet : s.server.sends = none) (silent : server.sends = none) :
    TunnelInv setting { s with server } := by
  apply inv.set_server
  · rw [quiet]
    exact peerGrows_none _
  · rintro side rfl
    cases silent

theorem greet_inv (inv : TunnelInv setting s) {header : StreamHeader} {target : Target} {written rest : List UInt8}
    (quiet : s.client.sends = none) (known : header = setting.header) (whole : written ++ rest = greeting header target) :
    TunnelInv setting { s with client := greet setting header target written rest } := by
  cases rest with
  | nil =>
      apply inv.set_client
      · rw [quiet]
        exact peerGrows_none _
      · intro header target side found
        cases found
        exact start_inv _ _
      · intro other found
        cases found
        exact known
      · intro header target written rest found
        cases found
  | cons first rest =>
      apply inv.waits quiet rfl
      · intro other found
        cases found
        exact known
      · intro header target written rest found
        cases found
        exact whole

theorem tunnel_step (roomy : 0 < setting.serverBuffer ∧ 0 < setting.clientBuffer) {event : Event Err} (inv : TunnelInv setting s)
    (step : Step setting s event t) : TunnelInv setting t := by
  cases step with
  | opened opening => exact inv.visits (by rw [opening]; rfl) rfl
  | openFails opening => exact inv.visits (by rw [opening]; rfl) rfl
  | headed heading =>
      apply inv.set_server
      · rw [heading]
        exact peerGrows_none _
      · intro side found
        cases found
        exact start_inv _ _
  | headFails heading => exact inv.visits (by rw [heading]; rfl) rfl
  | server pumping pumps =>
      obtain ⟨kept, grows⟩ := pumps_inv roomy.1 (inv.server _ pumping) pumps
      apply inv.set_server
      · rw [pumping]
        exact peerGrows_some grows
      · intro side found
        cases found
        exact kept
  | toServer pumping _ came =>
      obtain ⟨kept, same⟩ := arrive_inv (inv.server _ pumping) came
      apply inv.set_server
      · rw [pumping, Visit.sends, Visit.sends, same]
        exact peerGrows_refl _
      · intro side found
        cases found
        exact kept
  | read reading _ _ =>
      apply inv.waits (by rw [reading]; rfl) rfl
      · intro header found
        cases found
        rfl
      · intro header target written rest found
        cases found
  | readFails reading => exact inv.refuses (by rw [reading]; rfl) _
  | found known =>
      have header := inv.header
      rw [known] at header
      apply inv.waits (by rw [known]; rfl) rfl
      · exact header
      · intro header target written rest found
        cases found
  | unknown known => exact inv.refuses (by rw [known]; rfl) _
  | connected connecting =>
      have header := inv.header
      rw [connecting] at header
      exact greet_inv inv (by rw [connecting]; rfl) (header _ rfl) rfl
  | connectFails connecting => exact inv.refuses (by rw [connecting]; rfl) _
  | greets greeting =>
      have header := inv.header
      rw [greeting] at header
      refine greet_inv inv (by rw [greeting]; rfl) (header _ rfl) ?_
      rw [List.append_assoc, List.take_append_drop]
      exact inv.greeting _ _ _ _ greeting
  | greetFails greeting => exact inv.refuses (by rw [greeting]; rfl) _
  | client pumping pumps =>
      obtain ⟨kept, grows⟩ := pumps_inv roomy.2 (inv.client _ _ _ pumping) pumps
      have header := inv.header
      rw [pumping] at header
      apply inv.set_client
      · rw [pumping]
        exact peerGrows_some grows
      · intro other target side found
        cases found
        exact kept
      · exact header
      · intro header target written rest found
        cases found
  | toClient pumping _ came =>
      obtain ⟨kept, same⟩ := arrive_inv (inv.client _ _ _ pumping) came
      have header := inv.header
      rw [pumping] at header
      apply inv.set_client
      · rw [pumping, Serve.sends, Serve.sends, same]
        exact peerGrows_refl _
      · intro other target side found
        cases found
        exact kept
      · exact header
      · intro header target written rest found
        cases found
  | lose => exact ⟨inv.server, inv.client, inv.header, inv.greeting⟩

theorem reachable_inv (roomy : 0 < setting.serverBuffer ∧ 0 < setting.clientBuffer) (reachable : (tunnel setting).Reachable s) :
    TunnelInv setting s := by
  apply reachable.invariant (TunnelInv setting)
  · rintro s rfl
    refine ⟨?_, ?_, ?_, ?_⟩
    · intro side found
      cases found
    · intro header target side found
      cases found
    · intro header found
      cases found
    · intro header target written rest found
      cases found
  · intro s event t _ inv step
    exact tunnel_step roomy inv step

/-! ## Whole or reset -/

theorem sent_visitor (inv : TunnelInv setting s) :
    sent s.server.sends <+: setting.visitor ∧ (Finished s.server.sends → sent s.server.sends = setting.visitor) := by
  cases server : s.server with
  | pumping side =>
      have own := (inv.server side server).pump.up
      refine ⟨⟨Pump.unsent side.pump.up.stage ++ side.pump.up.source, ?_⟩, ?_⟩
      · rw [← List.append_assoc]
        exact own.conserved
      · rintro ⟨up, found, finished⟩
        obtain rfl := Option.some.inj found
        exact (own.whole finished).1
  | opening | heading | aborted =>
      refine ⟨List.nil_prefix, ?_⟩
      rintro ⟨up, found, _⟩
      cases found

theorem sent_service (inv : TunnelInv setting s) :
    sent s.client.sends <+: setting.service ∧ (Finished s.client.sends → sent s.client.sends = setting.service) := by
  cases client : s.client with
  | pumping header target side =>
      have own := (inv.client header target side client).pump.up
      refine ⟨⟨Pump.unsent side.pump.up.stage ++ side.pump.up.source, ?_⟩, ?_⟩
      · rw [← List.append_assoc]
        exact own.conserved
      · rintro ⟨up, found, finished⟩
        obtain rfl := Option.some.inj found
        exact (own.whole finished).1
  | _ =>
      refine ⟨List.nil_prefix, ?_⟩
      rintro ⟨up, found, _⟩
      cases found

theorem JoinedInv.got (inv : JoinedInv socket peer side) :
    side.pump.down.taken <+: sent peer ∧ (Closing side.pump.down → Finished peer ∧ side.pump.down.taken = sent peer) := by
  have conserved := inv.pump.down.conserved
  have part : side.pump.down.taken <+: (sent peer).take side.arrived := by
    rw [← conserved, List.append_assoc]
    exact List.prefix_append _ _
  refine ⟨part.trans (List.take_prefix _ _), fun closing => ?_⟩
  obtain ⟨finished, all⟩ := inv.closing closing
  have idle : Pump.unwritten side.pump.down.stage = [] := by rcases closing with stage | stage <;> rw [stage] <;> rfl
  rw [idle, inv.pump.down.at_eof closing, all, List.take_length, List.append_nil, List.append_nil] at conserved
  exact ⟨finished, conserved⟩

/-- A socket that is let go of without a reset was closed both ways. -/
theorem JoinedInv.closing_of_ends (inv : JoinedInv socket peer side) (ends : side.Ends) : Closing side.pump.down := by
  rcases ends with stage | stage | ⟨gone, unaborted⟩
  · exact .inl stage
  · exact .inr stage
  · have settled := inv.pump.settled
    rw [Pump.Settled] at settled
    cases outcome : side.pump.outcome with
    | running => exact absurd outcome gone
    | dropped =>
        rw [outcome] at settled
        exact absurd settled.2 (by simp [unaborted])
    | returned result =>
        cases result with
        | error err =>
            rw [outcome] at settled
            exact absurd settled.2 (by simp [unaborted])
        | ok stats =>
            rw [outcome] at settled
            exact .inr settled.2.1

theorem unfinished_of_broken (broken : s.Broken) : ¬ Finished s.client.sends := by
  rintro ⟨up, sends, finished⟩
  rcases broken with ⟨code, refused⟩ | ⟨header, target, side, pumping, -, unfinished⟩
  · rw [refused] at sends
    cases sends
  · rw [pumping] at sends
    obtain rfl := Option.some.inj sends
    rw [unfinished] at finished
    cases finished

/-- At every moment of a visitor's connection each application has got, in order, a part of what
the other sent, the service after the greeting it asked for; and one that is given an end has got
all of it, after the other ended its side. The visitor of a broken service is given none, and its
socket is reset once it is let go of. -/
theorem tunnel_whole_or_reset (setting : Setting) (roomy : 0 < setting.serverBuffer ∧ 0 < setting.clientBuffer) (s : State Err)
    (reachable : (tunnel setting).Reachable s) :
    s.visitorGot <+: setting.service ∧ (s.VisitorEnds → Finished s.client.sends ∧ s.visitorGot = setting.service) ∧
      (∀ target, s.target = some target → s.serviceGot <+: State.Promised setting target) ∧
      (s.ServiceEnds → Finished s.server.sends ∧
        ∃ target, s.target = some target ∧ s.serviceGot = State.Promised setting target) ∧
      (s.Broken → ¬ s.VisitorEnds ∧
        ∀ side, s.server = .pumping side → side.pump.outcome ≠ .running → side.pump.socketAborted = true) := by
  have inv := reachable_inv roomy reachable
  have visitorEnds : s.VisitorEnds → Finished s.client.sends ∧ s.visitorGot = setting.service := by
    rintro ⟨side, server, ends⟩
    have own := inv.server side server
    obtain ⟨finished, all⟩ := own.got.2 (own.closing_of_ends ends)
    rw [State.visitorGot, server]
    exact ⟨finished, all.trans ((sent_service inv).2 finished)⟩
  refine ⟨?_, visitorEnds, ?_, ?_, ?_⟩
  · cases server : s.server with
    | pumping side =>
        rw [State.visitorGot, server]
        exact (inv.server side server).got.1.trans (sent_service inv).1
    | opening | heading | aborted =>
        rw [State.visitorGot, server]
        exact List.nil_prefix
  · intro target chosen
    cases client : s.client with
    | reading | refused code => simp [State.target, client] at chosen
    | found header => simp [State.target, client] at chosen
    | connecting header other =>
        rw [State.serviceGot, client]
        exact List.nil_prefix
    | greeting header other written rest =>
        rw [State.target, client, Option.some.injEq] at chosen
        have known : header = setting.header := inv.header header (by rw [client]; rfl)
        rw [State.serviceGot, client, State.Promised, ← chosen, ← known, ← inv.greeting _ _ _ _ client, List.append_assoc]
        exact List.prefix_append _ _
    | pumping header other side =>
        rw [State.target, client, Option.some.injEq] at chosen
        have known : header = setting.header := inv.header header (by rw [client]; rfl)
        rw [State.serviceGot, client, State.Promised, ← chosen, ← known]
        exact (List.prefix_append_right_inj _).mpr ((inv.client _ _ side client).got.1.trans (sent_visitor inv).1)
  · rintro ⟨header, target, side, client, ends⟩
    have own := inv.client _ _ side client
    have known : header = setting.header := inv.header header (by rw [client]; rfl)
    obtain ⟨finished, all⟩ := own.got.2 (own.closing_of_ends ends)
    refine ⟨finished, target, by rw [State.target, client], ?_⟩
    rw [State.serviceGot, client, State.Promised, ← known]
    exact congrArg (greeting header target ++ ·) (all.trans ((sent_visitor inv).2 finished))
  · intro broken
    have unfinished := unfinished_of_broken broken
    refine ⟨fun ends => unfinished (visitorEnds ends).1, fun side server gone => ?_⟩
    by_contra unaborted
    have ends : s.VisitorEnds := ⟨side, server, .inr (.inr ⟨gone, Bool.eq_false_iff.mpr unaborted⟩)⟩
    exact unfinished (visitorEnds ends).1

def sample : Setting where
  send := .quic
  serverBuffer := 1024
  clientBuffer := 1024
  header := ⟨3, ⟨.v4 0x01020304#32, 5000⟩, ⟨.v4 0x05060708#32, 80⟩⟩
  visitor := [7, 8, 9]
  service := [5]

def plainTarget : Target := ⟨"web", "127.0.0.1:80", false⟩

/-- The visitor's three bytes come to the service in two parts and then their end; another service
refuses, and the visitor is reset. -/
theorem tunnel_whole_or_reset_bytes :
    (∃ s : State Unit, (tunnel sample).Reachable s ∧ s.ServiceEnds ∧ s.serviceGot = [7, 8, 9]) ∧
      ∃ s : State Unit, (tunnel sample).Reachable s ∧ ¬ s.VisitorEnds ∧
        ∃ side, s.server = .pumping side ∧ side.pump.socketAborted = true := by
  have start : (tunnel sample).Reachable (⟨.opening, .reading, false⟩ : State Unit) := .initial rfl
  have headed := (start.next (.opened rfl)).next (.headed rfl)
  have known := headed.next (.read rfl rfl rfl)
  have chosen := known.next (@Step.found _ _ _ _ plainTarget rfl)
  constructor
  · have connected := chosen.next (.connected rfl)
    have first := connected.next (.server rfl (@Pumps.step _ _ _ _ _ _ (.up (.read 1)) _ rfl (by simp)))
    have took := first.next (.server rfl (@Pumps.step _ _ _ _ _ _ (.up (.takes 1)) _ rfl (by simp)))
    have came := took.next (@Step.toClient _ _ _ _ _ _ _ 1 rfl rfl rfl)
    have second := came.next (.server rfl (@Pumps.step _ _ _ _ _ _ (.up (.read 0)) _ rfl (by simp)))
    have taken := second.next (.server rfl (@Pumps.step _ _ _ _ _ _ (.up (.takes 0)) _ rfl (by simp)))
    have finished := taken.next (.server rfl (@Pumps.step _ _ _ _ _ _ (.up (.read 0)) _ rfl (by simp)))
    have arrived := finished.next (@Step.toClient _ _ _ _ _ _ _ 0 rfl rfl rfl)
    have reads := arrived.next (.client rfl (@Pumps.step _ _ _ _ _ _ (.down (.read 2)) _ rfl fun _ _ empty => by cases empty))
    have writes := reads.next (.client rfl (@Pumps.step _ _ _ _ _ _ (.down (.takes 2)) _ rfl (by simp)))
    have closes := writes.next (.client rfl (@Pumps.step _ _ _ _ _ _ (.down (.read 0)) _ rfl
      fun _ _ _ => ⟨rfl, _, rfl, rfl, rfl, rfl⟩))
    obtain ⟨-, target, chosen, whole⟩ :=
      (tunnel_whole_or_reset sample ⟨by decide, by decide⟩ _ closes).2.2.2.1 ⟨_, _, _, rfl, .inl rfl⟩
    obtain rfl : plainTarget = target := Option.some.inj chosen
    exact ⟨_, closes, ⟨_, _, _, rfl, .inl rfl⟩, whole⟩
  · have refused := chosen.next (.connectFails rfl)
    have reset := refused.next (.server rfl (@Pumps.step _ _ _ _ _ _ (.down (.readFails ())) _ rfl (by simp)))
    obtain ⟨unended, aborts⟩ := (tunnel_whole_or_reset sample ⟨by decide, by decide⟩ _ reset).2.2.2.2 (.inl ⟨_, rfl⟩)
    exact ⟨_, reset, unended, _, rfl, aborts _ rfl (by simp [Hawse.Pump.State.leave])⟩

end Hawse.Proof.Tunnel
