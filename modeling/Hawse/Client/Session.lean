import Hawse.Config
import Hawse.Lib.System
import Hawse.Proto.Frame

namespace Hawse.Client

/-- What a session ends with: an error of `heard`, or another of the errors of the client. -/
inductive SessionError
  | heard (error : ClientError)
  | serverAddr
  | resolve
  | noAddress
  | identity
  | tls
  | quic
  | transport
  | denied
  | controlClosed
  | encode (error : FrameError)
  | unresponsive
  | version
  | noTransport (quic tcp : SessionError)
  | window
  | buffer

inductive DisconnectCause
  | shutdown (reason : String)
  | unresponsive
  | denied
  | transport
  | config
deriving DecidableEq

def classify : SessionError → DisconnectCause
  | .heard (.shutdown reason) => .shutdown reason
  | .unresponsive => .unresponsive
  | .denied => .denied
  | .encode _ | .serverAddr | .window | .buffer | .tls | .identity => .config
  | .noTransport overQuic overTcp =>
      if classify overQuic = .config ∧ classify overTcp = .config then .config else .transport
  | _ => .transport

/-- Whether `run` waits and connects again. -/
def retries (error : SessionError) : Bool := classify error ≠ .config

section
variable [Postcard]

/-- `written` is whether the stream takes the frame. -/
def sendMsg (msg : ClientMessage) (written : Bool) : Except SessionError Unit :=
  match Frame.encode msg with
  | .error error => .error (.encode error)
  | .ok _ => if written then .ok () else .error .controlClosed

/-- The last of the greeting: a bind for each service, up to one that cannot be sent. -/
def ask : List (ClientMessage × Bool) → Except SessionError Unit
  | [] => .ok ()
  | (msg, written) :: msgs =>
      match sendMsg msg written with
      | .error error => .error error
      | .ok () => ask msgs

/-- A turn of the loop and the sending of what it has to say. -/
def Serve.turn (remote : SocketAddr) (written : Bool) (this : Serve) (event : Serve.Event) :
    Option (Except SessionError Unit × Serve) :=
  match this.step remote event with
  | none => none
  | some (.error error, next) => some (.error (.heard error), next)
  | some (.ok none, next) => some (.ok (), next)
  | some (.ok (some msg), next) => some (sendMsg msg written, next)

end

/-- What a reload publishes is what it read of a config. -/
def Serve.Event.Loads (configs : ClientConfig → Prop) (event : Serve.Event) : Prop :=
  ∀ expose, event = .reload expose → ∃ cfg, configs cfg ∧ cfg.expose = expose

/-- A session over one config and then others, for as long as nothing ends it. -/
def serving [Postcard] (remote : SocketAddr) (configs : ClientConfig → Prop) :
    Lib.System Serve Serve.Event where
  initial this := ∃ cfg, configs cfg ∧ this = .new cfg.expose
  step this event next := event.Loads configs ∧ ∃ written, this.turn remote written event = some (.ok (), next)

end Hawse.Client
