import Hawse.Lib.System
import Hawse.Lib.Timed
import Hawse.Lib.Network
import Hawse.Lib.TokenBucket
import Hawse.Lib.Lru
import Hawse.Lib.Maps
import Hawse.Lib.Ledger
import Hawse.Lib.Exchange
import Hawse.Lib.Numbered
import Hawse.Lib.Future
import Hawse.Lib.Journal
import Hawse.Lib.Words
import Hawse.Lib.Fallible
import Hawse.Lib.Files
import Hawse.Lib.Semaphore
import Hawse.Lib.Rounding
import Hawse.Lib.Tty
import Hawse.Net
import Hawse.Allow
import Hawse.Proto.Record
import Hawse.Proto.Port
import Hawse.Proto.Msg
import Hawse.Proto.Text
import Hawse.Proto.Packet
import Hawse.Proto.Frame
import Hawse.Transport.Records
import Hawse.Transport.Tcp
import Hawse.Pump
import Hawse.Frame
import Hawse.Config
import Hawse.Server.Limiter
import Hawse.Server.Ports
import Hawse.Server.Session
import Hawse.Server.Shared
import Hawse.Server.Claim
import Hawse.Server.Table
import Hawse.Server.Udp
import Hawse.Server.Streams
import Hawse.Server.Reload
import Hawse.Server.Watch
import Hawse.Server.Door
import Hawse.Udp
import Hawse.Client.Services
import Hawse.Client.Stream
import Hawse.Client.Udp
import Hawse.Client.Registry
import Hawse.Client.Session
import Hawse.Client.Race
import Hawse.Client.Backoff
import Hawse.Client.Traffic
import Hawse.Control
import Hawse.Tunnel
import Hawse.Heartbeat
import Hawse.Panel
import Hawse.Terminal
import Hawse.Screen
import Hawse.Status.Server
import Hawse.Status.Client
import Hawse.Client.Run
import Hawse.Systemd
import Hawse.Upgrade
import Hawse.Socket
import Hawse.Notify
import Hawse.Proof.Net
import Hawse.Proof.Allow
import Hawse.Proof.Text
import Hawse.Proof.Address
import Hawse.Proof.Transport.Grammar
import Hawse.Proof.Transport.Reader
import Hawse.Proof.Transport.Writer
import Hawse.Proof.Transport.Limits
import Hawse.Proof.Pump
import Hawse.Proof.Packet
import Hawse.Proof.Proxy
import Hawse.Proof.Frame
import Hawse.Proof.Server.Limiter
import Hawse.Proof.Server.Admission
import Hawse.Proof.Server.Door
import Hawse.Proof.Server.Unbounded
import Hawse.Proof.Server.Reload
import Hawse.Proof.Server.Claim
import Hawse.Proof.Server.Ports
import Hawse.Proof.Server.Session
import Hawse.Proof.Server.Shared
import Hawse.Proof.Server.Ownership
import Hawse.Proof.Server.Pool
import Hawse.Proof.Server.Keys
import Hawse.Proof.Server.Bind
import Hawse.Proof.Server.Table
import Hawse.Proof.Server.Lru
import Hawse.Proof.Server.Udp
import Hawse.Proof.Server.Streams
import Hawse.Proof.Udp
import Hawse.Proof.Client.Services
import Hawse.Proof.Client.Rebind
import Hawse.Proof.Client.Stream
import Hawse.Proof.Client.Udp
import Hawse.Proof.Client.Expiry
import Hawse.Proof.Client.Registry
import Hawse.Proof.Client.Frame
import Hawse.Proof.Client.Race
import Hawse.Proof.Client.Backoff
import Hawse.Proof.Client.Traffic
import Hawse.Proof.Config
import Hawse.Proof.Control
import Hawse.Proof.Refinement
import Hawse.Proof.Tunnel
import Hawse.Proof.Heartbeat
import Hawse.Proof.Status.Server
import Hawse.Proof.Status.Client
import Hawse.Proof.Client.Run
import Hawse.Proof.Systemd
import Hawse.Proof.Terminal
import Hawse.Proof.Figures
import Hawse.Proof.Upgrade
import Hawse.Proof.Screen
import Hawse.Proof.Socket
import Hawse.Proof.Notify
