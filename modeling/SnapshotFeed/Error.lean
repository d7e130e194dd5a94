/-! Errors a client reports while it starts or stops. Failures of the stream are not among
them: those are recovered, and consumers see a notice. -/
namespace SnapshotFeed

/-- Why a text is no URL. -/
inductive Url.Fault where
  /-- There is no scheme, and nothing to be relative to. -/
  | relative
  | emptyHost
  | invalidPort
  | invalidIpv4
  | invalidIpv6
  /-- A character that no host of a scheme without names may have. -/
  | invalidHostCharacter
  /-- The host is no domain name. -/
  | invalidDomain
  deriving DecidableEq, Repr

def Url.Fault.message : Url.Fault → String
  | relative => "relative URL without a base"
  | emptyHost => "empty host"
  | invalidPort => "invalid port number"
  | invalidIpv4 => "invalid IPv4 address"
  | invalidIpv6 => "invalid IPv6 address"
  | invalidHostCharacter => "invalid domain character"
  | invalidDomain => "invalid international domain name"

/-- Why a configuration cannot be used. -/
inductive ConfigFault where
  | noReceiveQueue
  | noDeliveryQueue
  | noFrameSize
  | delaysReversed
  deriving DecidableEq, Repr

def ConfigFault.reason : ConfigFault → String
  | noReceiveQueue => "receive_queue_capacity must be greater than zero"
  | noDeliveryQueue => "delivery_queue_capacity must be greater than zero"
  | noFrameSize => "max_frame_size must be greater than zero"
  | delaysReversed => "max_backoff must not be smaller than initial_backoff"

inductive Error where
  | invalidBaseUrl (cause : Url.Fault)
  | invalidConfiguration (fault : ConfigFault)
  | transportClosed
  | workerCrashed
  | streamClosed
  | io (text : String)
  | network (text : String)
  deriving DecidableEq, Repr

def Error.message : Error → String
  | invalidBaseUrl _ => "invalid base_url configuration"
  | invalidConfiguration fault => "invalid configuration: " ++ fault.reason
  | transportClosed => "transport is closed"
  | workerCrashed => "sync worker panicked"
  | streamClosed => "payload stream is closed"
  | io text | network text => text

end SnapshotFeed
