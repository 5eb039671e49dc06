import Witan.Crates

open bincode

namespace witan.error

/-- The variants of the error type, without what they carry. -/
inductive Variant where
  | NotInitialized
  | AlreadyInitialized
  | ConfigError
  | IdentityError
  | HandshakeError
  | SessionNotFound
  | EnvelopeError
  | SignatureInvalid
  | ReplayDetected
  | TtlExpired
  | PeerNotFound
  | QuorumNotReached
  | SerializationError
  | CryptoError
  | InvalidInput
  deriving DecidableEq

/-- The text of an error, as `Display` writes it. -/
def GossipError.to_string : GossipError → String
  | .NotInitialized => "gossip component not initialized"
  | .AlreadyInitialized => "gossip component already initialized"
  | .ConfigError s => s!"config error: {s}"
  | .IdentityError s => s!"identity error: {s}"
  | .HandshakeError s => s!"handshake error: {s}"
  | .SessionNotFound s => s!"session not found: {s}"
  | .EnvelopeError s => s!"envelope error: {s}"
  | .SignatureInvalid => "signature verification failed"
  | .ReplayDetected => "replay detected: message outside replay window"
  | .TtlExpired => "TTL expired"
  | .PeerNotFound s => s!"peer not found: {s}"
  | .QuorumNotReached => "quorum not reached"
  | .SerializationError s => s!"serialization error: {s}"
  | .CryptoError s => s!"crypto error: {s}"
  | .InvalidInput s => s!"invalid input: {s}"

/-- The variant that the C-ABI names in its error reports. -/
def GossipError.variant : GossipError → Variant
  | .NotInitialized => .NotInitialized
  | .AlreadyInitialized => .AlreadyInitialized
  | .ConfigError _ => .ConfigError
  | .IdentityError _ => .IdentityError
  | .HandshakeError _ => .HandshakeError
  | .SessionNotFound _ => .SessionNotFound
  | .EnvelopeError _ => .EnvelopeError
  | .SignatureInvalid => .SignatureInvalid
  | .ReplayDetected => .ReplayDetected
  | .TtlExpired => .TtlExpired
  | .PeerNotFound _ => .PeerNotFound
  | .QuorumNotReached => .QuorumNotReached
  | .SerializationError _ => .SerializationError
  | .CryptoError _ => .CryptoError
  | .InvalidInput _ => .InvalidInput

def Variant.name : Variant → String
  | .NotInitialized => "NotInitialized"
  | .AlreadyInitialized => "AlreadyInitialized"
  | .ConfigError => "ConfigError"
  | .IdentityError => "IdentityError"
  | .HandshakeError => "HandshakeError"
  | .SessionNotFound => "SessionNotFound"
  | .EnvelopeError => "EnvelopeError"
  | .SignatureInvalid => "SignatureInvalid"
  | .ReplayDetected => "ReplayDetected"
  | .TtlExpired => "TtlExpired"
  | .PeerNotFound => "PeerNotFound"
  | .QuorumNotReached => "QuorumNotReached"
  | .SerializationError => "SerializationError"
  | .CryptoError => "CryptoError"
  | .InvalidInput => "InvalidInput"

/-- The part of an error's text that its variant fixes. -/
def Variant.heading : Variant → String
  | .NotInitialized => "gossip component not initialized"
  | .AlreadyInitialized => "gossip component already initialized"
  | .ConfigError => "config error: "
  | .IdentityError => "identity error: "
  | .HandshakeError => "handshake error: "
  | .SessionNotFound => "session not found: "
  | .EnvelopeError => "envelope error: "
  | .SignatureInvalid => "signature verification failed"
  | .ReplayDetected => "replay detected: message outside replay window"
  | .TtlExpired => "TTL expired"
  | .PeerNotFound => "peer not found: "
  | .QuorumNotReached => "quorum not reached"
  | .SerializationError => "serialization error: "
  | .CryptoError => "crypto error: "
  | .InvalidInput => "invalid input: "

/-- The text an error carries. -/
def GossipError.detail : GossipError → String
  | .ConfigError s => s
  | .IdentityError s => s
  | .HandshakeError s => s
  | .SessionNotFound s => s
  | .EnvelopeError s => s
  | .PeerNotFound s => s
  | .SerializationError s => s
  | .CryptoError s => s
  | .InvalidInput s => s
  | _ => ""

/-- The error of a variant with the text it carries. -/
def Variant.carrying : Variant → String → GossipError
  | .NotInitialized, _ => .NotInitialized
  | .AlreadyInitialized, _ => .AlreadyInitialized
  | .ConfigError, s => .ConfigError s
  | .IdentityError, s => .IdentityError s
  | .HandshakeError, s => .HandshakeError s
  | .SessionNotFound, s => .SessionNotFound s
  | .EnvelopeError, s => .EnvelopeError s
  | .SignatureInvalid, _ => .SignatureInvalid
  | .ReplayDetected, _ => .ReplayDetected
  | .TtlExpired, _ => .TtlExpired
  | .PeerNotFound, s => .PeerNotFound s
  | .QuorumNotReached, _ => .QuorumNotReached
  | .SerializationError, s => .SerializationError s
  | .CryptoError, s => .CryptoError s
  | .InvalidInput, s => .InvalidInput s

theorem GossipError.variant_carrying (e : GossipError) : e.variant.carrying e.detail = e := by
  cases e <;> rfl

theorem GossipError.to_string_eq (e : GossipError) : e.to_string = e.variant.heading ++ e.detail := by
  cases e <;> rfl

def Variant.all : List Variant :=
  [.NotInitialized, .AlreadyInitialized, .ConfigError, .IdentityError, .HandshakeError, .SessionNotFound,
    .EnvelopeError, .SignatureInvalid, .ReplayDetected, .TtlExpired, .PeerNotFound, .QuorumNotReached,
    .SerializationError, .CryptoError, .InvalidInput]

theorem Variant.mem_all (v : Variant) : v ∈ all := by
  cases v <;> decide

end witan.error
