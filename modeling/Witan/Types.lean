import Witan.Bincode.Sequences

open bincode

namespace witan.error

/-- All errors that can occur in the gossip component. -/
inductive GossipError where
  | NotInitialized
  | AlreadyInitialized
  | ConfigError (message : String)
  | IdentityError (message : String)
  | HandshakeError (message : String)
  | SessionNotFound (peer_addr : String)
  | EnvelopeError (message : String)
  | SignatureInvalid
  | ReplayDetected
  | TtlExpired
  | PeerNotFound (peer_addr : String)
  | QuorumNotReached
  | SerializationError (message : String)
  | CryptoError (message : String)
  | InvalidInput (message : String)
  deriving DecidableEq, Repr

end witan.error

namespace witan.types

/-- A 32-byte array: a digest, a nonce, a commitment or a message id. -/
abbrev Bytes32 := ByteArr 32

-- What a map keyed by digests relies on.
instance : LawfulBEq Bytes32 := inferInstance

instance : EquivBEq Bytes32 := inferInstance

instance : LawfulHashable Bytes32 := inferInstance

/-- The bytes of a string constant of the source. -/
def literal (text : Str) : ByteVec := text.bytes

def HANDSHAKE_PROBE_MAGIC : ByteVec := literal ⟨"WITAN_GOSSIP_HANDSHAKE_V1", by decide⟩

def HANDSHAKE_ACK_MAGIC : ByteVec := literal ⟨"WITAN_GOSSIP_HANDSHAKE_ACK_V1", by decide⟩

def HANDSHAKE_FINISH_MAGIC : ByteVec := literal ⟨"WITAN_GOSSIP_HANDSHAKE_FINISH_V1", by decide⟩

def HANDSHAKE_FINISH_ACK_MAGIC : ByteVec := literal ⟨"WITAN_GOSSIP_HANDSHAKE_FINISH_ACK_V1", by decide⟩

/-- ML-DSA-65 context for handshake transcript signatures. -/
def SIG_CTX_HANDSHAKE : Bytes := (literal ⟨"WITAN_GOSSIP_HANDSHAKE_V1", by decide⟩).val

/-- ML-DSA-65 context for gossip envelope signatures. -/
def SIG_CTX_MESSAGE : Bytes := (literal ⟨"WITAN_GOSSIP_MESSAGE_V1", by decide⟩).val

/-- HKDF info string for session key derivation. -/
def HKDF_INFO_SESSION : Bytes := (literal ⟨"pqc-kem-hybrid-v1", by decide⟩).val

/-- Discriminant for the gossip message payload. -/
inductive PayloadType where
  | Transaction
  | BlockProposal
  | FinalityVote
  | StateSync
  | PeerDiscovery
  deriving DecidableEq, Repr

def PayloadType.from_u8 : UInt8 → Option PayloadType
  | 0 => some .Transaction
  | 1 => some .BlockProposal
  | 2 => some .FinalityVote
  | 3 => some .StateSync
  | 4 => some .PeerDiscovery
  | _ => none

def PayloadType.as_u8 : PayloadType → UInt8
  | .Transaction => 0
  | .BlockProposal => 1
  | .FinalityVote => 2
  | .StateSync => 3
  | .PeerDiscovery => 4

/-- The fundamental unit of gossip: a signed, typed message. -/
structure GossipEnvelope where
  version : UInt8
  message_id : Bytes32
  sender_node_id : Str
  sender_public_key : ByteVec
  payload_type : PayloadType
  payload : ByteVec
  signature : ByteVec
  timestamp_unix_ms : UInt64
  ttl : UInt8
  deriving DecidableEq

/-- Public information about a connected peer. -/
structure PeerInfo where
  addr : Str
  node_id : Str
  session_id : Str
  established_at_ms : UInt64
  deriving DecidableEq

/-- Runtime statistics for the gossip component. -/
structure GossipStats where
  messages_published : UInt64 := 0
  messages_received : UInt64 := 0
  messages_deduplicated : UInt64 := 0
  messages_dropped : UInt64 := 0
  active_peers : UInt32 := 0
  mesh_peers : UInt32 := 0
  dedup_cache_size : UInt32 := 0
  handshakes_completed : UInt32 := 0
  handshakes_failed : UInt32 := 0
  deriving DecidableEq

/-- Message 1, client to server. -/
structure HandshakeProbe where
  magic : ByteVec
  version : UInt8
  client_nonce : Bytes32
  endpoint : Str
  client_node_id : Str
  timestamp_unix_ms : UInt64
  deriving DecidableEq

/-- Message 2, server to client. -/
structure HandshakeAck where
  magic : ByteVec
  version : UInt8
  client_nonce : Bytes32
  server_nonce : Bytes32
  hybrid_kem_public_key_json : Str
  ml_dsa_65_public_key : ByteVec
  server_node_id : Str
  timestamp_unix_ms : UInt64
  deriving DecidableEq

/-- Message 3, client to server. -/
structure HandshakeFinish where
  magic : ByteVec
  version : UInt8
  kem_ciphertext_json : Str
  client_ml_dsa_65_public_key : ByteVec
  client_node_id : Str
  timestamp_unix_ms : UInt64
  deriving DecidableEq

/-- Message 4, server to client. -/
structure HandshakeFinishAck where
  magic : ByteVec
  version : UInt8
  session_id : Str
  transcript_hash : Bytes32
  server_mac : Bytes32
  transcript_signature : ByteVec
  timestamp_unix_ms : UInt64
  deriving DecidableEq

/-- Kinds of incoming bytes, by their magic prefix. -/
inductive MessageKind where
  | HandshakeProbe
  | HandshakeAck
  | HandshakeFinish
  | HandshakeFinishAck
  | GossipEnvelope
  deriving DecidableEq, Repr

/-- Classify incoming bytes by magic prefix for dispatch. The first 8 bytes of
    a handshake message are the length of its magic and are skipped. -/
def classify_incoming (bytes : Bytes) : MessageKind :=
  let payload := if bytes.length > 8 then bytes.drop 8 else bytes
  -- Longest magic first, in the source's order.
  if HANDSHAKE_FINISH_ACK_MAGIC.val.isPrefixOf payload then .HandshakeFinishAck
  else if HANDSHAKE_FINISH_MAGIC.val.isPrefixOf payload then .HandshakeFinish
  else if HANDSHAKE_ACK_MAGIC.val.isPrefixOf payload then .HandshakeAck
  else if HANDSHAKE_PROBE_MAGIC.val.isPrefixOf payload then .HandshakeProbe
  else .GossipEnvelope

end witan.types
