import Witan.Identity
import Witan.Messages
import Witan.Session

open Std (ExtHashMap)
open bincode fallible maps
open witan.types witan.error witan.identity witan.session

namespace witan.handshake

/-- Handshake timeout: 10 seconds. -/
def HANDSHAKE_TIMEOUT_MS : Nat := 10000

/-- Probe sent; waiting for the server's ack. -/
structure ProbeSent where
  client_nonce : Bytes32
  probe_bytes : Bytes
  sent_at_ms : UInt64

/-- Finish sent; waiting for the server's finish-ack. -/
structure FinishSent where
  client_nonce : Bytes32
  server_nonce : Bytes32
  kem_ciphertext_bytes : Bytes
  shared_secret_32b : Bytes32
  probe_bytes : Bytes
  ack_bytes : Bytes
  finish_bytes : Bytes
  server_sig_pk : ByteVec
  server_node_id : Str
  sent_at_ms : UInt64

/-- Ack sent; waiting for the client's finish. -/
structure AckSent where
  client_nonce : Bytes32
  server_nonce : Bytes32
  probe_bytes : Bytes
  ack_bytes : Bytes
  sent_at_ms : UInt64

inductive ClientHandshakeState where
  | Idle
  | ProbeSent (state : ProbeSent)
  | FinishSent (state : FinishSent)
  | Complete (session : SessionRecord)
  | Failed (message : String)

inductive ServerHandshakeState where
  | Idle
  | AckSent (state : AckSent)
  | Complete (session : SessionRecord)
  | Failed (message : String)

/-- Per-peer handshake context: client or server state. -/
inductive HandshakeContext where
  | Client (state : ClientHandshakeState)
  | Server (state : ServerHandshakeState)

/-- Whether a handshake that waits for an answer has waited too long. -/
def HandshakeContext.is_timed_out (now_ms : UInt64) : HandshakeContext → Bool
  | .Client (.ProbeSent state) => now_ms.toNat - state.sent_at_ms.toNat > HANDSHAKE_TIMEOUT_MS
  | .Client (.FinishSent state) => now_ms.toNat - state.sent_at_ms.toNat > HANDSHAKE_TIMEOUT_MS
  | .Server (.AckSent state) => now_ms.toNat - state.sent_at_ms.toNat > HANDSHAKE_TIMEOUT_MS
  | _ => false

/-! The state that a handler waits for, if the context is in it. -/

def HandshakeContext.probeSent? : HandshakeContext → Option ProbeSent
  | .Client (.ProbeSent state) => some state
  | _ => none

def HandshakeContext.finishSent? : HandshakeContext → Option FinishSent
  | .Client (.FinishSent state) => some state
  | _ => none

def HandshakeContext.ackSent? : HandshakeContext → Option AckSent
  | .Server (.AckSent state) => some state
  | _ => none

def HandshakeContext.into_session : HandshakeContext → Option SessionRecord
  | .Client (.Complete s) => some s
  | .Server (.Complete s) => some s
  | _ => none

/-- Manages all pending handshakes. -/
structure HandshakeManager where
  pending : ExtHashMap Str HandshakeContext
  completed : ExtHashMap Str SessionRecord

/-- Constant-time comparison of two byte slices. -/
def constant_time_eq (a b : Bytes) : Bool :=
  if a.length ≠ b.length then false
  else (a.zip b).foldl (fun diff (x, y) => diff ||| (x ^^^ y)) 0 == 0

section Messages

variable (crates : Crates)

/-- Read a message off the front of the bytes. Bytes after it are ignored. -/
def deserialize {α : Type} (codec : Codec α) (type_name name : String) (bytes : Bytes) : Except GossipError α :=
  orFail (codec.decodePrefix bytes)
    (let e := crates.decode_message type_name bytes
     .HandshakeError s!"{name} deserialize: {e}")

/-- The checks that every handler makes first. -/
def check_header (name : String) (magic expected : ByteVec) (version : UInt8)
    (timestamp_unix_ms now_ms : UInt64) : Except GossipError Unit := do
  failIf (magic ≠ expected) (.HandshakeError s!"invalid {name} magic")
  failIf (version ≠ 1) (.HandshakeError s!"version mismatch: expected 1, got {version}")
  failIf (now_ms.toNat - timestamp_unix_ms.toNat > 30000) (.HandshakeError "timestamp out of window")

/-- A signing key in a message has the size of one. -/
def check_sig_pk_size (name : String) (sig_pk : ByteVec) : Except GossipError Unit :=
  failIf (sig_pk.val.length ≠ 1952)
    (.HandshakeError s!"invalid {name} size: expected 1952, got {sig_pk.val.length}")

variable {crates}

def probeMessage (identity : NodeIdentity crates) (peer_addr : Str) (client_nonce : Bytes32)
    (now_ms : UInt64) : HandshakeProbe :=
  { magic := HANDSHAKE_PROBE_MAGIC
    version := 1
    client_nonce
    endpoint := peer_addr
    client_node_id := identity.node_id
    timestamp_unix_ms := now_ms }

def ackMessage (identity : NodeIdentity crates) (client_nonce server_nonce : Bytes32) (kem_pk_json : Str)
    (now_ms : UInt64) : HandshakeAck :=
  { magic := HANDSHAKE_ACK_MAGIC
    version := 1
    client_nonce
    server_nonce
    hybrid_kem_public_key_json := kem_pk_json
    ml_dsa_65_public_key := identity.sig_public_key_bytes
    server_node_id := identity.node_id
    timestamp_unix_ms := now_ms }

def finishMessage (identity : NodeIdentity crates) (ciphertext_json : Str) (now_ms : UInt64) : HandshakeFinish :=
  { magic := HANDSHAKE_FINISH_MAGIC
    version := 1
    kem_ciphertext_json := ciphertext_json
    client_ml_dsa_65_public_key := identity.sig_public_key_bytes
    client_node_id := identity.node_id
    timestamp_unix_ms := now_ms }

def finishAckMessage (session_id : Str) (transcript_hash server_mac : Bytes32) (transcript_signature : ByteVec)
    (now_ms : UInt64) : HandshakeFinishAck :=
  { magic := HANDSHAKE_FINISH_ACK_MAGIC
    version := 1
    session_id
    transcript_hash
    server_mac
    transcript_signature
    timestamp_unix_ms := now_ms }

end Messages

namespace HandshakeManager

def new : HandshakeManager := ⟨∅, ∅⟩

/-- Store the context of a peer's handshake in place of the one it had. -/
def setPending (self : HandshakeManager) (peer_addr : Str) (context : HandshakeContext) : HandshakeManager :=
  { self with pending := self.pending.insert peer_addr context }

def dropPending (self : HandshakeManager) (peer_addr : Str) : HandshakeManager :=
  { self with pending := self.pending.erase peer_addr }

/-- Keep a completed session for the peer. -/
def keepCompleted (self : HandshakeManager) (peer_addr : Str) (session : SessionRecord) : HandshakeManager :=
  { self with completed := self.completed.insert peer_addr session }

/-- `pending.remove`: take a peer's context out. -/
def takePending (peer_addr : Str) : EStateM GossipError HandshakeManager (Option HandshakeContext) := do
  let self ← get
  set (self.dropPending peer_addr)
  return self.pending[peer_addr]?

variable {crates : Crates}

/-- Client step 1: build the probe to send to the server. -/
def build_probe (peer_addr : Str) (identity : NodeIdentity crates) (getrandom : Except String Bytes32)
    (now_ms : UInt64) : EStateM GossipError HandshakeManager Bytes := do
  let client_nonce ← attempt (getrandom.mapError fun e => .CryptoError s!"getrandom failed: {e}")
  let probe_bytes := HandshakeProbe.codec.encode (probeMessage identity peer_addr client_nonce now_ms)
  modify fun self => self.setPending peer_addr
    (.Client (.ProbeSent { client_nonce, probe_bytes, sent_at_ms := now_ms }))
  return probe_bytes

/-- Server step 1: process the probe, return the ack. -/
def process_probe_build_ack (peer_addr : Str) (probe_bytes : Bytes) (identity : NodeIdentity crates)
    (getrandom : Except String Bytes32) (now_ms : UInt64) : EStateM GossipError HandshakeManager Bytes := do
  let probe ← attempt (deserialize crates HandshakeProbe.codec "HandshakeProbe" "probe" probe_bytes)
  attempt (check_header "probe" probe.magic HANDSHAKE_PROBE_MAGIC probe.version probe.timestamp_unix_ms now_ms)
  let server_nonce ← attempt (getrandom.mapError fun e => .CryptoError s!"getrandom failed: {e}")
  let kem_pk_json ← attempt ((crates.public_key_to_json (crates.kem_public_key identity.kem_keypair)).mapError
    fun e => .CryptoError s!"KEM pk to_json: {e}")
  let ack_bytes := HandshakeAck.codec.encode
    (ackMessage identity probe.client_nonce server_nonce kem_pk_json now_ms)
  modify fun self => self.setPending peer_addr (.Server (.AckSent
    { client_nonce := probe.client_nonce, server_nonce, probe_bytes, ack_bytes, sent_at_ms := now_ms }))
  return ack_bytes

/-- Client step 2: process the ack, return the finish. -/
def process_ack_build_finish (peer_addr : Str) (ack_bytes : Bytes) (identity : NodeIdentity crates)
    (rng : crates.OsRng) (now_ms : UInt64) : EStateM GossipError HandshakeManager Bytes := do
  let ack ← attempt (deserialize crates HandshakeAck.codec "HandshakeAck" "ack" ack_bytes)
  attempt (check_header "ack" ack.magic HANDSHAKE_ACK_MAGIC ack.version ack.timestamp_unix_ms now_ms)
  attempt (check_sig_pk_size "sig pk" ack.ml_dsa_65_public_key)
  let self ← get
  let sent ← attempt (orFail ((self.pending[peer_addr]?).bind (·.probeSent?))
    (.HandshakeError s!"no pending client handshake for {peer_addr}"))
  attempt (failIf (ack.client_nonce ≠ sent.client_nonce) (.HandshakeError "nonce mismatch"))
  let server_kem_pk ← attempt ((crates.public_key_from_json ack.hybrid_kem_public_key_json).mapError
    fun e => .CryptoError s!"KEM pk from_json: {e}")
  let (ciphertext, shared_secret) ← attempt ((crates.encapsulate_to rng server_kem_pk).mapError
    fun e => .CryptoError s!"KEM encapsulate failed: {e}")
  let shared_secret_32b ← attempt ((crates.as_32_bytes shared_secret).mapError
    fun e => .CryptoError s!"shared secret not 32 bytes: {e}")
  let ciphertext_json ← attempt ((crates.ciphertext_to_json ciphertext).mapError
    fun e => .CryptoError s!"ciphertext to_json: {e}")
  let kem_ciphertext_bytes ← attempt ((crates.ciphertext_serialize ciphertext).mapError
    fun e => .SerializationError s!"ciphertext serialize: {e}")
  let finish_bytes := HandshakeFinish.codec.encode (finishMessage identity ciphertext_json now_ms)
  modify fun self => self.setPending peer_addr (.Client (.FinishSent
    { client_nonce := sent.client_nonce
      server_nonce := ack.server_nonce
      kem_ciphertext_bytes
      shared_secret_32b
      probe_bytes := sent.probe_bytes
      ack_bytes
      finish_bytes
      server_sig_pk := ack.ml_dsa_65_public_key
      server_node_id := ack.server_node_id
      sent_at_ms := now_ms }))
  return finish_bytes

/-- Server step 2: process the finish, return the finish-ack and the session. The
    context is taken out before the key exchange, so a later failure ends the
    handshake. -/
def process_finish_build_finish_ack (peer_addr : Str) (finish_bytes : Bytes) (identity : NodeIdentity crates)
    (now_ms : UInt64) : EStateM GossipError HandshakeManager (Bytes × SessionRecord) := do
  let finish ← attempt (deserialize crates HandshakeFinish.codec "HandshakeFinish" "finish" finish_bytes)
  attempt (check_header "finish" finish.magic HANDSHAKE_FINISH_MAGIC finish.version
    finish.timestamp_unix_ms now_ms)
  attempt (check_sig_pk_size "client sig pk" finish.client_ml_dsa_65_public_key)
  let context ← takePending peer_addr
  let sent ← attempt (orFail (context.bind (·.ackSent?))
    (.HandshakeError s!"no pending server handshake for {peer_addr}"))
  let ciphertext ← attempt ((crates.ciphertext_from_json finish.kem_ciphertext_json).mapError
    fun e => .CryptoError s!"ciphertext from_json: {e}")
  let shared_secret ← attempt ((crates.decapsulate identity.kem_keypair ciphertext).mapError
    fun e => .CryptoError s!"KEM decapsulate failed: {e}")
  let shared_secret_32b ← attempt ((crates.as_32_bytes shared_secret).mapError
    fun e => .CryptoError s!"shared secret not 32 bytes: {e}")
  let kem_ciphertext_bytes ← attempt ((crates.ciphertext_serialize ciphertext).mapError
    fun e => .SerializationError s!"ciphertext serialize: {e}")
  let transcript_hash := compute_transcript_hash crates sent.probe_bytes sent.ack_bytes finish_bytes
  let server_mac := compute_server_mac crates shared_secret_32b transcript_hash
  let transcript_signature ← attempt (identity.sign transcript_hash.val SIG_CTX_HANDSHAKE)
  let session_id := derive_session_id crates shared_secret_32b sent.client_nonce sent.server_nonce
    kem_ciphertext_bytes identity.node_id
  let finish_ack_bytes := HandshakeFinishAck.codec.encode
    (finishAckMessage session_id transcript_hash server_mac transcript_signature now_ms)
  return (finish_ack_bytes,
    { session_id
      peer_addr
      peer_node_id := finish.client_node_id
      peer_sig_public_key := finish.client_ml_dsa_65_public_key
      transcript_hash
      established_at_ms := now_ms
      is_active := true })

variable (crates) in
/-- Client step 3: process the finish-ack, complete the handshake. The context is
    taken out before the checks on the transcript. -/
def process_finish_ack (peer_addr : Str) (finish_ack_bytes : Bytes) (now_ms : UInt64) :
    EStateM GossipError HandshakeManager SessionRecord := do
  let finish_ack ← attempt (deserialize crates HandshakeFinishAck.codec "HandshakeFinishAck" "finish_ack"
    finish_ack_bytes)
  attempt (check_header "finish_ack" finish_ack.magic HANDSHAKE_FINISH_ACK_MAGIC finish_ack.version
    finish_ack.timestamp_unix_ms now_ms)
  let context ← takePending peer_addr
  let sent ← attempt (orFail (context.bind (·.finishSent?))
    (.HandshakeError s!"no pending client finish for {peer_addr}"))
  let expected_transcript_hash := compute_transcript_hash crates sent.probe_bytes sent.ack_bytes sent.finish_bytes
  attempt (failIf (finish_ack.transcript_hash ≠ expected_transcript_hash)
    (.HandshakeError "transcript hash mismatch"))
  let expected_mac := compute_server_mac crates sent.shared_secret_32b expected_transcript_hash
  attempt (failIf (constant_time_eq finish_ack.server_mac.val expected_mac.val = false)
    (.HandshakeError "mac verification failed"))
  let sig_valid ← attempt (NodeIdentity.verify_external crates sent.server_sig_pk finish_ack.transcript_hash.val
    finish_ack.transcript_signature SIG_CTX_HANDSHAKE)
  attempt (failIf (sig_valid = false) (.HandshakeError "transcript signature invalid"))
  return {
    session_id := finish_ack.session_id
    peer_addr
    peer_node_id := sent.server_node_id
    peer_sig_public_key := sent.server_sig_pk
    transcript_hash := finish_ack.transcript_hash
    established_at_ms := now_ms
    is_active := true }

/-- Route incoming bytes to the handler for their kind. Completed sessions are
    kept in `completed`. -/
def process_incoming (peer_addr : Str) (bytes : Bytes) (identity : NodeIdentity crates)
    (getrandom : Except String Bytes32) (rng : crates.OsRng) (now_ms : UInt64) :
    EStateM GossipError HandshakeManager Bytes := do
  match classify_incoming bytes with
  | .HandshakeProbe => process_probe_build_ack peer_addr bytes identity getrandom now_ms
  | .HandshakeAck => process_ack_build_finish peer_addr bytes identity rng now_ms
  | .HandshakeFinish =>
    let (finish_ack_bytes, session) ← process_finish_build_finish_ack peer_addr bytes identity now_ms
    modify (·.keepCompleted peer_addr session)
    return finish_ack_bytes
  | .HandshakeFinishAck =>
    let session ← process_finish_ack crates peer_addr bytes now_ms
    modify (·.keepCompleted peer_addr session)
    return []
  | .GossipEnvelope => throw (.HandshakeError "expected handshake message, got gossip envelope")

def is_complete (self : HandshakeManager) (peer_addr : Str) : Bool := self.completed.contains peer_addr

def get_session (self : HandshakeManager) (peer_addr : Str) : Option SessionRecord := self.completed[peer_addr]?

/-- Remove a peer's contexts. -/
def remove (self : HandshakeManager) (peer_addr : Str) : HandshakeManager :=
  ⟨self.pending.erase peer_addr, self.completed.erase peer_addr⟩

/-- Evict timed-out handshakes; the evicted addresses are returned. -/
def evict_timed_out (self : HandshakeManager) (now_ms : UInt64) (visit : Visit self.pending) :
    List Str × HandshakeManager :=
  (visit.keys.filter fun addr => (self.pending[addr]?).any (·.is_timed_out now_ms),
    { self with pending := self.pending.filter fun _ context => !context.is_timed_out now_ms })

/-- Take a completed session out of the pending contexts. -/
def take_session (self : HandshakeManager) (peer_addr : Str) : Option SessionRecord × HandshakeManager :=
  ((self.pending[peer_addr]?).bind (·.into_session), self.dropPending peer_addr)

end HandshakeManager

end witan.handshake
