import Witan.Rotation.Record

open bincode fallible
open witan.types witan.error witan.identity

namespace witan.rotation

/-- A stable node id and the chain of keys that have spoken for it. The field
    `inception_state` is the source's `inception`, a name its constructor has here. -/
structure KeyLineage where
  node_id : Str
  inception_state : KeyState
  rotations : List KeyRotation
  current : KeyState
  deriving DecidableEq

/-- Serialized form of a lineage. Only the inputs travel. -/
structure LineageWire where
  version : UInt8
  inception_kem_public_key : ByteVec
  inception_sig_public_key : ByteVec
  inception_key_epoch : Str
  rotations : Vec KeyRotation
  deriving DecidableEq

def KeyRotation.codec : Codec KeyRotation :=
  (u8.pair (string.pair (u64.pair ((array 32).pair (bytes.pair (bytes.pair (string.pair
    ((option (array 32)).pair (u64.pair (bytes.pair bytes)))))))))).record
    (fun (version, node_id, sequence, prev_state_digest, new_kem_public_key, new_sig_public_key,
      new_key_epoch, next_key_commitment, timestamp_unix_ms, authorization, possession) =>
      { version, node_id, sequence, prev_state_digest, new_kem_public_key, new_sig_public_key,
        new_key_epoch, next_key_commitment, timestamp_unix_ms, authorization, possession })
    (fun r => (r.version, r.node_id, r.sequence, r.prev_state_digest, r.new_kem_public_key,
      r.new_sig_public_key, r.new_key_epoch, r.next_key_commitment, r.timestamp_unix_ms,
      r.authorization, r.possession))
    (fun _ => rfl) (fun _ => rfl)

def LineageWire.codec : Codec LineageWire :=
  (u8.pair (bytes.pair (bytes.pair (string.pair (vec KeyRotation.codec))))).record
    (fun (version, inception_kem_public_key, inception_sig_public_key, inception_key_epoch, rotations) =>
      { version, inception_kem_public_key, inception_sig_public_key, inception_key_epoch, rotations })
    (fun wire => (wire.version, wire.inception_kem_public_key, wire.inception_sig_public_key,
      wire.inception_key_epoch, wire.rotations))
    (fun _ => rfl) (fun _ => rfl)

namespace KeyLineage

variable (crates : Crates)

/-- Start a lineage from inception public keys. -/
def inception (kem_public_key sig_public_key : ByteVec) (key_epoch : Str) : Except GossipError KeyLineage := do
  check_key_lengths kem_public_key.val sig_public_key.val
  let state : KeyState :=
    { sequence := 0, kem_public_key, sig_public_key, key_epoch, next_key_commitment := none }
  return {
    node_id := NodeIdentity.derive_node_id crates kem_public_key.val sig_public_key.val
    inception_state := state
    rotations := []
    current := state }

/-- Start a lineage from a never-rotated identity. -/
def from_identity {crates : Crates} (identity : NodeIdentity crates) : Except GossipError KeyLineage := do
  let lineage ← inception crates (← identity.kem_public_key_canonical_bytes)
    identity.sig_public_key_bytes identity.key_epoch
  failIf (lineage.node_id ≠ identity.node_id)
    (.IdentityError "identity node_id is not derived from its keys; supply its lineage")
  return lineage

def sequence (self : KeyLineage) : UInt64 := self.current.sequence

def current_sig_public_key (self : KeyLineage) : ByteVec := self.current.sig_public_key

def current_kem_public_key (self : KeyLineage) : ByteVec := self.current.kem_public_key

def current_key_epoch (self : KeyLineage) : Str := self.current.key_epoch

def next_key_commitment (self : KeyLineage) : Option Bytes32 := self.current.next_key_commitment

/-- The signing key the current one replaced, if the lineage has rotated. -/
def previous_sig_public_key (self : KeyLineage) : Option ByteVec :=
  match self.rotations.length with
  | 0 => none
  | 1 => some self.inception_state.sig_public_key
  | n => (self.rotations[n - 2]?).map (·.new_sig_public_key)

/-- The error of a record that `verify_next` refuses. -/
def rejected (msg : String) : GossipError := .IdentityError s!"rotation rejected: {msg}"

/-- Check a record as the successor of the current state; return the new state.
    The successor's sequence is computed without wrapping: a `u64` overflows
    only after more records than a `Vec` can hold. -/
def verify_next (self : KeyLineage) (r : KeyRotation) : Except GossipError KeyState := do
  failIf (r.version ≠ 1) (rejected s!"unsupported version {r.version}")
  failIf (r.node_id ≠ self.node_id) (rejected "node_id does not match lineage")
  failIf (r.sequence.toNat ≠ self.current.sequence.toNat + 1)
    (rejected s!"expected sequence {self.current.sequence.toNat + 1}, got {r.sequence}")
  failIf (r.prev_state_digest ≠ self.current.digest crates self.node_id)
    (rejected "prev_state_digest does not match current state")
  check_key_lengths r.new_kem_public_key.val r.new_sig_public_key.val
  let input := r.signing_input
  let possessed ← NodeIdentity.verify_external crates r.new_sig_public_key input r.possession
    SIG_CTX_KEY_POSSESSION
  failIf (possessed = false) (rejected "new key's proof of possession is invalid")
  match self.current.next_key_commitment with
  | some commitment => do
    failIf (key_commitment crates r.new_sig_public_key.val ≠ commitment)
      (rejected "new key does not match the pre-rotation commitment")
    failIf (r.authorization.val ≠ [])
      (rejected "authorization must be empty when a commitment is in force")
  | none => do
    let authorized ← NodeIdentity.verify_external crates self.current.sig_public_key input
      r.authorization SIG_CTX_KEY_ROTATION
    failIf (authorized = false) (rejected "previous key's authorization is invalid")
  return {
    sequence := r.sequence
    kem_public_key := r.new_kem_public_key
    sig_public_key := r.new_sig_public_key
    key_epoch := r.new_key_epoch
    next_key_commitment := r.next_key_commitment }

/-- Verify a record against the current state and, if valid, advance. -/
def apply (rotation : KeyRotation) : EStateM GossipError KeyLineage Unit := do
  let self ← get
  if 1 ≤ rotation.sequence ∧ rotation.sequence ≤ self.current.sequence then
    -- The source indexes `rotations` here, which aborts out of range.
    if self.rotations[rotation.sequence.toNat - 1]? = some rotation then pure ()
    else throw (.IdentityError
      s!"lineage fork: conflicting rotation at sequence {rotation.sequence} for node {self.node_id}")
  else do
    let next ← attempt (self.verify_next crates rotation)
    set { self with rotations := self.rotations ++ [rotation], current := next }

/-- Check that an envelope's sender is this lineage's node, speaking with its
    current signing key. -/
def check_envelope_sender (self : KeyLineage) (envelope : GossipEnvelope) : Except GossipError Unit := do
  failIf (envelope.sender_node_id ≠ self.node_id)
    (.IdentityError s!"sender {envelope.sender_node_id} is not lineage node {self.node_id}")
  failIf (envelope.sender_public_key ≠ self.current.sig_public_key)
    (.IdentityError
      s!"sender key is not the current key for node {self.node_id} (sequence {self.current.sequence})")

/-- What `encode` serializes. -/
def wire (self : KeyLineage) : LineageWire :=
  { version := LINEAGE_VERSION
    inception_kem_public_key := self.inception_state.kem_public_key
    inception_sig_public_key := self.inception_state.sig_public_key
    inception_key_epoch := self.inception_state.key_epoch
    rotations := Vec.ofList self.rotations }

/-- Encode for storage or distribution. Serializing these types never fails. -/
def encode (self : KeyLineage) : Except GossipError Bytes := .ok (LineageWire.codec.encode self.wire)

/-- The loop of `decode`: apply the records in order. -/
def decode_rotations : KeyLineage → List KeyRotation → Except GossipError KeyLineage
  | lineage, [] => .ok lineage
  | lineage, rotation :: rotations =>
    if rotation.sequence.toNat ≠ lineage.current.sequence.toNat + 1 then
      .error (.IdentityError
        s!"lineage out of order: expected sequence {lineage.current.sequence.toNat + 1}, got {rotation.sequence}")
    else
      match apply crates rotation lineage with
      | .ok _ lineage => decode_rotations lineage rotations
      | .error e _ => .error e

/-- Decode and verify a lineage. Fails unless every record verifies. The size
    limit given to the decoder is the one checked here, so it never strikes. -/
def decode (bytes : Bytes) : Except GossipError KeyLineage := do
  failIf (bytes.length > MAX_LINEAGE_BYTES)
    (.InvalidInput s!"lineage too large: {bytes.length} > {MAX_LINEAGE_BYTES} bytes")
  let wire ← orFail (LineageWire.codec.decodeExact bytes)
    (let e := crates.decode_message "LineageWire" bytes
     .SerializationError s!"bincode decode failed: {e}")
  failIf (wire.version ≠ LINEAGE_VERSION)
    (.IdentityError s!"unsupported lineage version: {wire.version}")
  let lineage ← inception crates wire.inception_kem_public_key wire.inception_sig_public_key
    wire.inception_key_epoch
  decode_rotations crates lineage wire.rotations.val

variable {crates}

variable (crates) in
/-- The record that moves the current state to the given keys, before it is signed. -/
def draft (self : KeyLineage) (new_kem_public_key new_sig_public_key : ByteVec) (new_key_epoch : Str)
    (next_key_commitment : Option Bytes32) (now_ms : UInt64) : KeyRotation :=
  { version := 1
    node_id := self.node_id
    sequence := self.current.sequence + 1
    prev_state_digest := self.current.digest crates self.node_id
    new_kem_public_key
    new_sig_public_key
    new_key_epoch
    next_key_commitment
    timestamp_unix_ms := now_ms
    authorization := Vec.ofList []
    possession := Vec.ofList [] }

/-- Build and sign the record that moves the current state to `next`, apply it,
    and return it. -/
def build_and_apply (current : Option (NodeIdentity crates)) (next : NodeIdentity crates)
    (next_key_commitment : Option Bytes32) (now_ms : UInt64) :
    EStateM GossipError KeyLineage KeyRotation := do
  let self ← get
  let new_kem_public_key ← attempt next.kem_public_key_canonical_bytes
  let rotation := self.draft crates new_kem_public_key next.sig_public_key_bytes next.key_epoch
    next_key_commitment now_ms
  let input := rotation.signing_input
  let authorization ← attempt (match self.current.next_key_commitment, current with
    | some _, _ => .ok rotation.authorization
    | none, some current => current.sign input SIG_CTX_KEY_ROTATION
    | none, none => .error (.IdentityError "rotation needs the current key"))
  let possession ← attempt (next.sign input SIG_CTX_KEY_POSSESSION)
  let rotation := { rotation with authorization, possession }
  apply crates rotation
  return rotation

/-- Rotate from `current`, which must hold this lineage's current keys, to `next`. -/
def rotate (current next : NodeIdentity crates) (next_key_commitment : Option Bytes32) (now_ms : UInt64) :
    EStateM GossipError KeyLineage KeyRotation := do
  let self ← get
  attempt (failIf (current.sig_public_key_bytes ≠ self.current.sig_public_key)
    (.IdentityError "rotating identity does not hold this lineage's current key"))
  build_and_apply (some current) next next_key_commitment now_ms

/-- Rotate to the pre-committed key without the current key. -/
def recover (next : NodeIdentity crates) (next_key_commitment : Option Bytes32) (now_ms : UInt64) :
    EStateM GossipError KeyLineage KeyRotation := do
  let self ← get
  attempt (failIf (self.current.next_key_commitment = none)
    (.IdentityError "recovery needs a pre-rotation commitment; this lineage has none"))
  build_and_apply none next next_key_commitment now_ms

end KeyLineage

end witan.rotation
