import Witan.Identity
import Witan.Messages

open bincode fallible
open witan.types witan.error witan.identity

namespace witan.rotation

/-- ML-DSA-65 context for the previous key's authorization of a rotation. -/
def SIG_CTX_KEY_ROTATION : Bytes := (literal ⟨"WITAN_KEY_ROTATION_V1", by decide⟩).val

/-- ML-DSA-65 context for the new key's proof of possession in a rotation. -/
def SIG_CTX_KEY_POSSESSION : Bytes := (literal ⟨"WITAN_KEY_POSSESSION_V1", by decide⟩).val

/-- Domain tag for state digests. -/
def STATE_DIGEST_TAG : Bytes := (literal ⟨"WITAN_KEY_STATE_V1", by decide⟩).val

/-- Domain tag for the bytes both rotation signatures cover. -/
def ROTATION_SIGNING_TAG : Bytes := (literal ⟨"WITAN_KEY_ROTATION_RECORD_V1", by decide⟩).val

/-- Domain tag for pre-rotation key commitments. -/
def COMMITMENT_TAG : Bytes := (literal ⟨"WITAN_NEXT_KEY_COMMITMENT_V1", by decide⟩).val

def SIG_PK_LEN : Nat := 1952

def KEM_PK_LEN : Nat := 32 + 1184

def LINEAGE_VERSION : UInt8 := 1

/-- Upper bound on a decoded lineage. -/
def MAX_LINEAGE_BYTES : Nat := 4 * 1024 * 1024

/-- The bytes that a commitment to a signing key hashes. -/
def commitmentInput (sig_public_key : Bytes) : Bytes := COMMITMENT_TAG ++ sig_public_key

/-- Pre-rotation commitment to a signing public key. -/
def key_commitment (crates : Crates) (sig_public_key : Bytes) : Bytes32 :=
  crates.sha256 (commitmentInput sig_public_key)

/-- Commitment to the signing key that a seed generates. -/
def key_commitment_for_seed (crates : Crates) (sig_seed : Bytes) : Except GossipError Bytes32 := do
  let kp ← (crates.sig_from_secret_key_bytes sig_seed).mapError
    fun e => .IdentityError s!"SIG restore failed: {e}"
  return key_commitment crates (crates.sig_public_key kp).val

def put_bytes (out bytes : Bytes) : Bytes :=
  out ++ u64be.encode (UInt64.ofNat bytes.length) ++ bytes

def put_commitment (out : Bytes) : Option Bytes32 → Bytes
  | some c => out ++ [1] ++ c.val
  | none => out ++ [0]

/-- One signed step in a lineage. -/
structure KeyRotation where
  version : UInt8
  node_id : Str
  sequence : UInt64
  prev_state_digest : Bytes32
  new_kem_public_key : ByteVec
  new_sig_public_key : ByteVec
  new_key_epoch : Str
  next_key_commitment : Option Bytes32
  timestamp_unix_ms : UInt64
  authorization : ByteVec
  possession : ByteVec
  deriving DecidableEq

/-- The bytes both signatures cover: every field except the signatures,
    length-prefixed and domain-separated. -/
def KeyRotation.signing_input (self : KeyRotation) : Bytes :=
  let out := ROTATION_SIGNING_TAG
  let out := out ++ [self.version]
  let out := put_bytes out self.node_id.bytes.val
  let out := out ++ u64be.encode self.sequence
  let out := out ++ self.prev_state_digest.val
  let out := put_bytes out self.new_kem_public_key.val
  let out := put_bytes out self.new_sig_public_key.val
  let out := put_bytes out self.new_key_epoch.bytes.val
  let out := put_commitment out self.next_key_commitment
  out ++ u64be.encode self.timestamp_unix_ms

/-- The keys that speak for a node id at one point in its lineage. -/
structure KeyState where
  sequence : UInt64
  kem_public_key : ByteVec
  sig_public_key : ByteVec
  key_epoch : Str
  next_key_commitment : Option Bytes32
  deriving DecidableEq

/-- The bytes that a state digest hashes. -/
def KeyState.digestInput (self : KeyState) (node_id : Str) : Bytes :=
  let buf := STATE_DIGEST_TAG
  let buf := put_bytes buf node_id.bytes.val
  let buf := buf ++ u64be.encode self.sequence
  let buf := put_bytes buf self.kem_public_key.val
  let buf := put_bytes buf self.sig_public_key.val
  let buf := put_bytes buf self.key_epoch.bytes.val
  put_commitment buf self.next_key_commitment

def KeyState.digest (crates : Crates) (self : KeyState) (node_id : Str) : Bytes32 :=
  crates.sha256 (self.digestInput node_id)

def check_key_lengths (kem_pk sig_pk : Bytes) : Except GossipError Unit := do
  failIf (kem_pk.length ≠ KEM_PK_LEN)
    (.IdentityError s!"invalid kem pk size: expected {KEM_PK_LEN}, got {kem_pk.length}")
  failIf (sig_pk.length ≠ SIG_PK_LEN)
    (.IdentityError s!"invalid sig pk size: expected {SIG_PK_LEN}, got {sig_pk.length}")

theorem check_key_lengths_eq_ok_iff {kem_pk sig_pk : Bytes} {value : Unit} :
    check_key_lengths kem_pk sig_pk = .ok value ↔
      kem_pk.length = KEM_PK_LEN ∧ sig_pk.length = SIG_PK_LEN := by
  simp [check_key_lengths, except_bind_eq_ok_iff, failIf_eq_ok_iff]

/-! Both inputs are a tag followed by fields that can be cut apart: each is
fixed in size or preceded by its length. -/

/-- A big-endian length and the bytes, as `put_bytes` writes them. -/
def sized : Codec ByteVec := counted u8 u64be

/-- A string as `put_bytes` writes its bytes. -/
def sizedText : Codec Str := sized.refine Str.ofBytes? Str.bytes Str.ofBytes?_bytes Str.bytes_of_ofBytes?

theorem put_bytes_eq (out : Bytes) (value : ByteVec) : put_bytes out value.val = out ++ sized.encode value := by
  simp [put_bytes, sized]

theorem put_commitment_eq (out : Bytes) (commitment : Option Bytes32) :
    put_commitment out commitment = out ++ (option (array 32)).encode commitment := by
  cases commitment <;> simp [put_commitment, option]

/-- The digested fields, with the node id they are digested under. -/
def KeyState.digestCodec : Codec (Str × UInt64 × ByteVec × ByteVec × Str × Option Bytes32) :=
  sizedText.pair (u64be.pair (sized.pair (sized.pair (sizedText.pair (option (array 32))))))

theorem KeyState.digestInput_eq (self : KeyState) (node_id : Str) :
    self.digestInput node_id = STATE_DIGEST_TAG ++ KeyState.digestCodec.encode
      (node_id, self.sequence, self.kem_public_key, self.sig_public_key, self.key_epoch,
        self.next_key_commitment) := by
  simp [KeyState.digestInput, KeyState.digestCodec, put_bytes_eq, put_commitment_eq, sizedText]

/-- The digested bytes determine the node id and the whole state. -/
theorem KeyState.digestInput_inj {first second : KeyState} {node_id node_id' : Str}
    (h : first.digestInput node_id = second.digestInput node_id') : node_id = node_id' ∧ first = second := by
  rw [KeyState.digestInput_eq, KeyState.digestInput_eq] at h
  have hfields := KeyState.digestCodec.encode_injective (List.append_cancel_left h)
  simp only [Prod.mk.injEq] at hfields
  obtain ⟨hid, hsequence, hkem, hsig, hepoch, hcommitment⟩ := hfields
  refine ⟨hid, ?_⟩
  cases first
  cases second
  simp_all

/-- What both signatures of a record cover: the record without them. -/
def KeyRotation.unsigned (self : KeyRotation) : KeyRotation :=
  { self with authorization := Vec.ofList [], possession := Vec.ofList [] }

/-- The signed fields, in the order in which they are signed. -/
def KeyRotation.signingCodec :
    Codec (UInt8 × Str × UInt64 × Bytes32 × ByteVec × ByteVec × Str × Option Bytes32 × UInt64) :=
  u8.pair (sizedText.pair (u64be.pair ((array 32).pair (sized.pair (sized.pair (sizedText.pair
    ((option (array 32)).pair u64be)))))))

theorem KeyRotation.signing_input_eq (self : KeyRotation) :
    self.signing_input = ROTATION_SIGNING_TAG ++ KeyRotation.signingCodec.encode
      (self.version, self.node_id, self.sequence, self.prev_state_digest, self.new_kem_public_key,
        self.new_sig_public_key, self.new_key_epoch, self.next_key_commitment, self.timestamp_unix_ms) := by
  simp [KeyRotation.signing_input, KeyRotation.signingCodec, put_bytes_eq, put_commitment_eq, sizedText]

/-- The signed bytes determine every field but the signatures. -/
theorem KeyRotation.signing_input_inj {first second : KeyRotation}
    (h : first.signing_input = second.signing_input) : first.unsigned = second.unsigned := by
  rw [KeyRotation.signing_input_eq, KeyRotation.signing_input_eq] at h
  have hfields := KeyRotation.signingCodec.encode_injective (List.append_cancel_left h)
  simp only [Prod.mk.injEq] at hfields
  obtain ⟨hversion, hid, hsequence, hdigest, hkem, hsig, hepoch, hcommitment, htime⟩ := hfields
  unfold KeyRotation.unsigned
  rw [hversion, hid, hsequence, hdigest, hkem, hsig, hepoch, hcommitment, htime]

/-- State digests bind the node id and the state, and their input is never taken for
    what a commitment hashes or what a rotation signs. -/
theorem KeyState.digestInput_separated (state : KeyState) (node_id : Str) :
    (∀ (other : KeyState) (node_id' : Str),
      state.digestInput node_id = other.digestInput node_id' ↔ node_id = node_id' ∧ state = other) ∧
      (∀ sig_public_key : Bytes, state.digestInput node_id ≠ commitmentInput sig_public_key) ∧
      ∀ record : KeyRotation, state.digestInput node_id ≠ record.signing_input := by
  refine ⟨fun other node_id' => ⟨KeyState.digestInput_inj, ?_⟩, fun sig_public_key => ?_, fun record => ?_⟩
  · rintro ⟨rfl, rfl⟩
    rfl
  · -- The tags alone keep the inputs apart: they differ before either ends.
    rw [KeyState.digestInput_eq]
    exact append_ne_append (by decide) (by decide)
  · rw [KeyState.digestInput_eq, KeyRotation.signing_input_eq]
    exact append_ne_append (by decide) (by decide)

end witan.rotation
