import Witan.Config
import Witan.Identity

open bincode fallible
open witan.types witan.config

/-! A small implementation of the crates that satisfies every law the
development assumes of them. Keys are single bytes stretched to their
documented sizes; only what the laws say about the real ones holds of it. -/

namespace witan.reference

def digest (bytes : Bytes) : Bytes32 :=
  ⟨leBytes 32 (bytes.foldl (fun acc b => acc * 257 + b.toNat + 1) 0), leBytes_length _ _⟩

def stretched (n : Nat) (h : n < 2 ^ 64) (key : UInt8) : ByteVec := ⟨List.replicate n key, by simpa using h⟩

theorem stretched_length (n : Nat) (h : n < 2 ^ 64) (key : UInt8) : (stretched n h key).val.length = n :=
  List.length_replicate

def kemPublicKey (key : UInt8) : ByteVec := stretched 1216 (by decide) key

def sigPublicKey (key : UInt8) : ByteVec := stretched 1952 (by decide) key

def signature (key : UInt8) (message : Bytes) : ByteVec :=
  ⟨List.replicate 3277 key ++ (digest message).val, by
    rw [List.length_append, List.length_replicate, (digest message).property]
    decide⟩

/-- The secret that an encapsulation to `key` with randomness `draw` yields. -/
def secret (key draw : UInt8) : Bytes32 := ⟨draw :: List.replicate 31 key, by simp⟩

def text (bytes : Bytes) (h : 2 * bytes.length < 2 ^ 64) : Str :=
  ⟨hex.encodeString bytes, by rw [hex.utf8ByteSize_encodeString]; exact h⟩

/-- The texts of a public key and of a ciphertext. -/
def keyJson (key : UInt8) : Str := text [key] (by simp)

def ciphertextJson (key draw : UInt8) : Str := text [key, draw] (by simp)

def nonce (byte : UInt8) : Bytes32 := ⟨List.replicate 32 byte, List.length_replicate⟩

def emptyPayload : ByteVec := ⟨[], by decide⟩

theorem text_bytes_length (bytes : Bytes) (h : 2 * bytes.length < 2 ^ 64) :
    (text bytes h).bytes.val.length = 2 * bytes.length :=
  hex.utf8ByteSize_encodeString bytes

/-- The seeds of a key. -/
def kemSeed (key : UInt8) : Bytes := List.replicate 96 key

def sigSeed (key : UInt8) : Bytes := List.replicate 32 key

/-- A configuration that carries the seeds of a key. -/
def config (key : UInt8) : GossipConfig :=
  ⟨none, some (text (kemSeed key) (by simp [kemSeed])), some (text (sigSeed key) (by simp [sigSeed])), none, none,
    none, none, none, none, none, none, none, none⟩

def crates : Crates where
  sha256 := digest
  hmac_sha256 key message := digest (key ++ message)
  hkdf_sha256 ikm info := digest (ikm ++ info)
  OsRng := UInt8
  MlDsa65Keypair := UInt8
  sig_generate draw := .ok draw
  sig_from_secret_key_bytes seed :=
    if seed.length = 32 then .ok (seed.headD 0) else .error "invalid seed length"
  sig_public_key := sigPublicKey
  sign_deterministic key message := .ok (signature key message)
  sig_verify public_key message candidate :=
    if candidate = signature (public_key.val.headD 0) message then .ok () else .error .VerificationFailed
  HybridKemKeypair := UInt8
  HybridPublicKey := UInt8
  HybridKemCiphertext := UInt8 × UInt8
  SharedSecret := Bytes32
  kem_generate draw := .ok draw
  kem_from_secret_key_bytes x25519_seed mlkem_seed :=
    if x25519_seed.length = 32 ∧ mlkem_seed.length = 64 then .ok (x25519_seed.headD 0)
    else .error "invalid seed length"
  kem_public_key key := key
  x25519_bytes key := .ok (List.replicate 32 key)
  mlkem_bytes key := .ok (List.replicate 1184 key)
  public_key_to_json key := .ok (keyJson key)
  public_key_from_json json :=
    match hex.decode json.val with
    | some [key] => .ok key
    | _ => .error "invalid public key"
  encapsulate_to draw key := .ok ((key, draw), secret key draw)
  -- A ciphertext for another key decapsulates to another secret, not to an error.
  decapsulate key ciphertext := .ok (secret key ciphertext.2)
  as_32_bytes shared := .ok shared
  ciphertext_to_json ciphertext := .ok (ciphertextJson ciphertext.1 ciphertext.2)
  ciphertext_from_json json :=
    match hex.decode json.val with
    | some [key, draw] => .ok (key, draw)
    | _ => .error "invalid ciphertext"
  ciphertext_serialize ciphertext := .ok [ciphertext.1, ciphertext.2]
  decode_message _ _ := "io error: unexpected end of file"
  hex_message _ := "invalid character"
  config_from_str json :=
    match hex.decode json with
    | some [key] => .ok (config key)
    | _ => .error "expected value"
  json_to_string _ := .ok ⟨"\x7b\x7d", by decide⟩

/-- What the configuration resolves to: the seeds and defaults. -/
def resolved (key : UInt8) : ResolvedConfig where
  node_id_override := none
  kem_seed := some ⟨kemSeed key, List.length_replicate⟩
  sig_seed := some ⟨sigSeed key, List.length_replicate⟩
  key_epoch := ephemeralRuntime
  mesh_n := 8
  mesh_n_low := 4
  mesh_n_high := 12
  heartbeat_ms := 700
  max_message_bytes := 1048576
  dedup_cache_secs := 60
  quorum_fraction := 67 / 100
  replay_window_ms := 30000
  default_ttl := 8

theorem from_json_text (key : UInt8) : GossipConfig.from_json crates (hex.encodeString [key]) = .ok (config key) := by
  unfold GossipConfig.from_json crates
  dsimp only
  rw [hex.decode_encodeString]
  rfl

theorem decode_seed_text (field : String) {length : Nat} {seed : Bytes} (h : 2 * seed.length < 2 ^ 64)
    (hlength : seed.length = length) :
    decode_seed crates field length (some (text seed h)) = .ok (some ⟨seed, hlength⟩) := by
  unfold decode_seed text
  dsimp only
  rw [hex.decode_encodeString]
  exact dif_pos hlength

theorem resolve_config (key : UInt8) : (config key).resolve crates = .ok (resolved key) := by
  unfold GossipConfig.resolve
  simp only [except_bind_eq_ok_iff, failIf_eq_ok_iff, exists_const, not_not]
  have hlow : ¬ (4 : UInt8) > 8 := by decide
  have hhigh : ¬ (8 : UInt8) > 12 := by decide
  have hfraction : (0 : ℚ) ≤ 67 / 100 ∧ (67 / 100 : ℚ) ≤ 1 := by decide +kernel
  exact ⟨_, decode_seed_text "kem_seed_hex" _ List.length_replicate, _,
    decode_seed_text "sig_seed_hex" _ List.length_replicate, hlow, hhigh, hfraction, rfl⟩

theorem headD_replicate_succ (n : Nat) (key : UInt8) : (List.replicate (n + 1) key).headD 0 = key := rfl

theorem sig_verify_eq (public_key : ByteVec) (message : Bytes) (candidate : ByteVec) :
    crates.sig_verify public_key message candidate =
      if candidate = signature (public_key.val.headD 0) message then .ok () else .error .VerificationFailed := rfl

theorem sig_verify_signature (key : UInt8) (message : Bytes) :
    crates.sig_verify (sigPublicKey key) message (signature key message) = .ok () := by
  have hhead : (sigPublicKey key).val.headD 0 = key := headD_replicate_succ 1951 key
  rw [sig_verify_eq, hhead, if_pos rfl]

theorem eq_signature_of_sig_verify {key : UInt8} {message : Bytes} {candidate : ByteVec}
    (h : crates.sig_verify (sigPublicKey key) message candidate = .ok ()) :
    candidate = signature key message := by
  have hhead : (sigPublicKey key).val.headD 0 = key := headD_replicate_succ 1951 key
  rw [sig_verify_eq, hhead] at h
  split at h
  · assumption
  · cases h

theorem key_eq_of_signature_eq {key key' : UInt8} {message message' : Bytes}
    (h : signature key message = signature key' message') : key = key' := by
  have hhead := congrArg (fun bytes : ByteVec => bytes.val.headD 0) h
  have hcons : ∀ key message, (signature key message).val = key :: (List.replicate 3276 key ++ (digest message).val) :=
    fun _ _ => rfl
  simpa only [hcons, List.headD_cons] using hhead

theorem signatureCorrect : crates.SignatureCorrect where
  sign key message := ⟨signature key message, rfl, sig_verify_signature key message⟩

theorem signature_length (key : UInt8) (message : Bytes) : (signature key message).val.length = 3309 := by
  change (List.replicate 3277 key ++ (digest message).val).length = 3309
  rw [List.length_append, List.length_replicate, (digest message).property]

theorem signatureLengths : crates.SignatureLengths where
  sign key message signed hsign := by
    obtain rfl := Except.ok.inj hsign
    exact signature_length key message

theorem length_stretched_key (key : UInt8) :
    (List.replicate 32 key).length + (List.replicate 1184 key).length = 1216 := by
  rw [List.length_replicate, List.length_replicate]

theorem keyLengths : crates.KeyLengths where
  sig key := stretched_length 1952 (by decide) key
  kem key := ⟨_, _, rfl, rfl, length_stretched_key key⟩

theorem ofList_stretched_key (key : UInt8) :
    (Vec.ofList (List.replicate 32 key ++ List.replicate 1184 key) : ByteVec) = kemPublicKey key := by
  refine Subtype.ext ?_
  rw [Vec.ofList_val, List.replicate_append_replicate]
  · rfl
  · rw [List.length_append, length_stretched_key]
    decide

theorem kem_public_key_bytes_eq (key : UInt8) :
    identity.NodeIdentity.kem_public_key_bytes crates key = .ok (kemPublicKey key) :=
  congrArg Except.ok (ofList_stretched_key key)

theorem kemCorrect : crates.KemCorrect where
  encapsulate key draw := ⟨(key, draw), secret key draw, secret key draw, rfl, rfl, rfl⟩

theorem public_key_from_json_of_decode {json : Str} {key : UInt8} (h : hex.decode json.val = some [key]) :
    crates.public_key_from_json json = .ok key := by
  change (match hex.decode json.val with
    | some [key] => Except.ok key
    | _ => Except.error "invalid public key") = _
  rw [h]
  rfl

theorem ciphertext_from_json_of_decode {json : Str} {key draw : UInt8} (h : hex.decode json.val = some [key, draw]) :
    crates.ciphertext_from_json json = .ok (key, draw) := by
  change (match hex.decode json.val with
    | some [key, draw] => Except.ok (key, draw)
    | _ => Except.error "invalid ciphertext") = _
  rw [h]
  rfl

theorem public_key_from_json_keyJson (key : UInt8) : crates.public_key_from_json (keyJson key) = .ok key :=
  public_key_from_json_of_decode (hex.decode_encodeString [key])

theorem ciphertext_from_json_ciphertextJson (key draw : UInt8) :
    crates.ciphertext_from_json (ciphertextJson key draw) = .ok (key, draw) :=
  ciphertext_from_json_of_decode (hex.decode_encodeString [key, draw])

theorem kemRoundTrip : crates.KemRoundTrip where
  public_key key := ⟨_, rfl, public_key_from_json_keyJson key⟩
  ciphertext ciphertext := ⟨_, _, rfl, ciphertext_from_json_ciphertextJson ciphertext.1 ciphertext.2, rfl⟩

open witan.identity

/-- The identity of a key, with a label for its epoch. -/
def nodeAt (key : UInt8) (key_epoch : Str) : NodeIdentity crates where
  node_id := NodeIdentity.derive_node_id crates (kemPublicKey key).val (sigPublicKey key).val
  kem_keypair := key
  sig_keypair := key
  key_epoch

theorem of_keypairs_eq (key : UInt8) (key_epoch : Str) :
    NodeIdentity.of_keypairs crates key key key_epoch = .ok (nodeAt key key_epoch) :=
  NodeIdentity.of_keypairs_eq_ok_iff.mpr ⟨kemPublicKey key, kem_public_key_bytes_eq key, rfl⟩

theorem from_seeds_eq (key : UInt8) (key_epoch : Str) :
    NodeIdentity.from_seeds crates ((kemSeed key).take 32) ((kemSeed key).drop 32) (sigSeed key) key_epoch =
      .ok (nodeAt key key_epoch) := by
  unfold NodeIdentity.from_seeds
  rw [except_bind_eq_ok_iff]
  refine ⟨key, rfl, ?_⟩
  rw [except_bind_eq_ok_iff]
  exact ⟨key, rfl, of_keypairs_eq key key_epoch⟩

end witan.reference
