import Mathlib.Algebra.Order.Field.Rat
import Mathlib.Data.Set.Defs
import Witan.Types

open bincode
open witan.types

namespace witan.config

/-- Configuration for the gossip component. Missing fields take defaults. The
    quorum fraction is read as the exact rational that its text denotes. -/
structure GossipConfig where
  node_id : Option Str
  kem_seed_hex : Option Str
  sig_seed_hex : Option Str
  key_epoch : Option Str
  mesh_n : Option UInt8
  mesh_n_low : Option UInt8
  mesh_n_high : Option UInt8
  heartbeat_ms : Option UInt64
  max_message_bytes : Option Nat
  dedup_cache_secs : Option UInt64
  quorum_fraction : Option ℚ
  replay_window_ms : Option UInt64
  default_ttl : Option UInt8

end witan.config

namespace witan

/-- The JSON values that the API's answers are made of. -/
inductive Json where
  | null
  | bool (value : Bool)
  | number (value : Nat)
  | string (value : String)
  | bytes (value : Bytes)
  | array (values : List Json)
  | object (fields : List (String × Json))

/-- What `pqc_sig` reports when a signature is not accepted. -/
inductive SigError where
  | VerificationFailed
  | Other (message : String)
  deriving DecidableEq

/-- The third-party crates the component calls. Fallible calls report the text
    that the source formats into its own errors; randomness is an argument. -/
structure Crates where
  sha256 : Bytes → Bytes32
  hmac_sha256 : (key message : Bytes) → Bytes32
  /-- HKDF-SHA256 without a salt, expanded to 32 bytes. -/
  hkdf_sha256 : (ikm info : Bytes) → Bytes32
  /-- A draw from the operating system's random number generator. -/
  OsRng : Type
  MlDsa65Keypair : Type
  sig_generate : OsRng → Except String MlDsa65Keypair
  sig_from_secret_key_bytes : Bytes → Except String MlDsa65Keypair
  sig_public_key : MlDsa65Keypair → ByteVec
  sign_deterministic : MlDsa65Keypair → Bytes → Except String ByteVec
  sig_verify : (public_key : ByteVec) → (message : Bytes) → (signature : ByteVec) → Except SigError Unit
  HybridKemKeypair : Type
  HybridPublicKey : Type
  HybridKemCiphertext : Type
  SharedSecret : Type
  kem_generate : OsRng → Except String HybridKemKeypair
  kem_from_secret_key_bytes : (x25519_seed mlkem_seed : Bytes) → Except String HybridKemKeypair
  kem_public_key : HybridKemKeypair → HybridPublicKey
  x25519_bytes : HybridPublicKey → Except String Bytes
  mlkem_bytes : HybridPublicKey → Except String Bytes
  public_key_to_json : HybridPublicKey → Except String Str
  public_key_from_json : Str → Except String HybridPublicKey
  encapsulate_to : OsRng → HybridPublicKey → Except String (HybridKemCiphertext × SharedSecret)
  decapsulate : HybridKemKeypair → HybridKemCiphertext → Except String SharedSecret
  as_32_bytes : SharedSecret → Except String Bytes32
  ciphertext_to_json : HybridKemCiphertext → Except String Str
  ciphertext_from_json : Str → Except String HybridKemCiphertext
  ciphertext_serialize : HybridKemCiphertext → Except String Bytes
  /-- The message of a failed `bincode` decode of the named type. -/
  decode_message : (type_name : String) → Bytes → String
  /-- The message of a failed `hex::decode`. -/
  hex_message : String → String
  config_from_str : String → Except String config.GossipConfig
  json_to_string : Json → Except String Str

namespace Crates

variable (crates : Crates)

/-- ML-DSA-65 keys sign every message, and the signature verifies. -/
structure SignatureCorrect : Prop where
  sign : ∀ keypair message, ∃ signature, crates.sign_deterministic keypair message = .ok signature ∧
    crates.sig_verify (crates.sig_public_key keypair) message signature = .ok ()

/-- Public keys have their documented sizes: 1952 bytes for ML-DSA-65 and 1216
    canonical bytes (X25519 and ML-KEM-768) for the hybrid KEM. -/
structure KeyLengths : Prop where
  sig : ∀ keypair, (crates.sig_public_key keypair).val.length = 1952
  kem : ∀ keypair, ∃ x25519 mlkem, crates.x25519_bytes (crates.kem_public_key keypair) = .ok x25519 ∧
    crates.mlkem_bytes (crates.kem_public_key keypair) = .ok mlkem ∧ x25519.length + mlkem.length = 1216

/-- Signatures have their documented size. -/
structure SignatureLengths : Prop where
  sign : ∀ keypair message signature, crates.sign_deterministic keypair message = .ok signature →
    signature.val.length = 3309

/-- Encapsulation to a keypair's public key gives a 32-byte secret that the
    keypair recovers from the ciphertext. -/
structure KemCorrect : Prop where
  encapsulate : ∀ keypair rng, ∃ ciphertext secret secret_32b,
    crates.encapsulate_to rng (crates.kem_public_key keypair) = .ok (ciphertext, secret) ∧
    crates.decapsulate keypair ciphertext = .ok secret ∧ crates.as_32_bytes secret = .ok secret_32b

/-- The JSON and binary encodings of the KEM's keys and ciphertexts exist and
    the JSON reads back. -/
structure KemRoundTrip : Prop where
  public_key : ∀ key, ∃ json, crates.public_key_to_json key = .ok json ∧
    crates.public_key_from_json json = .ok key
  ciphertext : ∀ ciphertext, ∃ json bytes, crates.ciphertext_to_json ciphertext = .ok json ∧
    crates.ciphertext_from_json json = .ok ciphertext ∧ crates.ciphertext_serialize ciphertext = .ok bytes

/-- Unforgeability, for one signature that is shown to a verifier: if it is
    accepted, the holder of the key signed the message. -/
def Unforged (signed : Set Bytes) (public_key : ByteVec) (message : Bytes) (signature : ByteVec) : Prop :=
  crates.sig_verify public_key message signature = .ok () → message ∈ signed

end Crates

end witan
