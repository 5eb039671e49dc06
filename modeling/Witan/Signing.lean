import Witan.Envelope
import Witan.Rotation.Lineage

open bincode
open witan.types witan.identity witan.envelope witan.rotation

namespace witan.signing

/-- The uses that a node makes of its signing key. -/
inductive Purpose where
  | envelope
  | transcript
  | authorization
  | possession
  deriving DecidableEq

def Purpose.context : Purpose → Bytes
  | .envelope => SIG_CTX_MESSAGE
  | .transcript => SIG_CTX_HANDSHAKE
  | .authorization => SIG_CTX_KEY_ROTATION
  | .possession => SIG_CTX_KEY_POSSESSION

theorem Purpose.context_length (purpose : Purpose) : purpose.context.length ≤ 255 := by
  cases purpose <;> decide

theorem Purpose.context_injective {first second : Purpose} (h : first.context = second.context) :
    first = second := by
  revert h
  cases first <;> cases second <;> decide

/-- One signature that a node makes, with what it was asked to sign. -/
inductive Signing (crates : Crates) where
  | envelope (identity : NodeIdentity crates) (payload_type : PayloadType) (payload : ByteVec)
      (default_ttl : UInt8) (now_ms : UInt64)
  | transcript (identity : NodeIdentity crates) (transcript_hash : Bytes32)
  | authorization (identity : NodeIdentity crates) (rotation : KeyRotation)
  | possession (identity : NodeIdentity crates) (rotation : KeyRotation)

namespace Signing

variable {crates : Crates}

def identity : Signing crates → NodeIdentity crates
  | .envelope identity .. => identity
  | .transcript identity _ => identity
  | .authorization identity _ => identity
  | .possession identity _ => identity

def purpose : Signing crates → Purpose
  | .envelope .. => .envelope
  | .transcript .. => .transcript
  | .authorization .. => .authorization
  | .possession .. => .possession

/-- What is signed under the purpose's context. -/
def input : Signing crates → Bytes
  | .envelope identity payload_type payload default_ttl now_ms =>
    signing_input (unsigned payload_type payload identity default_ttl now_ms)
  | .transcript _ transcript_hash => transcript_hash.val
  | .authorization _ rotation => rotation.signing_input
  | .possession _ rotation => rotation.signing_input

def public_key (self : Signing crates) : ByteVec := self.identity.sig_public_key_bytes

/-- The message that the signature scheme signs. -/
def message (self : Signing crates) : Bytes := tagged self.purpose.context self.input

/-- A signed message tells which purpose it was signed for and what it covers. -/
theorem message_eq_tagged {self : Signing crates} (purpose : Purpose) {message : Bytes}
    (h : self.message = tagged purpose.context message) : self.purpose = purpose ∧ self.input = message := by
  obtain ⟨hcontext, hinput⟩ := tagged_inj self.purpose.context_length purpose.context_length h
  exact ⟨Purpose.context_injective hcontext, hinput⟩

theorem eq_envelope {self : Signing crates} (h : self.purpose = .envelope) :
    ∃ identity payload_type payload default_ttl now_ms,
      self = .envelope identity payload_type payload default_ttl now_ms := by
  cases self with
  | envelope identity payload_type payload default_ttl now_ms => exact ⟨_, _, _, _, _, rfl⟩
  | transcript => cases h
  | authorization => cases h
  | possession => cases h

theorem eq_transcript {self : Signing crates} (h : self.purpose = .transcript) :
    ∃ identity transcript_hash, self = .transcript identity transcript_hash := by
  cases self with
  | transcript identity transcript_hash => exact ⟨_, _, rfl⟩
  | envelope => cases h
  | authorization => cases h
  | possession => cases h

theorem eq_authorization {self : Signing crates} (h : self.purpose = .authorization) :
    ∃ identity rotation, self = .authorization identity rotation := by
  cases self with
  | authorization identity rotation => exact ⟨_, _, rfl⟩
  | envelope => cases h
  | transcript => cases h
  | possession => cases h

theorem eq_possession {self : Signing crates} (h : self.purpose = .possession) :
    ∃ identity rotation, self = .possession identity rotation := by
  cases self with
  | possession identity rotation => exact ⟨_, _, rfl⟩
  | envelope => cases h
  | transcript => cases h
  | authorization => cases h

end Signing

variable {crates : Crates}

/-- The messages that a history of signings holds for one key. -/
def signedUnder (history : List (Signing crates)) (public_key : ByteVec) : Set Bytes :=
  {message | ∃ signing ∈ history, signing.public_key = public_key ∧ signing.message = message}

theorem mem_signedUnder_envelope {history : List (Signing crates)} {public_key : ByteVec} {message : Bytes}
    (h : tagged SIG_CTX_MESSAGE message ∈ signedUnder history public_key) :
    ∃ identity payload_type payload default_ttl now_ms,
      Signing.envelope identity payload_type payload default_ttl now_ms ∈ history ∧
        identity.sig_public_key_bytes = public_key ∧
        signing_input (unsigned payload_type payload identity default_ttl now_ms) = message := by
  obtain ⟨signing, hmem, hkey, hmessage⟩ := h
  obtain ⟨hpurpose, hinput⟩ := Signing.message_eq_tagged .envelope hmessage
  obtain ⟨identity, payload_type, payload, default_ttl, now_ms, rfl⟩ := Signing.eq_envelope hpurpose
  exact ⟨identity, payload_type, payload, default_ttl, now_ms, hmem, hkey, hinput⟩

theorem mem_signedUnder_transcript {history : List (Signing crates)} {public_key : ByteVec} {message : Bytes}
    (h : tagged SIG_CTX_HANDSHAKE message ∈ signedUnder history public_key) :
    ∃ identity transcript_hash, Signing.transcript identity transcript_hash ∈ history ∧
      identity.sig_public_key_bytes = public_key ∧ transcript_hash.val = message := by
  obtain ⟨signing, hmem, hkey, hmessage⟩ := h
  obtain ⟨hpurpose, hinput⟩ := Signing.message_eq_tagged .transcript hmessage
  obtain ⟨identity, transcript_hash, rfl⟩ := Signing.eq_transcript hpurpose
  exact ⟨identity, transcript_hash, hmem, hkey, hinput⟩

/-- What the honest nodes signed in a run, each with a key of its own. -/
structure HonestHistory (crates : Crates) where
  keys : Set ByteVec
  signings : Vec (Signing crates)
  by_honest : ∀ signing ∈ signings.val, signing.public_key ∈ keys

end witan.signing
