import Witan.Types

open bincode

namespace witan.types

/-! The wire format of the messages: each field in declaration order. -/

/-- An enum variant travels as its 32-bit index. -/
def PayloadType.codec : Codec PayloadType :=
  u32.refine (fun index => if index < 5 then PayloadType.from_u8 index.toUInt8 else none)
    (fun payload_type => payload_type.as_u8.toUInt32)
    (by intro payload_type; cases payload_type <;> rfl)
    (by
      intro index payload_type h
      split at h
      · next hindex =>
        have hcases : index = 0 ∨ index = 1 ∨ index = 2 ∨ index = 3 ∨ index = 4 := by
          have hnat : index.toNat < 5 := UInt32.lt_iff_toNat_lt.mp hindex
          rcases (by omega : index.toNat = 0 ∨ index.toNat = 1 ∨ index.toNat = 2 ∨
            index.toNat = 3 ∨ index.toNat = 4) with h | h | h | h | h <;>
            simp [← UInt32.toNat_inj, h]
        rcases hcases with rfl | rfl | rfl | rfl | rfl <;> cases h <;> rfl
      · cases h)

def GossipEnvelope.codec : Codec GossipEnvelope :=
  (u8.pair ((array 32).pair (string.pair (bytes.pair (PayloadType.codec.pair (bytes.pair
    (bytes.pair (u64.pair u8)))))))).record
    (fun (version, message_id, sender_node_id, sender_public_key, payload_type, payload,
      signature, timestamp_unix_ms, ttl) =>
      { version, message_id, sender_node_id, sender_public_key, payload_type, payload,
        signature, timestamp_unix_ms, ttl })
    (fun env => (env.version, env.message_id, env.sender_node_id, env.sender_public_key,
      env.payload_type, env.payload, env.signature, env.timestamp_unix_ms, env.ttl))
    (fun _ => rfl) (fun _ => rfl)

def HandshakeProbe.codec : Codec HandshakeProbe :=
  (bytes.pair (u8.pair ((array 32).pair (string.pair (string.pair u64))))).record
    (fun (magic, version, client_nonce, endpoint, client_node_id, timestamp_unix_ms) =>
      { magic, version, client_nonce, endpoint, client_node_id, timestamp_unix_ms })
    (fun probe => (probe.magic, probe.version, probe.client_nonce, probe.endpoint,
      probe.client_node_id, probe.timestamp_unix_ms))
    (fun _ => rfl) (fun _ => rfl)

def HandshakeAck.codec : Codec HandshakeAck :=
  (bytes.pair (u8.pair ((array 32).pair ((array 32).pair (string.pair (bytes.pair
    (string.pair u64))))))).record
    (fun (magic, version, client_nonce, server_nonce, hybrid_kem_public_key_json,
      ml_dsa_65_public_key, server_node_id, timestamp_unix_ms) =>
      { magic, version, client_nonce, server_nonce, hybrid_kem_public_key_json,
        ml_dsa_65_public_key, server_node_id, timestamp_unix_ms })
    (fun ack => (ack.magic, ack.version, ack.client_nonce, ack.server_nonce,
      ack.hybrid_kem_public_key_json, ack.ml_dsa_65_public_key, ack.server_node_id,
      ack.timestamp_unix_ms))
    (fun _ => rfl) (fun _ => rfl)

def HandshakeFinish.codec : Codec HandshakeFinish :=
  (bytes.pair (u8.pair (string.pair (bytes.pair (string.pair u64))))).record
    (fun (magic, version, kem_ciphertext_json, client_ml_dsa_65_public_key, client_node_id,
      timestamp_unix_ms) =>
      { magic, version, kem_ciphertext_json, client_ml_dsa_65_public_key, client_node_id,
        timestamp_unix_ms })
    (fun finish => (finish.magic, finish.version, finish.kem_ciphertext_json,
      finish.client_ml_dsa_65_public_key, finish.client_node_id, finish.timestamp_unix_ms))
    (fun _ => rfl) (fun _ => rfl)

def HandshakeFinishAck.codec : Codec HandshakeFinishAck :=
  (bytes.pair (u8.pair (string.pair ((array 32).pair ((array 32).pair (bytes.pair u64)))))).record
    (fun (magic, version, session_id, transcript_hash, server_mac, transcript_signature,
      timestamp_unix_ms) =>
      { magic, version, session_id, transcript_hash, server_mac, transcript_signature,
        timestamp_unix_ms })
    (fun finish_ack => (finish_ack.magic, finish_ack.version, finish_ack.session_id,
      finish_ack.transcript_hash, finish_ack.server_mac, finish_ack.transcript_signature,
      finish_ack.timestamp_unix_ms))
    (fun _ => rfl) (fun _ => rfl)

/-- Of two texts that differ somewhere, neither continues to the other. -/
theorem not_prefix_append {expected magic rest : Bytes} (h : ¬ expected <+: magic) (h' : ¬ magic <+: expected) :
    expected.isPrefixOf (magic ++ rest) = false := by
  rw [Bool.eq_false_iff, Ne, List.isPrefixOf_iff_prefix]
  rintro ⟨tail, heq⟩
  exact append_ne_append h h' heq

theorem isPrefixOf_append (magic rest : Bytes) : magic.isPrefixOf (magic ++ rest) = true :=
  List.isPrefixOf_iff_prefix.mpr (List.prefix_append magic rest)

/-- The bytes that decide the kind of a handshake message are those of its magic. -/
theorem payload_of_magic (magic : ByteVec) (rest : Bytes) (hmagic : 0 < magic.val.length) :
    (if (bytes.encode magic ++ rest).length > 8 then (bytes.encode magic ++ rest).drop 8
      else bytes.encode magic ++ rest) = magic.val ++ rest := by
  have hlength : (bytes.encode magic ++ rest).length > 8 := by
    rw [bytes_encode, List.length_append, List.length_append, u64_encode_length]
    omega
  rw [if_pos hlength, bytes_encode, List.append_assoc]
  exact List.drop_left' (u64_encode_length _)

/-! The order in which the magics are tried does not matter: none continues another. -/

theorem classify_incoming_probe_magic (rest : Bytes) :
    classify_incoming (bytes.encode HANDSHAKE_PROBE_MAGIC ++ rest) = .HandshakeProbe := by
  unfold classify_incoming
  dsimp only
  rw [payload_of_magic _ _ (by decide), not_prefix_append (by decide) (by decide),
    not_prefix_append (by decide) (by decide), not_prefix_append (by decide) (by decide), isPrefixOf_append]
  rfl

theorem classify_incoming_ack_magic (rest : Bytes) :
    classify_incoming (bytes.encode HANDSHAKE_ACK_MAGIC ++ rest) = .HandshakeAck := by
  unfold classify_incoming
  dsimp only
  rw [payload_of_magic _ _ (by decide), not_prefix_append (by decide) (by decide),
    not_prefix_append (by decide) (by decide), isPrefixOf_append]
  rfl

theorem classify_incoming_finish_magic (rest : Bytes) :
    classify_incoming (bytes.encode HANDSHAKE_FINISH_MAGIC ++ rest) = .HandshakeFinish := by
  unfold classify_incoming
  dsimp only
  rw [payload_of_magic _ _ (by decide), not_prefix_append (by decide) (by decide), isPrefixOf_append]
  rfl

theorem classify_incoming_finish_ack_magic (rest : Bytes) :
    classify_incoming (bytes.encode HANDSHAKE_FINISH_ACK_MAGIC ++ rest) = .HandshakeFinishAck := by
  unfold classify_incoming
  dsimp only
  rw [payload_of_magic _ _ (by decide), isPrefixOf_append]
  rfl

theorem classify_incoming_of_probe {bytes : Bytes} {probe : HandshakeProbe}
    (hdecode : HandshakeProbe.codec.decodePrefix bytes = some probe) (hmagic : probe.magic = HANDSHAKE_PROBE_MAGIC) :
    classify_incoming bytes = .HandshakeProbe := by
  obtain ⟨rest, rfl⟩ := Codec.append_of_decodePrefix_record hdecode
  rw [hmagic]
  exact classify_incoming_probe_magic rest

theorem classify_incoming_of_ack {bytes : Bytes} {ack : HandshakeAck}
    (hdecode : HandshakeAck.codec.decodePrefix bytes = some ack) (hmagic : ack.magic = HANDSHAKE_ACK_MAGIC) :
    classify_incoming bytes = .HandshakeAck := by
  obtain ⟨rest, rfl⟩ := Codec.append_of_decodePrefix_record hdecode
  rw [hmagic]
  exact classify_incoming_ack_magic rest

theorem classify_incoming_of_finish {bytes : Bytes} {finish : HandshakeFinish}
    (hdecode : HandshakeFinish.codec.decodePrefix bytes = some finish)
    (hmagic : finish.magic = HANDSHAKE_FINISH_MAGIC) : classify_incoming bytes = .HandshakeFinish := by
  obtain ⟨rest, rfl⟩ := Codec.append_of_decodePrefix_record hdecode
  rw [hmagic]
  exact classify_incoming_finish_magic rest

theorem classify_incoming_of_finish_ack {bytes : Bytes} {finish_ack : HandshakeFinishAck}
    (hdecode : HandshakeFinishAck.codec.decodePrefix bytes = some finish_ack)
    (hmagic : finish_ack.magic = HANDSHAKE_FINISH_ACK_MAGIC) : classify_incoming bytes = .HandshakeFinishAck := by
  obtain ⟨rest, rfl⟩ := Codec.append_of_decodePrefix_record hdecode
  rw [hmagic]
  exact classify_incoming_finish_ack_magic rest

theorem classify_incoming_probe (probe : HandshakeProbe) (hmagic : probe.magic = HANDSHAKE_PROBE_MAGIC) :
    classify_incoming (HandshakeProbe.codec.encode probe) = .HandshakeProbe :=
  classify_incoming_of_probe (HandshakeProbe.codec.decodePrefix_encode_nil probe) hmagic

theorem classify_incoming_ack (ack : HandshakeAck) (hmagic : ack.magic = HANDSHAKE_ACK_MAGIC) :
    classify_incoming (HandshakeAck.codec.encode ack) = .HandshakeAck :=
  classify_incoming_of_ack (HandshakeAck.codec.decodePrefix_encode_nil ack) hmagic

theorem classify_incoming_finish_append (finish : HandshakeFinish) (hmagic : finish.magic = HANDSHAKE_FINISH_MAGIC)
    (trailing : Bytes) : classify_incoming (HandshakeFinish.codec.encode finish ++ trailing) = .HandshakeFinish :=
  classify_incoming_of_finish (HandshakeFinish.codec.decodePrefix_encode finish trailing) hmagic

theorem classify_incoming_finish (finish : HandshakeFinish) (hmagic : finish.magic = HANDSHAKE_FINISH_MAGIC) :
    classify_incoming (HandshakeFinish.codec.encode finish) = .HandshakeFinish :=
  classify_incoming_of_finish (HandshakeFinish.codec.decodePrefix_encode_nil finish) hmagic

theorem classify_incoming_finish_ack (finish_ack : HandshakeFinishAck)
    (hmagic : finish_ack.magic = HANDSHAKE_FINISH_ACK_MAGIC) :
    classify_incoming (HandshakeFinishAck.codec.encode finish_ack) = .HandshakeFinishAck :=
  classify_incoming_of_finish_ack (HandshakeFinishAck.codec.decodePrefix_encode_nil finish_ack) hmagic

end witan.types
