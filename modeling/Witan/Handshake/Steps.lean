import Witan.Handshake

open Std (ExtHashMap)
open bincode fallible maps
open witan.types witan.error witan.identity witan.session

namespace witan.handshake

variable {crates : Crates}

theorem deserialize_eq_ok_iff {α : Type} {codec : Codec α} {type_name name : String} {bytes : Bytes} {value : α} :
    deserialize crates codec type_name name bytes = .ok value ↔ codec.decodePrefix bytes = some value :=
  orFail_eq_ok_iff

theorem check_header_eq_ok_iff {name : String} {magic expected : ByteVec} {version : UInt8}
    {timestamp_unix_ms now_ms : UInt64} {value : Unit} :
    check_header name magic expected version timestamp_unix_ms now_ms = .ok value ↔
      magic = expected ∧ version = 1 ∧ now_ms.toNat - timestamp_unix_ms.toNat ≤ 30000 := by
  simp [check_header, except_bind_eq_ok_iff, failIf_eq_ok_iff]

theorem check_sig_pk_size_eq_ok_iff {name : String} {sig_pk : ByteVec} {value : Unit} :
    check_sig_pk_size name sig_pk = .ok value ↔ sig_pk.val.length = 1952 := by
  simp [check_sig_pk_size, failIf_eq_ok_iff]

theorem probeSent?_eq_some_iff {context : Option HandshakeContext} {sent : ProbeSent} :
    (context.bind fun context => context.probeSent?) = some sent ↔
      context = some (.Client (.ProbeSent sent)) := by
  rcases context with _ | (_ | _ | _ | _ | _) | _ <;> simp [HandshakeContext.probeSent?]

theorem finishSent?_eq_some_iff {context : Option HandshakeContext} {sent : FinishSent} :
    (context.bind fun context => context.finishSent?) = some sent ↔
      context = some (.Client (.FinishSent sent)) := by
  rcases context with _ | (_ | _ | _ | _ | _) | _ <;> simp [HandshakeContext.finishSent?]

theorem ackSent?_eq_some_iff {context : Option HandshakeContext} {sent : AckSent} :
    (context.bind fun context => context.ackSent?) = some sent ↔
      context = some (.Server (.AckSent sent)) := by
  rcases context with _ | _ | (_ | _ | _ | _) <;> simp [HandshakeContext.ackSent?]

/-- The accumulated difference is zero only if every pair agrees. -/
theorem foldl_diff_eq_zero_iff (pairs : List (UInt8 × UInt8)) (diff : UInt8) :
    pairs.foldl (fun diff (x, y) => diff ||| (x ^^^ y)) diff = 0 ↔ diff = 0 ∧ ∀ p ∈ pairs, p.1 = p.2 := by
  induction pairs generalizing diff with
  | nil => simp
  | cons p pairs ih =>
    obtain ⟨x, y⟩ := p
    rw [List.foldl_cons, ih, UInt8.or_eq_zero_iff, UInt8.xor_eq_zero_iff]
    simp [and_assoc]

theorem constant_time_eq_iff {a b : Bytes} : constant_time_eq a b = true ↔ a = b := by
  unfold constant_time_eq
  by_cases hlength : a.length = b.length
  · rw [if_neg (not_not.mpr hlength), beq_iff_eq, foldl_diff_eq_zero_iff]
    constructor
    · rintro ⟨_, hpairs⟩
      refine List.ext_getElem hlength fun i ha hb => ?_
      have hmem : (a[i], b[i]) ∈ a.zip b := List.mem_iff_getElem.mpr ⟨i, by simp [ha, hb], by simp⟩
      exact hpairs _ hmem
    · rintro rfl
      refine ⟨rfl, fun p hp => ?_⟩
      obtain ⟨i, hi, rfl⟩ := List.mem_iff_getElem.mp hp
      simp
  · rw [if_pos hlength]
    simp only [Bool.false_eq_true, false_iff]
    rintro rfl
    exact hlength rfl

/-- A key exchange as the client runs it: the key it read, what it encapsulated
    to that key, and the encodings of the ciphertext. -/
structure Encapsulation (crates : Crates) (rng : crates.OsRng) (kem_pk_json : Str) where
  key : crates.HybridPublicKey
  ciphertext : crates.HybridKemCiphertext
  secret : crates.SharedSecret
  secret_32b : Bytes32
  json : Str
  bytes : Bytes
  from_json : crates.public_key_from_json kem_pk_json = .ok key
  encapsulate : crates.encapsulate_to rng key = .ok (ciphertext, secret)
  as_32_bytes : crates.as_32_bytes secret = .ok secret_32b
  to_json : crates.ciphertext_to_json ciphertext = .ok json
  serialize : crates.ciphertext_serialize ciphertext = .ok bytes

/-- The key exchange as the server completes it. -/
structure Decapsulation (crates : Crates) (keypair : crates.HybridKemKeypair) (ciphertext_json : Str) where
  ciphertext : crates.HybridKemCiphertext
  secret : crates.SharedSecret
  secret_32b : Bytes32
  bytes : Bytes
  from_json : crates.ciphertext_from_json ciphertext_json = .ok ciphertext
  decapsulate : crates.decapsulate keypair ciphertext = .ok secret
  as_32_bytes : crates.as_32_bytes secret = .ok secret_32b
  serialize : crates.ciphertext_serialize ciphertext = .ok bytes

/-- A client that encapsulates to a server's key shares a secret with the server. -/
theorem key_exchange (hkem : crates.KemCorrect) (hjson : crates.KemRoundTrip)
    {keypair : crates.HybridKemKeypair} {kem_pk_json : Str} (rng : crates.OsRng)
    (hto_json : crates.public_key_to_json (crates.kem_public_key keypair) = .ok kem_pk_json) :
    ∃ (client : Encapsulation crates rng kem_pk_json) (server : Decapsulation crates keypair client.json),
      server.secret_32b = client.secret_32b := by
  obtain ⟨json, hto_json', hfrom_json⟩ := hjson.public_key (crates.kem_public_key keypair)
  obtain rfl : kem_pk_json = json := by
    rw [hto_json] at hto_json'
    exact Except.ok.inj hto_json'
  obtain ⟨ciphertext, secret, secret_32b, hencapsulate, hdecapsulate, hsecret⟩ := hkem.encapsulate keypair rng
  obtain ⟨ciphertext_json, bytes, hwrite, hread, hserialize⟩ := hjson.ciphertext ciphertext
  exact ⟨⟨crates.kem_public_key keypair, ciphertext, secret, secret_32b, ciphertext_json, bytes, hfrom_json,
    hencapsulate, hsecret, hwrite, hserialize⟩,
    ⟨ciphertext, secret, secret_32b, bytes, hread, hdecapsulate, hsecret, hserialize⟩, rfl⟩

/-- The client's context after it answered an ack. -/
def finishSent {rng : crates.OsRng} (identity : NodeIdentity crates) (sent : ProbeSent) (ack_bytes : Bytes)
    (ack : HandshakeAck) (exchange : Encapsulation crates rng ack.hybrid_kem_public_key_json)
    (now_ms : UInt64) : FinishSent :=
  { client_nonce := sent.client_nonce
    server_nonce := ack.server_nonce
    kem_ciphertext_bytes := exchange.bytes
    shared_secret_32b := exchange.secret_32b
    probe_bytes := sent.probe_bytes
    ack_bytes
    finish_bytes := HandshakeFinish.codec.encode (finishMessage identity exchange.json now_ms)
    server_sig_pk := ack.ml_dsa_65_public_key
    server_node_id := ack.server_node_id
    sent_at_ms := now_ms }

/-- The session id that the server derives. -/
def AckSent.sessionId {keypair : crates.HybridKemKeypair} {ciphertext_json : Str} (sent : AckSent)
    (exchange : Decapsulation crates keypair ciphertext_json) (node_id : Str) : Str :=
  derive_session_id crates exchange.secret_32b sent.client_nonce sent.server_nonce exchange.bytes node_id

/-- The hash that the server signs. -/
def AckSent.transcriptHash (crates : Crates) (sent : AckSent) (finish_bytes : Bytes) : Bytes32 :=
  compute_transcript_hash crates sent.probe_bytes sent.ack_bytes finish_bytes

/-- The hash that the client expects. -/
def FinishSent.transcriptHash (crates : Crates) (sent : FinishSent) : Bytes32 :=
  compute_transcript_hash crates sent.probe_bytes sent.ack_bytes sent.finish_bytes

namespace HandshakeManager

variable {self after : HandshakeManager} {peer_addr : Str} {identity : NodeIdentity crates} {now_ms : UInt64}

theorem takePending_eq_ok_iff {context : Option HandshakeContext} :
    takePending peer_addr self = .ok context after ↔
      context = self.pending[peer_addr]? ∧ after = self.dropPending peer_addr := by
  unfold takePending
  simp only [get_bind, set_bind, pure_apply, EStateM.Result.ok.injEq]
  constructor
  · rintro ⟨rfl, rfl⟩
    exact ⟨rfl, rfl⟩
  · rintro ⟨rfl, rfl⟩
    exact ⟨rfl, rfl⟩

theorem build_probe_eq_ok_iff {getrandom : Except String Bytes32} {probe_bytes : Bytes} :
    build_probe peer_addr identity getrandom now_ms self = .ok probe_bytes after ↔
      ∃ client_nonce, getrandom = .ok client_nonce ∧
        probe_bytes = HandshakeProbe.codec.encode (probeMessage identity peer_addr client_nonce now_ms) ∧
        after = self.setPending peer_addr (.Client (.ProbeSent ⟨client_nonce, probe_bytes, now_ms⟩)) := by
  unfold build_probe
  simp only [attempt_bind_eq_ok_iff, mapError_eq_ok_iff, modify_bind, pure_apply,
    EStateM.Result.ok.injEq]
  constructor
  · rintro ⟨client_nonce, hrandom, rfl, rfl⟩
    exact ⟨client_nonce, hrandom, rfl, rfl⟩
  · rintro ⟨client_nonce, hrandom, rfl, rfl⟩
    exact ⟨client_nonce, hrandom, rfl, rfl⟩

/-- An answered probe is well-formed and fresh; its context holds all its bytes. -/
theorem process_probe_build_ack_eq_ok_iff {probe_bytes ack_bytes : Bytes} {getrandom : Except String Bytes32} :
    process_probe_build_ack peer_addr probe_bytes identity getrandom now_ms self = .ok ack_bytes after ↔
      ∃ probe server_nonce kem_pk_json, HandshakeProbe.codec.decodePrefix probe_bytes = some probe ∧
        (probe.magic = HANDSHAKE_PROBE_MAGIC ∧ probe.version = 1 ∧
          now_ms.toNat - probe.timestamp_unix_ms.toNat ≤ 30000) ∧
        getrandom = .ok server_nonce ∧
        crates.public_key_to_json (crates.kem_public_key identity.kem_keypair) = .ok kem_pk_json ∧
        ack_bytes = HandshakeAck.codec.encode
          (ackMessage identity probe.client_nonce server_nonce kem_pk_json now_ms) ∧
        after = self.setPending peer_addr (.Server (.AckSent
          ⟨probe.client_nonce, server_nonce, probe_bytes, ack_bytes, now_ms⟩)) := by
  unfold process_probe_build_ack
  simp only [attempt_bind_eq_ok_iff, deserialize_eq_ok_iff, check_header_eq_ok_iff, mapError_eq_ok_iff,
    modify_bind, pure_apply, EStateM.Result.ok.injEq]
  constructor
  · rintro ⟨probe, hdecode, _, hheader, server_nonce, hrandom, kem_pk_json, hjson, rfl, rfl⟩
    exact ⟨probe, server_nonce, kem_pk_json, hdecode, hheader, hrandom, hjson, rfl, rfl⟩
  · rintro ⟨probe, server_nonce, kem_pk_json, hdecode, hheader, hrandom, hjson, rfl, rfl⟩
    exact ⟨probe, hdecode, (), hheader, server_nonce, hrandom, kem_pk_json, hjson, rfl, rfl⟩

/-- An answered ack echoes the nonce of the probe it is for, and the client
    encapsulated to the key it carries. -/
theorem process_ack_build_finish_eq_ok_iff {ack_bytes finish_bytes : Bytes} {rng : crates.OsRng} :
    process_ack_build_finish peer_addr ack_bytes identity rng now_ms self = .ok finish_bytes after ↔
      ∃ (ack : HandshakeAck) (sent : ProbeSent)
        (exchange : Encapsulation crates rng ack.hybrid_kem_public_key_json),
        HandshakeAck.codec.decodePrefix ack_bytes = some ack ∧
        (ack.magic = HANDSHAKE_ACK_MAGIC ∧ ack.version = 1 ∧
          now_ms.toNat - ack.timestamp_unix_ms.toNat ≤ 30000) ∧
        ack.ml_dsa_65_public_key.val.length = 1952 ∧
        self.pending[peer_addr]? = some (.Client (.ProbeSent sent)) ∧ ack.client_nonce = sent.client_nonce ∧
        finish_bytes = HandshakeFinish.codec.encode (finishMessage identity exchange.json now_ms) ∧
        after = self.setPending peer_addr
          (.Client (.FinishSent (finishSent identity sent ack_bytes ack exchange now_ms))) := by
  unfold process_ack_build_finish
  simp only [attempt_bind_eq_ok_iff, deserialize_eq_ok_iff, check_header_eq_ok_iff, check_sig_pk_size_eq_ok_iff,
    get_bind, orFail_eq_ok_iff, probeSent?_eq_some_iff, failIf_eq_ok_iff, not_not, mapError_eq_ok_iff, Prod.exists,
    modify_bind, pure_apply, EStateM.Result.ok.injEq]
  constructor
  · rintro ⟨ack, hdecode, _, hheader, _, hsize, sent, hsent, _, hnonce, key, hkey, ciphertext, secret,
      hencapsulate, secret_32b, hsecret, json, hjson, bytes, hbytes, rfl, rfl⟩
    exact ⟨ack, sent, ⟨key, ciphertext, secret, secret_32b, json, bytes, hkey, hencapsulate, hsecret, hjson,
      hbytes⟩, hdecode, hheader, hsize, hsent, hnonce, rfl, rfl⟩
  · rintro ⟨ack, sent, exchange, hdecode, hheader, hsize, hsent, hnonce, rfl, rfl⟩
    exact ⟨ack, hdecode, (), hheader, (), hsize, sent, hsent, (), hnonce, exchange.key, exchange.from_json,
      exchange.ciphertext, exchange.secret, exchange.encapsulate, exchange.secret_32b, exchange.as_32_bytes,
      exchange.json, exchange.to_json, exchange.bytes, exchange.serialize, rfl, rfl⟩

/-- An answered finish completes the handshake whose context the server holds: the
    context is used up, and the transcript over its bytes is signed. -/
theorem process_finish_build_finish_ack_eq_ok_iff {finish_bytes finish_ack_bytes : Bytes}
    {session : SessionRecord} :
    process_finish_build_finish_ack peer_addr finish_bytes identity now_ms self =
        .ok (finish_ack_bytes, session) after ↔
      ∃ (finish : HandshakeFinish) (sent : AckSent)
        (exchange : Decapsulation crates identity.kem_keypair finish.kem_ciphertext_json)
        (transcript_signature : ByteVec),
        HandshakeFinish.codec.decodePrefix finish_bytes = some finish ∧
        (finish.magic = HANDSHAKE_FINISH_MAGIC ∧ finish.version = 1 ∧
          now_ms.toNat - finish.timestamp_unix_ms.toNat ≤ 30000) ∧
        finish.client_ml_dsa_65_public_key.val.length = 1952 ∧
        self.pending[peer_addr]? = some (.Server (.AckSent sent)) ∧
        identity.sign (sent.transcriptHash crates finish_bytes).val SIG_CTX_HANDSHAKE =
          .ok transcript_signature ∧
        finish_ack_bytes = HandshakeFinishAck.codec.encode (finishAckMessage
          (sent.sessionId exchange identity.node_id) (sent.transcriptHash crates finish_bytes)
          (compute_server_mac crates exchange.secret_32b (sent.transcriptHash crates finish_bytes))
          transcript_signature now_ms) ∧
        session = ⟨sent.sessionId exchange identity.node_id, peer_addr, finish.client_node_id,
          finish.client_ml_dsa_65_public_key, sent.transcriptHash crates finish_bytes, now_ms, true⟩ ∧
        after = self.dropPending peer_addr := by
  unfold process_finish_build_finish_ack
  simp only [attempt_bind_eq_ok_iff, deserialize_eq_ok_iff, check_header_eq_ok_iff, check_sig_pk_size_eq_ok_iff,
    bind_eq_ok_iff (x := takePending _), takePending_eq_ok_iff, orFail_eq_ok_iff, ackSent?_eq_some_iff,
    mapError_eq_ok_iff, pure_apply, EStateM.Result.ok.injEq, Prod.mk.injEq]
  constructor
  · rintro ⟨finish, hdecode, _, hheader, _, hsize, _, _, ⟨rfl, rfl⟩, sent, hsent, ciphertext, hciphertext,
      secret, hsecret, secret_32b, h32, bytes, hbytes, signature, hsign, ⟨rfl, rfl⟩, rfl⟩
    exact ⟨finish, sent, ⟨ciphertext, secret, secret_32b, bytes, hciphertext, hsecret, h32, hbytes⟩, signature,
      hdecode, hheader, hsize, hsent, hsign, rfl, rfl, rfl⟩
  · rintro ⟨finish, sent, exchange, signature, hdecode, hheader, hsize, hsent, hsign, rfl, rfl, rfl⟩
    exact ⟨finish, hdecode, (), hheader, (), hsize, _, _, ⟨rfl, rfl⟩, sent, hsent, exchange.ciphertext,
      exchange.from_json, exchange.secret, exchange.decapsulate, exchange.secret_32b, exchange.as_32_bytes,
      exchange.bytes, exchange.serialize, signature, hsign, ⟨rfl, rfl⟩, rfl⟩

/-- An accepted finish-ack carries the transcript hash that the client expects,
    the MAC under the client's secret, and a signature by the key of the ack. -/
theorem process_finish_ack_eq_ok_iff {finish_ack_bytes : Bytes} {session : SessionRecord} :
    process_finish_ack crates peer_addr finish_ack_bytes now_ms self = .ok session after ↔
      ∃ (finish_ack : HandshakeFinishAck) (sent : FinishSent),
        HandshakeFinishAck.codec.decodePrefix finish_ack_bytes = some finish_ack ∧
        (finish_ack.magic = HANDSHAKE_FINISH_ACK_MAGIC ∧ finish_ack.version = 1 ∧
          now_ms.toNat - finish_ack.timestamp_unix_ms.toNat ≤ 30000) ∧
        self.pending[peer_addr]? = some (.Client (.FinishSent sent)) ∧
        finish_ack.transcript_hash = sent.transcriptHash crates ∧
        finish_ack.server_mac = compute_server_mac crates sent.shared_secret_32b (sent.transcriptHash crates) ∧
        crates.sig_verify sent.server_sig_pk (tagged SIG_CTX_HANDSHAKE (sent.transcriptHash crates).val)
          finish_ack.transcript_signature = .ok () ∧
        session = ⟨finish_ack.session_id, peer_addr, sent.server_node_id, sent.server_sig_pk,
          sent.transcriptHash crates, now_ms, true⟩ ∧
        after = self.dropPending peer_addr := by
  unfold process_finish_ack
  simp only [attempt_bind_eq_ok_iff, deserialize_eq_ok_iff, check_header_eq_ok_iff,
    bind_eq_ok_iff (x := takePending _), takePending_eq_ok_iff, orFail_eq_ok_iff, finishSent?_eq_some_iff,
    failIf_eq_ok_iff, not_not, Bool.not_eq_false, constant_time_eq_iff, pure_apply, EStateM.Result.ok.injEq]
  constructor
  · rintro ⟨finish_ack, hdecode, _, hheader, _, _, ⟨rfl, rfl⟩, sent, hsent, _, hhash, _, hmac, valid, hverify, _,
      rfl, rfl, rfl⟩
    refine ⟨finish_ack, sent, hdecode, hheader, hsent, hhash, Subtype.ext hmac, ?_, ?_, rfl⟩
    · rw [hhash] at hverify
      exact (NodeIdentity.verify_external_eq_true_iff.mp hverify).2
    · rw [hhash]
      rfl
  · rintro ⟨finish_ack, sent, hdecode, hheader, hsent, hhash, hmac, hverify, rfl, rfl⟩
    refine ⟨finish_ack, hdecode, (), hheader, _, _, ⟨rfl, rfl⟩, sent, hsent, (), hhash, (),
      congrArg Subtype.val hmac, true, ?_, (), rfl, ?_, rfl⟩
    · rw [hhash]
      exact NodeIdentity.verify_external_eq_true_iff.mpr ⟨by decide, hverify⟩
    · rw [hhash]

end HandshakeManager

end witan.handshake
