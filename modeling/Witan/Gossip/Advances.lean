import Witan.Gossip.Exchange

open bincode fallible maps
open witan.types witan.error witan.identity witan.session witan.handshake

namespace witan.gossip

variable {crates : Crates}

namespace Exchange

section Steps

variable {addr_b addr_a identity_a identity_b} {x : Exchange crates}

theorem SameKeys.of_eq {first second : NodeIdentity crates} (h : first = second) : SameKeys first second :=
  ⟨congrArg NodeIdentity.kem_keypair h, congrArg NodeIdentity.sig_keypair h⟩

theorem Consistent.resumes (h : x.Consistent addr_b addr_a identity_a identity_b) :
    x.Resumes addr_b addr_a identity_a identity_b :=
  ⟨fun _ => .of_eq h.is_b, h.stage⟩

/-- The stage stays what it is while the sessions and the contexts of the exchange
    do. -/
theorem AtStage.of_kept {a b : GossipEngine crates} (h : x.AtStage addr_b addr_a identity_a identity_b)
    (hsession_a : a.sessions.get addr_b = x.a.sessions.get addr_b)
    (hsession_b : b.sessions.get addr_a = x.b.sessions.get addr_a)
    (hclient : x.stage.ClientWaits → a.handshakes.pending[addr_b]? = x.a.handshakes.pending[addr_b]?)
    (hserver : x.stage.ServerWaits → b.handshakes.pending[addr_a]? = x.b.handshakes.pending[addr_a]?) :
    AtStage addr_b addr_a identity_a identity_b { x with a, b } := by
  obtain ⟨a₀, b₀, stage⟩ := x
  have hawaits {sent : FinishSent} (hcontext : a.handshakes.pending[addr_b]? = a₀.handshakes.pending[addr_b]?)
      (hbefore : AwaitsFinishAck addr_b identity_b a₀ sent) : AwaitsFinishAck addr_b identity_b a sent :=
    { hbefore with client := hcontext.trans hbefore.client }
  cases stage with
  | start => exact hsession_a.trans h
  | probe message =>
    obtain ⟨nonce, hprobe⟩ := h
    exact ⟨nonce, { hprobe with client := (hclient trivial).trans hprobe.client }⟩
  | ack message =>
    obtain ⟨sent, served, kem_pk_json, hack⟩ := h
    exact ⟨sent, served, kem_pk_json, { hack with
      client := (hclient trivial).trans hack.client
      server := (hserver trivial).trans hack.server }⟩
  | finish message =>
    obtain ⟨sent, served, ciphertext_json, exchange, hfinish⟩ := h
    exact ⟨sent, served, ciphertext_json, exchange, { hfinish with
      awaits := hawaits (hclient trivial) hfinish.awaits
      server := (hserver trivial).trans hfinish.server }⟩
  | finishAck message =>
    obtain ⟨sent, session, signature, hfinishAck⟩ := h
    exact ⟨sent, session, signature, { hfinishAck with
      awaits := hawaits (hclient trivial) hfinishAck.awaits
      at_b := hsession_b.trans hfinishAck.at_b }⟩
  | done =>
    obtain ⟨session_a, session_b, hagreed⟩ := h
    exact ⟨session_a, session_b, { hagreed with
      at_a := hsession_a.trans hagreed.at_a
      at_b := hsession_b.trans hagreed.at_b }⟩

theorem SameKeys.trans {first second third : NodeIdentity crates} (h : SameKeys first second)
    (h' : SameKeys second third) : SameKeys first third :=
  ⟨h.kem_keypair.trans h'.kem_keypair, h.sig_keypair.trans h'.sig_keypair⟩

/-- Work elsewhere and rotations do not disturb the exchange, as long as the server
    keeps the keys that it still needs. -/
theorem Resumes.of_kept {a b : GossipEngine crates} (h : x.Resumes addr_b addr_a identity_a identity_b)
    (hsession_a : a.sessions.get addr_b = x.a.sessions.get addr_b)
    (hsession_b : b.sessions.get addr_a = x.b.sessions.get addr_a)
    (hclient : x.stage.ClientWaits → a.handshakes.pending[addr_b]? = x.a.handshakes.pending[addr_b]?)
    (hserver : x.stage.ServerWaits → b.handshakes.pending[addr_a]? = x.b.handshakes.pending[addr_a]?)
    (hkeys : x.stage.ServerWaits → SameKeys b.identity x.b.identity) :
    Resumes addr_b addr_a identity_a identity_b { x with a, b } :=
  ⟨fun hwaits => (hkeys hwaits).trans (h.keys hwaits), h.stage.of_kept hsession_a hsession_b hclient hserver⟩

/-- Work elsewhere does not disturb the exchange. -/
theorem Consistent.of_untouched {a b : GossipEngine crates}
    (h : x.Consistent addr_b addr_a identity_a identity_b)
    (ha : Untouched addr_b x.stage.ClientWaits x.a a) (hb : Untouched addr_a x.stage.ServerWaits x.b b) :
    Consistent addr_b addr_a identity_a identity_b { x with a, b } :=
  ⟨ha.identity.trans h.is_a, hb.identity.trans h.is_b,
    h.stage.of_kept ha.session hb.session ha.context hb.context⟩

variable (addr_b addr_a identity_a identity_b x) in
/-- The move succeeds and takes the exchange on by the given number of steps. -/
def Advances (move : Move crates) (steps : Nat) : Prop :=
  ∃ y, x.step addr_b addr_a move = some y ∧ y.Consistent addr_b addr_a identity_a identity_b ∧
    y.stage.taken = x.stage.taken + steps

section Kinds

variable {message : InFlight}

theorem ProbeStage.kind {nonce : Bytes32} (h : x.ProbeStage addr_b identity_a message nonce) :
    classify_incoming message.bytes = .HandshakeProbe := by
  rw [h.bytes]
  exact classify_incoming_probe _ rfl

theorem AckStage.kind {sent : ProbeSent} {served : AckSent} {kem_pk_json : Str}
    (h : x.AckStage addr_b addr_a identity_b message sent served kem_pk_json) :
    classify_incoming message.bytes = .HandshakeAck := by
  rw [h.bytes]
  exact classify_incoming_ack _ rfl

theorem FinishStage.kind {sent : FinishSent} {served : AckSent} {ciphertext_json : Str}
    {exchange : Decapsulation crates identity_b.kem_keypair ciphertext_json}
    (h : x.FinishStage addr_b addr_a identity_a identity_b message sent served ciphertext_json exchange) :
    classify_incoming message.bytes = .HandshakeFinish := by
  rw [h.bytes]
  exact classify_incoming_finish _ rfl

theorem FinishAckStage.kind {sent : FinishSent} {session : SessionRecord} {signature : ByteVec}
    (h : x.FinishAckStage addr_b addr_a identity_a identity_b message sent session signature) :
    classify_incoming message.bytes = .HandshakeFinishAck := by
  rw [h.bytes]
  exact classify_incoming_finish_ack _ rfl

end Kinds

/-- Without a session for the peer, connecting works. -/
theorem connect_start (client_nonce : Bytes32) (now_ms : UInt64) (hsession : x.a.sessions.get addr_b = none) :
    ∃ probe_bytes a, GossipEngine.connect_peer addr_b (.ok client_nonce) now_ms x.a = .ok probe_bytes a ∧
      a.identity = x.a.identity ∧
      ProbeStage addr_b x.a.identity ⟨a, x.b, .probe ⟨probe_bytes, now_ms⟩⟩ ⟨probe_bytes, now_ms⟩ client_nonce := by
  have hrun := connect_peer_eq_ok hsession (HandshakeManager.build_probe_eq_ok_iff.mpr
    ⟨client_nonce, rfl, rfl, rfl⟩ : HandshakeManager.build_probe addr_b x.a.identity (.ok client_nonce) now_ms
      x.a.handshakes = _)
  exact ⟨_, _, hrun, rfl, rfl, HandshakeManager.pending_setPending_self _ _⟩

/-- Where connecting works, the exchange can go on with the probe. -/
theorem connect_resumes {a a' b : GossipEngine crates} {client_nonce : Bytes32} {now_ms : UInt64} {probe_bytes : Bytes}
    (h : GossipEngine.connect_peer addr_b (.ok client_nonce) now_ms a = .ok probe_bytes a') :
    Resumes addr_b addr_a a.identity b.identity ⟨a', b, .probe ⟨probe_bytes, now_ms⟩⟩ := by
  obtain ⟨probe_bytes', a'', hrun, _, hprobe⟩ :=
    connect_start (x := ⟨a, b, .start⟩) client_nonce now_ms (connect_peer_new h)
  obtain ⟨rfl, rfl⟩ : probe_bytes' = probe_bytes ∧ a'' = a' := by
    rw [h] at hrun
    cases hrun
    exact ⟨rfl, rfl⟩
  exact ⟨False.elim, client_nonce, hprobe⟩

theorem Consistent.connect (client_nonce : Bytes32) (now_ms : UInt64)
    (h : x.Consistent addr_b addr_a identity_a identity_b) (hstage : x.stage = .start) :
    x.Advances addr_b addr_a identity_a identity_b (.connect client_nonce now_ms) 1 := by
  obtain ⟨a, b, _⟩ := x
  subst hstage
  obtain ⟨rfl, rfl, hsession⟩ := h
  obtain ⟨probe_bytes, a', hrun, hidentity, hprobe⟩ :=
    connect_start (x := ⟨a, b, .start⟩) client_nonce now_ms hsession
  unfold Advances step
  simp only [hrun]
  exact ⟨_, rfl, ⟨hidentity, rfl, client_nonce, hprobe.bytes, hprobe.client⟩, rfl⟩

variable (addr_a) in
/-- A fresh probe is answered, whatever context the server had for the client. -/
theorem ProbeStage.answered (hjson : crates.KemRoundTrip) {message : InFlight} {client_nonce : Bytes32}
    (h : x.ProbeStage addr_b identity_a message client_nonce) (nonce : Bytes32) (rng : crates.OsRng) {now_ms : UInt64}
    (hfresh : now_ms.toNat - message.sent_at_ms.toNat ≤ 30000) :
    ∃ ack_bytes b sent served kem_pk_json,
      GossipEngine.process_handshake_bytes addr_a message.bytes (.ok nonce) rng now_ms x.b = .ok (some ack_bytes) b ∧
        b.identity = x.b.identity ∧
        AckStage addr_b addr_a x.b.identity ⟨x.a, b, .ack ⟨ack_bytes, now_ms⟩⟩ ⟨ack_bytes, now_ms⟩ sent served
          kem_pk_json := by
  obtain ⟨kem_pk_json, hto_json, _⟩ := hjson.public_key (crates.kem_public_key x.b.identity.kem_keypair)
  have hdecode : HandshakeProbe.codec.decodePrefix message.bytes =
      some (probeMessage identity_a addr_b client_nonce message.sent_at_ms) := by
    rw [h.bytes]
    exact HandshakeProbe.codec.decodePrefix_encode_nil _
  have hrun := process_probe_eq_ok rng h.kind (HandshakeManager.process_probe_build_ack_eq_ok_iff.mpr
    ⟨_, nonce, kem_pk_json, hdecode, ⟨rfl, rfl, hfresh⟩, rfl, hto_json, rfl, rfl⟩ :
      HandshakeManager.process_probe_build_ack addr_a message.bytes x.b.identity (.ok nonce) now_ms
        x.b.handshakes = _)
  exact ⟨_, _, ⟨client_nonce, message.bytes, message.sent_at_ms⟩, ⟨client_nonce, nonce, message.bytes, _, now_ms⟩,
    kem_pk_json, hrun, rfl, hto_json, rfl, h.client, HandshakeManager.pending_setPending_self _ _, rfl, rfl⟩

/-- A fresh ack is answered: it echoes the nonce of the client's context. -/
theorem AckStage.answered (hlengths : crates.KeyLengths) (hkem : crates.KemCorrect) (hjson : crates.KemRoundTrip)
    {message : InFlight} {probe : ProbeSent} {served : AckSent} {kem_pk_json : Str}
    (h : x.AckStage addr_b addr_a identity_b message probe served kem_pk_json) (nonce : Bytes32) (rng : crates.OsRng)
    {now_ms : UInt64} (hfresh : now_ms.toNat - message.sent_at_ms.toNat ≤ 30000) :
    ∃ finish_bytes a sent ciphertext_json exchange,
      GossipEngine.process_handshake_bytes addr_b message.bytes (.ok nonce) rng now_ms x.a = .ok (some finish_bytes) a ∧
        a.identity = x.a.identity ∧
        FinishStage addr_b addr_a x.a.identity identity_b ⟨a, x.b, .finish ⟨finish_bytes, now_ms⟩⟩
          ⟨finish_bytes, now_ms⟩ sent served ciphertext_json exchange := by
  obtain ⟨client, server, hsecret⟩ := key_exchange hkem hjson rng h.json
  have hdecode : HandshakeAck.codec.decodePrefix message.bytes = some
      (ackMessage identity_b probe.client_nonce served.server_nonce kem_pk_json message.sent_at_ms) := by
    rw [h.bytes]
    exact HandshakeAck.codec.decodePrefix_encode_nil _
  have hrun := process_ack_eq_ok (.ok nonce) rng h.kind
    (HandshakeManager.process_ack_build_finish_eq_ok_iff.mpr
    ⟨_, probe, client, hdecode, ⟨rfl, rfl, hfresh⟩, hlengths.sig _, h.client, rfl, rfl, rfl⟩ :
      HandshakeManager.process_ack_build_finish addr_b message.bytes x.a.identity rng now_ms x.a.handshakes = _)
  exact ⟨_, _, _, client.json, server, hrun, rfl, ⟨HandshakeManager.pending_setPending_self _ _, rfl, rfl⟩, rfl,
    h.server, hsecret, h.probe_bytes, h.ack_bytes, rfl⟩

/-- A fresh finish whose ciphertext the server can open is answered, and the server
    has a session for the client. The answer is made with the keys that the server
    has by then. -/
theorem FinishStage.completes (hlengths : crates.KeyLengths) (hsignature : crates.SignatureCorrect)
    {message : InFlight} {sent : FinishSent} {served : AckSent} {ciphertext_json : Str}
    {exchange : Decapsulation crates identity_b.kem_keypair ciphertext_json}
    (h : x.FinishStage addr_b addr_a identity_a identity_b message sent served ciphertext_json exchange)
    (opened : Decapsulation crates x.b.identity.kem_keypair ciphertext_json) (nonce : Bytes32) (rng : crates.OsRng)
    {now_ms : UInt64} (hfresh : now_ms.toNat - message.sent_at_ms.toNat ≤ 30000) :
    ∃ finish_ack_bytes b session signature,
      GossipEngine.process_handshake_bytes addr_a message.bytes (.ok nonce) rng now_ms x.b =
          .ok (some finish_ack_bytes) b ∧
        finish_ack_bytes = HandshakeFinishAck.codec.encode (finishAckMessage session.session_id
          (sent.transcriptHash crates)
          (compute_server_mac crates opened.secret_32b (sent.transcriptHash crates)) signature now_ms) ∧
        crates.sig_verify x.b.identity.sig_public_key_bytes
          (tagged SIG_CTX_HANDSHAKE (sent.transcriptHash crates).val) signature = .ok () ∧
        b.identity = x.b.identity ∧ b.sessions.get addr_a = some session ∧
        session.transcript_hash = sent.transcriptHash crates ∧
        session.peer_node_id = identity_a.node_id ∧ session.peer_sig_public_key = identity_a.sig_public_key_bytes := by
  have hdecode : HandshakeFinish.codec.decodePrefix message.bytes =
      some (finishMessage identity_a ciphertext_json message.sent_at_ms) := by
    rw [h.bytes]
    exact HandshakeFinish.codec.decodePrefix_encode_nil _
  have hhash : served.transcriptHash crates message.bytes = sent.transcriptHash crates := by
    unfold AckSent.transcriptHash FinishSent.transcriptHash
    rw [h.probe_bytes, h.ack_bytes, h.finish_bytes]
  obtain ⟨signature, hsign, hverify⟩ := x.b.identity.sign_verifies hsignature (sent.transcriptHash crates).val
    SIG_CTX_HANDSHAKE (by decide)
  have hrun := process_finish_eq_ok (.ok nonce) rng h.kind
    (HandshakeManager.process_finish_build_finish_ack_eq_ok_iff.mpr
    ⟨_, served, opened, signature, hdecode, ⟨rfl, rfl, hfresh⟩, hlengths.sig _, h.server, hhash.symm ▸ hsign, rfl, rfl,
      rfl⟩ : HandshakeManager.process_finish_build_finish_ack addr_a message.bytes x.b.identity now_ms
        x.b.handshakes = _)
  rw [hhash] at hrun
  exact ⟨_, _, ⟨served.sessionId opened x.b.identity.node_id, addr_a, identity_a.node_id,
    identity_a.sig_public_key_bytes, sent.transcriptHash crates, now_ms, true⟩, signature, hrun, rfl,
    (NodeIdentity.verify_external_eq_true_iff.mp hverify).2, (complete_handshake_keeps _ _ _).1,
    complete_handshake_get rfl, rfl, rfl, rfl⟩

/-- A server that kept the keys of its ack answers with a finish-ack for the client. -/
theorem FinishStage.answered (hlengths : crates.KeyLengths) (hsignature : crates.SignatureCorrect)
    {message : InFlight} {sent : FinishSent} {served : AckSent} {ciphertext_json : Str}
    {exchange : Decapsulation crates identity_b.kem_keypair ciphertext_json}
    (h : x.FinishStage addr_b addr_a identity_a identity_b message sent served ciphertext_json exchange)
    (hkeys : SameKeys x.b.identity identity_b) (nonce : Bytes32) (rng : crates.OsRng) {now_ms : UInt64}
    (hfresh : now_ms.toNat - message.sent_at_ms.toNat ≤ 30000) :
    ∃ finish_ack_bytes b session signature,
      GossipEngine.process_handshake_bytes addr_a message.bytes (.ok nonce) rng now_ms x.b =
          .ok (some finish_ack_bytes) b ∧
        b.identity = x.b.identity ∧
        FinishAckStage addr_b addr_a identity_a identity_b ⟨x.a, b, .finishAck ⟨finish_ack_bytes, now_ms⟩⟩
          ⟨finish_ack_bytes, now_ms⟩ sent session signature := by
  obtain ⟨node_id, kem_keypair, sig_keypair, key_epoch⟩ := identity_b
  obtain ⟨hkem, hsig⟩ := hkeys
  dsimp only at hkem hsig
  subst hkem hsig
  obtain ⟨finish_ack_bytes, b, session, signature, hrun, hbytes, hverify, hidentity, hsession, hhash, hid, hkey⟩ :=
    h.completes hlengths hsignature exchange nonce rng hfresh
  refine ⟨finish_ack_bytes, b, session, signature, hrun, hidentity, h.awaits, ?_, hverify, hsession, hhash, hid, hkey⟩
  rw [hbytes, h.secret]

/-- A fresh finish-ack is accepted, and the client has a session for the server. -/
theorem FinishAckStage.accepted {message : InFlight} {sent : FinishSent} {session : SessionRecord}
    {signature : ByteVec} (h : x.FinishAckStage addr_b addr_a identity_a identity_b message sent session signature)
    (nonce : Bytes32) (rng : crates.OsRng) {now_ms : UInt64}
    (hfresh : now_ms.toNat - message.sent_at_ms.toNat ≤ 30000) :
    ∃ a session_a,
      GossipEngine.process_handshake_bytes addr_b message.bytes (.ok nonce) rng now_ms x.a = .ok none a ∧
        a.identity = x.a.identity ∧ Agreed addr_b addr_a identity_a identity_b ⟨a, x.b, .done⟩ session_a session := by
  have hdecode : HandshakeFinishAck.codec.decodePrefix message.bytes = some (finishAckMessage session.session_id
      (sent.transcriptHash crates)
      (compute_server_mac crates sent.shared_secret_32b (sent.transcriptHash crates)) signature
      message.sent_at_ms) := by
    rw [h.bytes]
    exact HandshakeFinishAck.codec.decodePrefix_encode_nil _
  have hverifies := h.verifies
  rw [← h.awaits.server_sig_pk] at hverifies
  have hrun := process_finish_ack_eq_ok (.ok nonce) rng h.kind (HandshakeManager.process_finish_ack_eq_ok_iff.mpr
    ⟨_, sent, hdecode, ⟨rfl, rfl, hfresh⟩, h.awaits.client, rfl, rfl, hverifies, rfl, rfl⟩ :
      HandshakeManager.process_finish_ack crates addr_b message.bytes now_ms x.a.handshakes = _)
  exact ⟨_, _, hrun, (complete_handshake_keeps _ _ _).1, complete_handshake_get rfl, h.at_b, rfl,
    h.transcript_hash.symm, h.awaits.server_node_id, h.awaits.server_sig_pk, h.names_a, h.key_a⟩

end Steps

end Exchange

end witan.gossip
