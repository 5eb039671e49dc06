import Mathlib.Logic.Relation
import Witan.Gossip.Completion
import Witan.Gossip.Runs

open bincode fallible
open witan.types witan.error witan.identity witan.session witan.rotation witan.handshake

namespace witan.gossip

variable {crates : Crates}

/-- A key rotation of an engine. -/
inductive Rotation (crates : Crates) where
  | rotate_keys (key_epoch : Str) (kem_rng sig_rng : crates.OsRng)
  | rotate_keys_under_id (lineage : KeyLineage) (next : NodeIdentity crates)
      (next_key_commitment : Option Bytes32) (now_ms : UInt64)

/-- The engine after a rotation, whether it succeeded or not. -/
def Rotation.run : Rotation crates → GossipEngine crates → GossipEngine crates
  | .rotate_keys key_epoch kem_rng sig_rng, engine =>
    (EngineCall.rotate_keys key_epoch kem_rng sig_rng).run engine
  | .rotate_keys_under_id lineage next next_key_commitment now_ms, engine =>
    (EngineCall.rotate_keys_under_id lineage next next_key_commitment now_ms).run engine

theorem Rotation.run_eq (rotation : Rotation crates) (engine : GossipEngine crates) :
    ∃ identity, rotation.run engine = { engine with identity } := by
  cases rotation with
  | rotate_keys key_epoch kem_rng sig_rng => exact EngineCall.run_rotate_keys key_epoch kem_rng sig_rng engine
  | rotate_keys_under_id lineage next next_key_commitment now_ms =>
    exact EngineCall.run_rotate_keys_under_id lineage next next_key_commitment now_ms engine

/-- What happens next while two engines run a handshake: a move of the exchange, or
    one of them rotates its keys. -/
inductive Turn (crates : Crates) where
  | move (move : Move crates)
  | rotateA (rotation : Rotation crates)
  | rotateB (rotation : Rotation crates)

namespace Exchange

section Definitions

variable (addr_b addr_a : Str)

/-- One turn; `none` if it is a step of the exchange that fails. -/
def turn (x : Exchange crates) : Turn crates → Option (Exchange crates)
  | .move move => x.step addr_b addr_a move
  | .rotateA rotation => some { x with a := rotation.run x.a }
  | .rotateB rotation => some { x with b := rotation.run x.b }

/-- Messages arrive in time; rotations come at any point. -/
def AllowedTurn (x : Exchange crates) : Turn crates → Prop
  | .move move => x.Allowed addr_b addr_a move
  | .rotateA _ => True
  | .rotateB _ => True

/-- The server does not move to other keys between its ack and its finish-ack. -/
def KeepsKeys (x : Exchange crates) : Turn crates → Prop
  | .move _ => True
  | .rotateA _ => True
  | .rotateB rotation => x.stage.ServerWaits → SameKeys (rotation.run x.b).identity x.b.identity

/-- An allowed turn that succeeds. -/
def Takes (x y : Exchange crates) : Prop :=
  ∃ next, x.AllowedTurn addr_b addr_a next ∧ x.turn addr_b addr_a next = some y

/-- Such a turn at which the server keeps the keys that it needs. -/
def TakesKeepingKeys (x y : Exchange crates) : Prop :=
  ∃ next, x.AllowedTurn addr_b addr_a next ∧ x.KeepsKeys next ∧ x.turn addr_b addr_a next = some y

/-- Once the server has completed a session on the finish, its finish-ack makes the
    client complete one too, under the same id and transcript. -/
def CompletesTogether (x : Exchange crates) : Prop :=
  ∀ message, x.stage = .finishAck message → ∀ nonce rng now_ms,
    now_ms.toNat - message.sent_at_ms.toNat ≤ 30000 →
    ∃ y session_a session_b, x.step addr_b addr_a (.deliver nonce rng now_ms) = some y ∧
      y.a.sessions.get addr_b = some session_a ∧ y.b.sessions.get addr_a = some session_b ∧
      session_a.session_id = session_b.session_id ∧ session_a.transcript_hash = session_b.transcript_hash

/-- Either nobody has connected yet, or the exchange can go on. -/
def Underway (x : Exchange crates) : Prop :=
  x.stage = .start ∨ ∃ identity_a identity_b, x.Resumes addr_b addr_a identity_a identity_b

end Definitions

section Turns

variable {addr_b addr_a : Str} {identity_a identity_b : NodeIdentity crates} {x y : Exchange crates}

/-- Connecting, if it succeeds, sends a probe. -/
theorem resumes_of_connect {client_nonce : Bytes32} {now_ms : UInt64}
    (hstep : x.step addr_b addr_a (.connect client_nonce now_ms) = some y) :
    y.Resumes addr_b addr_a x.a.identity x.b.identity := by
  simp only [step] at hstep
  split at hstep
  · next hconnect =>
    cases hstep
    exact connect_resumes hconnect
  · cases hstep

/-- Work elsewhere and rotations keep the exchange going, as long as the server keeps
    the keys that it still needs. -/
theorem Underway.of_kept {a b : GossipEngine crates} (h : x.Underway addr_b addr_a)
    (hsession_a : a.sessions.get addr_b = x.a.sessions.get addr_b)
    (hsession_b : b.sessions.get addr_a = x.b.sessions.get addr_a)
    (hclient : x.stage.ClientWaits → a.handshakes.pending[addr_b]? = x.a.handshakes.pending[addr_b]?)
    (hserver : x.stage.ServerWaits → b.handshakes.pending[addr_a]? = x.b.handshakes.pending[addr_a]?)
    (hkeys : x.stage.ServerWaits → SameKeys b.identity x.b.identity) :
    Underway addr_b addr_a { x with a, b } := by
  rcases h with hstart | ⟨identity_a, identity_b, hresumes⟩
  · exact .inl hstart
  · exact .inr ⟨identity_a, identity_b, hresumes.of_kept hsession_a hsession_b hclient hserver hkeys⟩

section Laws

variable (hsignature : crates.SignatureCorrect) (hlengths : crates.KeyLengths) (hkem : crates.KemCorrect)
  (hjson : crates.KemRoundTrip)

include hsignature hlengths hkem hjson

/-- Every turn at which the server keeps the keys it needs keeps the exchange going. -/
theorem Underway.takes (h : x.Underway addr_b addr_a) (hstep : x.TakesKeepingKeys addr_b addr_a y) :
    y.Underway addr_b addr_a := by
  obtain ⟨next, hallowed, hkeys, hnext⟩ := hstep
  cases next with
  | move move =>
    cases move with
    | atA op =>
      have ha := EngineOp.Spares.untouched hallowed
      cases hnext
      exact h.of_kept ha.session rfl ha.context (fun _ => rfl) fun _ => .of_eq rfl
    | atB op =>
      have hb := EngineOp.Spares.untouched hallowed
      cases hnext
      exact h.of_kept rfl hb.session (fun _ => rfl) hb.context fun _ => .of_eq hb.identity
    | connect client_nonce now_ms => exact .inr ⟨_, _, resumes_of_connect hnext⟩
    | deliver nonce rng now_ms =>
      rcases h with hstart | ⟨identity_a, identity_b, hresumes⟩
      · -- Nothing is on its way at the start.
        obtain ⟨message, hmessage, _⟩ := hallowed
        rw [hstart] at hmessage
        cases hmessage
      · obtain ⟨z, identity_a', identity_b', hdeliver, hz, _⟩ :=
          hresumes.deliver hsignature hlengths hkem hjson hallowed
        obtain rfl : z = y := Option.some.inj (hdeliver.symm.trans hnext)
        exact .inr ⟨identity_a', identity_b', hz⟩
  | rotateA rotation =>
    obtain ⟨identity, hrotation⟩ := rotation.run_eq x.a
    cases hnext
    rw [hrotation]
    exact h.of_kept rfl rfl (fun _ => rfl) (fun _ => rfl) fun _ => .of_eq rfl
  | rotateB rotation =>
    obtain ⟨identity, hrotation⟩ := rotation.run_eq x.b
    cases hnext
    change x.stage.ServerWaits → SameKeys (rotation.run x.b).identity x.b.identity at hkeys
    rw [hrotation] at hkeys ⊢
    exact h.of_kept rfl rfl (fun _ => rfl) (fun _ => rfl) hkeys

omit hsignature hlengths hkem hjson in
theorem Underway.completesTogether (h : x.Underway addr_b addr_a) : x.CompletesTogether addr_b addr_a := by
  intro message hstage nonce rng now_ms hfresh
  rcases h with hstart | ⟨identity_a, identity_b, hresumes⟩
  · rw [hstart] at hstage
    cases hstage
  · obtain ⟨a, b, stage⟩ := x
    subst hstage
    obtain ⟨_, sent, session, signature, hfinishAck⟩ := hresumes
    obtain ⟨a', session_a, hrun, _, hagreed⟩ := hfinishAck.accepted nonce rng hfresh
    refine ⟨⟨a', b, .done⟩, session_a, session, ?_, hagreed.at_a, hagreed.at_b, hagreed.session_id,
      hagreed.transcript_hash⟩
    unfold step
    simp only [hrun]

/-- Rotations do not split a handshake, as long as the server keeps its keys between
    its ack and its finish-ack: in every run in which it does, a server that has
    completed a session brings the client along with its finish-ack. -/
theorem rotations_complete_together {addr_b addr_a : Str} {a b : GossipEngine crates} {x : Exchange crates}
    (hrun : Relation.ReflTransGen (TakesKeepingKeys addr_b addr_a) ⟨a, b, .start⟩ x) :
    x.CompletesTogether addr_b addr_a := by
  have hunderway : x.Underway addr_b addr_a := by
    induction hrun with
    | refl => exact .inl rfl
    | tail _ hstep ih => exact ih.takes hsignature hlengths hkem hjson hstep
  exact hunderway.completesTogether

/-- Deliveries without delay take a running exchange to its finish-ack. -/
theorem Resumes.delivered (nonce : Bytes32) (rng : crates.OsRng) {now_ms : UInt64} {count : Nat}
    (h : x.Resumes addr_b addr_a identity_a identity_b) (hstarted : 1 ≤ x.stage.taken)
    (hcount : x.stage.taken + count = 4)
    (hsent : ∀ message, x.stage.message? = some message → message.sent_at_ms = now_ms) :
    ∃ y message, Relation.ReflTransGen (TakesKeepingKeys addr_b addr_a) x y ∧ y.stage = .finishAck message := by
  induction count generalizing x identity_a identity_b with
  | zero =>
    cases hstage : x.stage with
    | finishAck message => exact ⟨x, message, .refl, hstage⟩
    | _ => simp [hstage, Stage.taken] at hcount
  | succ count ih =>
    have hallowed : x.Allowed addr_b addr_a (.deliver nonce rng now_ms) := by
      cases hstage : x.stage with
      | start => simp [hstage, Stage.taken] at hstarted
      | done =>
        simp only [hstage, Stage.taken] at hcount
        omega
      | _ =>
        rw [hstage] at hsent
        refine ⟨_, congrArg Stage.message? hstage, ?_⟩
        rw [hsent _ rfl]
        omega
    obtain ⟨z, _, _, hdeliver, hz, htaken, _⟩ := h.deliver hsignature hlengths hkem hjson hallowed
    obtain ⟨y, message, hrest, hstage⟩ := ih hz (by omega) (by omega) (step_deliver hdeliver).2
    exact ⟨y, message, .head ⟨.move (.deliver nonce rng now_ms), hallowed, trivial, hdeliver⟩ hrest, hstage⟩

end Laws

end Turns

end Exchange

namespace reference

/-- A rotation to the keys of the draw 3. -/
def rotation : Rotation reference.crates := .rotate_keys reference.firstEpoch (3 : UInt8) (3 : UInt8)

theorem rotation_run (engine : GossipEngine reference.crates) :
    rotation.run engine = { engine with identity := reference.nodeAt 3 reference.firstEpoch } := by
  have hgenerate : NodeIdentity.generate reference.crates reference.firstEpoch (3 : UInt8) (3 : UInt8) =
      .ok (reference.nodeAt 3 reference.firstEpoch) := by
    unfold NodeIdentity.generate
    simp only [except_bind_eq_ok_iff]
    exact ⟨(3 : UInt8), rfl, (3 : UInt8), rfl, reference.of_keypairs_eq 3 reference.firstEpoch⟩
  have hrotate : GossipEngine.rotate_keys reference.firstEpoch (3 : UInt8) (3 : UInt8) engine =
      .ok (reference.nodeAt 3 reference.firstEpoch).node_id
        { engine with identity := reference.nodeAt 3 reference.firstEpoch } :=
    rotate_keys_eq_ok_iff.mpr ⟨_, hgenerate, rfl, rfl⟩
  change final (GossipEngine.rotate_keys reference.firstEpoch (3 : UInt8) (3 : UInt8) engine) = _
  rw [hrotate]
  rfl

/-- The first engine connects to the second one. -/
theorem connects : ∃ (message : InFlight) (a : GossipEngine reference.crates),
    Exchange.step addrOfB addrOfA ⟨engine 1, engine 2, .start⟩ (.connect nonce 0) =
      some ⟨a, engine 2, .probe message⟩ ∧ message.sent_at_ms = 0 ∧
      Exchange.ProbeStage addrOfB (engine 1).identity ⟨a, engine 2, .probe message⟩ message nonce := by
  have hsession : (engine 1).sessions.get addrOfB = none := GossipEngine.sessions_new _ _ _
  obtain ⟨probe_bytes, a, hconnect, _, hprobe⟩ :=
    Exchange.connect_start (x := ⟨engine 1, engine 2, .start⟩) nonce 0 hsession
  refine ⟨⟨probe_bytes, 0⟩, a, ?_, rfl, hprobe⟩
  unfold Exchange.step
  simp only [hconnect]

/-- The client rotates while its probe is on its way. -/
theorem rotating_client_reaches_finishAck :
    ∃ x message, Relation.ReflTransGen (Exchange.TakesKeepingKeys addrOfB addrOfA) ⟨engine 1, engine 2, .start⟩ x ∧
      x.stage = .finishAck message := by
  obtain ⟨probe, a, hconnect, hsent, hprobe⟩ := connects
  have hresumes : Exchange.Resumes addrOfB addrOfA (engine 1).identity (engine 2).identity
      ⟨rotation.run a, engine 2, .probe probe⟩ := by
    rw [rotation_run]
    exact ⟨False.elim, nonce, hprobe.bytes, hprobe.client⟩
  obtain ⟨x, message, hrun, hstage⟩ := hresumes.delivered reference.signatureCorrect reference.keyLengths
    reference.kemCorrect reference.kemRoundTrip nonce (9 : UInt8) (Nat.le_refl 1) (show 1 + 3 = 4 from rfl)
    fun message hmessage => Option.some.inj hmessage ▸ hsent
  refine ⟨x, message, .head ⟨.move (.connect nonce 0), rfl, trivial, hconnect⟩ ?_, hstage⟩
  exact .head ⟨.rotateA rotation, trivial, trivial, rfl⟩ hrun

end reference

theorem Exchange.rotations_complete_together_reference :
    ∃ x message, Relation.ReflTransGen (Exchange.TakesKeepingKeys reference.addrOfB reference.addrOfA)
        ⟨reference.engine 1, reference.engine 2, .start⟩ x ∧ x.stage = .finishAck message ∧
      x.CompletesTogether reference.addrOfB reference.addrOfA := by
  obtain ⟨x, message, hrun, hstage⟩ := reference.rotating_client_reaches_finishAck
  exact ⟨x, message, hrun, hstage, Exchange.rotations_complete_together reference.signatureCorrect
    reference.keyLengths reference.kemCorrect reference.kemRoundTrip hrun⟩

/-- An accepted finish-ack is one that the handshake manager accepted. -/
theorem process_finish_ack_of_ok {engine after : GossipEngine crates} {peer_addr : Str} {bytes : Bytes}
    {getrandom : Except String Bytes32} {rng : crates.OsRng} {now_ms : UInt64} {answer : Option Bytes}
    (hkind : classify_incoming bytes = .HandshakeFinishAck)
    (h : GossipEngine.process_handshake_bytes peer_addr bytes getrandom rng now_ms engine = .ok answer after) :
    ∃ session handshakes, HandshakeManager.process_finish_ack crates peer_addr bytes now_ms engine.handshakes =
      .ok session handshakes := by
  unfold GossipEngine.process_handshake_bytes at h
  simp only [get_bind, hkind] at h
  obtain ⟨session, middle, hrun, _⟩ := bind_eq_ok_iff.mp h
  obtain ⟨handshakes, hmanager, _⟩ := onPart_eq_ok_iff.mp hrun
  exact ⟨session, handshakes, hmanager⟩

namespace reference

/-- Every key opens every ciphertext of the reference crates, to a secret of its own. -/
def reopened {keypair : UInt8} {ciphertext_json : Str}
    (exchange : Decapsulation reference.crates keypair ciphertext_json) (key : UInt8) :
    Decapsulation reference.crates key ciphertext_json where
  ciphertext := exchange.ciphertext
  secret := witan.reference.secret key exchange.ciphertext.2
  secret_32b := witan.reference.secret key exchange.ciphertext.2
  bytes := exchange.bytes
  from_json := exchange.from_json
  decapsulate := rfl
  as_32_bytes := rfl
  serialize := exchange.serialize

/-- The server answers the probe, rotates, and completes a session on the finish. The
    finish-ack that it sends then is signed with its new key. -/
theorem rotated_server_completes :
    ∃ (x : Exchange reference.crates) (message : InFlight) (sent : FinishSent) (session : SessionRecord)
      (server_mac : Bytes32) (signature : ByteVec),
      Relation.ReflTransGen (Exchange.Takes addrOfB addrOfA) ⟨engine 1, engine 2, .start⟩ x ∧
        x.stage = .finishAck message ∧ message.sent_at_ms = 0 ∧ x.b.sessions.get addrOfA = some session ∧
        Exchange.AwaitsFinishAck addrOfB (engine 2).identity x.a sent ∧
        message.bytes = HandshakeFinishAck.codec.encode
          (finishAckMessage session.session_id (sent.transcriptHash reference.crates) server_mac signature 0) ∧
        reference.crates.sig_verify (witan.reference.sigPublicKey 3)
          (tagged SIG_CTX_HANDSHAKE (sent.transcriptHash reference.crates).val) signature = .ok () := by
  have hfresh {message : InFlight} (hsent : message.sent_at_ms = 0) :
      (0 : UInt64).toNat - message.sent_at_ms.toNat ≤ 30000 := by
    rw [hsent]
    decide
  obtain ⟨probe, a, hconnect, hprobe_sent, hprobe⟩ := connects
  obtain ⟨ack_bytes, b, _, served, kem_pk_json, hdeliver_probe, _, hack⟩ :=
    hprobe.answered addrOfA reference.kemRoundTrip nonce (9 : UInt8) (hfresh hprobe_sent)
  let rotated : GossipEngine reference.crates :=
    { b with identity := reference.nodeAt 3 reference.firstEpoch }
  have hack' : Exchange.AckStage addrOfB addrOfA (engine 2).identity ⟨a, rotated, .ack ⟨ack_bytes, 0⟩⟩ ⟨ack_bytes, 0⟩
      _ served kem_pk_json := ⟨hack.json, hack.bytes, hack.client, hack.server, hack.probe_bytes, hack.ack_bytes⟩
  obtain ⟨finish_bytes, a', sent, ciphertext_json, exchange, hdeliver_ack, _, hfinish⟩ :=
    hack'.answered reference.keyLengths reference.kemCorrect reference.kemRoundTrip nonce (9 : UInt8) (hfresh rfl)
  obtain ⟨finish_ack_bytes, b', session, signature, hdeliver_finish, hbytes, hverify, _, hsession, _⟩ :=
    hfinish.completes reference.keyLengths reference.signatureCorrect (reopened exchange 3) nonce (9 : UInt8)
      (hfresh rfl)
  refine ⟨⟨a', b', .finishAck ⟨finish_ack_bytes, 0⟩⟩, ⟨finish_ack_bytes, 0⟩, sent, session, _, signature, ?_, rfl, rfl,
    hsession, hfinish.awaits, hbytes, hverify⟩
  have hstep_probe : Exchange.step addrOfB addrOfA ⟨a, engine 2, .probe probe⟩ (.deliver nonce (9 : UInt8) 0) =
      some ⟨a, b, .ack ⟨ack_bytes, 0⟩⟩ := by
    unfold Exchange.step
    simp only [hdeliver_probe]
  have hstep_ack : Exchange.step addrOfB addrOfA ⟨a, rotated, .ack ⟨ack_bytes, 0⟩⟩ (.deliver nonce (9 : UInt8) 0) =
      some ⟨a', rotated, .finish ⟨finish_bytes, 0⟩⟩ := by
    unfold Exchange.step
    simp only [hdeliver_ack]
  have hstep_finish : Exchange.step addrOfB addrOfA ⟨a', rotated, .finish ⟨finish_bytes, 0⟩⟩
      (.deliver nonce (9 : UInt8) 0) = some ⟨a', b', .finishAck ⟨finish_ack_bytes, 0⟩⟩ := by
    unfold Exchange.step
    simp only [hdeliver_finish]
  have hrotate : Exchange.turn addrOfB addrOfA ⟨a, b, .ack ⟨ack_bytes, 0⟩⟩ (.rotateB rotation) =
      some ⟨a, rotated, .ack ⟨ack_bytes, 0⟩⟩ := by
    change some (⟨a, rotation.run b, .ack ⟨ack_bytes, 0⟩⟩ : Exchange reference.crates) = _
    rw [rotation_run]
  refine .head ⟨.move (.connect nonce 0), rfl, hconnect⟩ ?_
  refine .head ⟨.move (.deliver nonce (9 : UInt8) 0), ⟨probe, rfl, hfresh hprobe_sent⟩, hstep_probe⟩ ?_
  refine .head ⟨.rotateB rotation, trivial, hrotate⟩ ?_
  refine .head ⟨.move (.deliver nonce (9 : UInt8) 0), ⟨_, rfl, hfresh rfl⟩, hstep_ack⟩ ?_
  exact .single ⟨.move (.deliver nonce (9 : UInt8) 0), ⟨_, rfl, hfresh rfl⟩, hstep_finish⟩

end reference

/-- A rotation of the server between its ack and its finish-ack splits the handshake:
    the server has a session, and the client rejects the finish-ack, whose signature
    is by a key that it does not know. -/
theorem Exchange.rotation_splits_handshake :
    ∃ (x : Exchange reference.crates) (session : SessionRecord),
      Relation.ReflTransGen (Exchange.Takes reference.addrOfB reference.addrOfA)
        ⟨reference.engine 1, reference.engine 2, .start⟩ x ∧
      x.b.sessions.get reference.addrOfA = some session ∧
      ¬ x.CompletesTogether reference.addrOfB reference.addrOfA := by
  obtain ⟨⟨a, b, _⟩, message, sent, session, server_mac, signature, hrun, hstage, hsent, hsession, hawaits, hbytes,
    hverify⟩ := reference.rotated_server_completes
  refine ⟨_, session, hrun, hsession, fun htogether => ?_⟩
  dsimp only at hstage
  subst hstage
  obtain ⟨y, _, _, hstep, _⟩ := htogether message rfl reference.nonce (9 : UInt8) 0 (by rw [hsent]; decide)
  have hkind : classify_incoming message.bytes = .HandshakeFinishAck := by
    rw [hbytes]
    exact classify_incoming_finish_ack _ rfl
  simp only [Exchange.step] at hstep
  split at hstep
  · next haccepted =>
    obtain ⟨_, _, hmanager⟩ := process_finish_ack_of_ok hkind haccepted
    obtain ⟨finish_ack, sent', hdecode, _, hcontext, _, _, hverify', _⟩ :=
      HandshakeManager.process_finish_ack_eq_ok_iff.mp hmanager
    rw [hbytes, HandshakeFinishAck.codec.decodePrefix_encode_nil] at hdecode
    obtain rfl := Option.some.inj hdecode
    obtain rfl : sent = sent' := by
      rw [hawaits.client] at hcontext
      cases hcontext
      rfl
    rw [hawaits.server_sig_pk] at hverify'
    have hold : signature = reference.signature 2 _ := reference.eq_signature_of_sig_verify hverify'
    have hnew : signature = reference.signature 3 _ := reference.eq_signature_of_sig_verify hverify
    have hkey : (2 : UInt8) = 3 := reference.key_eq_of_signature_eq (hold.symm.trans hnew)
    exact absurd hkey (by decide)
  · cases hstep

end witan.gossip
