import Witan.Handshake.Splice

open bincode fallible
open witan.types witan.error witan.identity witan.session

namespace witan.handshake

variable {crates : Crates} {Node : Type}

/-- A finish that a client sent under its identity, in answer to an ack with this
    server nonce. -/
structure SentFinish (crates : Crates) where
  identity : NodeIdentity crates
  server_nonce : Bytes32
  finish_bytes : Bytes

/-- The finish that answering an ack sends, if it is answered. -/
def finishFor (self : HandshakeManager) (peer_addr : Str) (ack_bytes : Bytes) (identity : NodeIdentity crates)
    (rng : crates.OsRng) (now_ms : UInt64) : Option (SentFinish crates) :=
  match HandshakeManager.process_ack_build_finish peer_addr ack_bytes identity rng now_ms self with
  | .ok finish_bytes _ => (HandshakeAck.codec.decodePrefix ack_bytes).map fun ack =>
      ⟨identity, ack.server_nonce, finish_bytes⟩
  | .error _ _ => none

/-- The finish that a call sends. -/
def Call.sentFinish (self : HandshakeManager) : Call crates → Option (SentFinish crates)
  | .process_ack_build_finish peer_addr ack_bytes identity rng now_ms =>
    finishFor self peer_addr ack_bytes identity rng now_ms
  | .process_incoming peer_addr bytes identity _ rng now_ms =>
    if classify_incoming bytes = .HandshakeAck then finishFor self peer_addr bytes identity rng now_ms else none
  | _ => none

namespace Network

section Runs

variable [DecidableEq Node]

/-- In the run the node sent this finish. -/
def Sent (events : List (Node × Call crates)) (node : Node) (sent : SentFinish crates) : Prop :=
  ∃ before call rest, events = before ++ (node, call) :: rest ∧
    call.sentFinish ((run before).managers node) = some sent

/-- After the run, whenever the server completes a session under the key of the
    client, the client sent that finish in answer to the ack that the server waits
    on, the session has the client's id, and no finish of that handshake was
    answered before. -/
def AuthenticatesClient (events : List (Node × Call crates)) (server : Node) (peer_addr : Str)
    (identity : NodeIdentity crates) (node : Node) (client : NodeIdentity crates) : Prop :=
  ∀ finish_bytes now_ms finish_ack_bytes session after,
    HandshakeManager.process_finish_build_finish_ack peer_addr finish_bytes identity now_ms
        ((run events).managers server) = .ok (finish_ack_bytes, session) after →
      session.peer_sig_public_key = client.sig_public_key_bytes →
      ∃ served, ((run events).managers server).pending[peer_addr]? = some (.Server (.AckSent served)) ∧
        Sent events node ⟨client, served.server_nonce, finish_bytes⟩ ∧
        session.peer_node_id = client.node_id ∧
        ∀ service ∈ (run events).services,
          ¬ (service.server_nonce = served.server_nonce ∧ service.finish_bytes = finish_bytes)

end Runs

end Network

section Attack

variable {self : HandshakeManager} {peer_addr : Str} {identity : NodeIdentity crates} {served : AckSent}

/-- A server that waits for a finish takes one under any key and any id: it checks
    the size of the key and nothing else about it. -/
theorem HandshakeManager.finish_accepted_for_anyone (hkem : crates.KemCorrect) (hjson : crates.KemRoundTrip)
    (hsignature : crates.SignatureCorrect)
    (hserved : self.pending[peer_addr]? = some (.Server (.AckSent served))) {key : ByteVec}
    (hkey : key.val.length = 1952) (node_id : Str) (rng : crates.OsRng) (now_ms : UInt64) :
    ∃ finish_bytes finish_ack_bytes session after,
      HandshakeManager.process_finish_build_finish_ack peer_addr finish_bytes identity now_ms self =
          .ok (finish_ack_bytes, session) after ∧
        session.peer_sig_public_key = key ∧ session.peer_node_id = node_id := by
  obtain ⟨kem_pk_json, hto_json, _⟩ := hjson.public_key (crates.kem_public_key identity.kem_keypair)
  -- The attacker runs the client's part of the key exchange with the key of the ack.
  obtain ⟨attacker, exchange, _⟩ := key_exchange hkem hjson rng hto_json
  let finish : HandshakeFinish := ⟨HANDSHAKE_FINISH_MAGIC, 1, attacker.json, key, node_id, now_ms⟩
  obtain ⟨signature, hsign, _⟩ := identity.sign_verifies hsignature
    (served.transcriptHash crates (HandshakeFinish.codec.encode finish)).val SIG_CTX_HANDSHAKE (by decide)
  have hfresh : now_ms.toNat - now_ms.toNat ≤ 30000 := by omega
  have hrun := HandshakeManager.process_finish_build_finish_ack_eq_ok_iff.mpr
    ⟨finish, served, exchange, signature, HandshakeFinish.codec.decodePrefix_encode_nil finish,
      ⟨rfl, rfl, hfresh⟩, hkey, hserved, hsign, rfl, rfl, rfl⟩
  exact ⟨_, _, _, _, hrun, rfl, rfl⟩

end Attack

theorem exists_ne_str (text : Str) : ∃ other : Str, other ≠ text := by
  by_cases hempty : text = ⟨"", by decide⟩
  · refine ⟨⟨"a", by decide⟩, ?_⟩
    rw [hempty]
    decide
  · exact ⟨_, fun heq => hempty heq.symm⟩

/-- A server never authenticates a client. In every reachable state, what it
    completes under a client's key is the client's doing only as long as it waits for
    no finish at all. -/
theorem Network.authenticatesClient_iff [DecidableEq Node] (hkem : crates.KemCorrect) (hjson : crates.KemRoundTrip)
    (hsignature : crates.SignatureCorrect) (hlengths : crates.KeyLengths) (rng : crates.OsRng)
    (events : List (Node × Call crates)) (server : Node) (peer_addr : Str) (identity : NodeIdentity crates)
    (node : Node) (client : NodeIdentity crates) :
    AuthenticatesClient events server peer_addr identity node client ↔
      ∀ served, ((run events).managers server).pending[peer_addr]? ≠ some (.Server (.AckSent served)) := by
  constructor
  · intro hauthenticates served hserved
    obtain ⟨other, hother⟩ := exists_ne_str client.node_id
    obtain ⟨finish_bytes, finish_ack_bytes, session, after, hrun, hkey, hid⟩ :=
      HandshakeManager.finish_accepted_for_anyone hkem hjson hsignature hserved (hlengths.sig client.sig_keypair)
        other rng 0
    obtain ⟨_, _, _, hid', _⟩ := hauthenticates finish_bytes 0 finish_ack_bytes session after hrun hkey
    exact hother (hid.symm.trans hid')
  · intro hwaits finish_bytes now_ms finish_ack_bytes session after hrun _
    obtain ⟨_, served, _, _, _, _, _, hserved, _⟩ :=
      HandshakeManager.process_finish_build_finish_ack_eq_ok_iff.mp hrun
    exact absurd hserved (hwaits served)

namespace Splice

/-- The server answers a probe in the client's name. The client does nothing. -/
def probed : List (Bool × Call reference.crates) :=
  [(true, .process_probe_build_ack clientAddr probeBytes server (.ok serverNonce) 0)]

theorem probed_served : ∃ served,
    ((Network.run probed).managers true).pending[clientAddr]? = some (.Server (.AckSent served)) := by
  have hack : HandshakeManager.process_probe_build_ack clientAddr probeBytes server (.ok serverNonce) 0 .new =
      .ok (ackBytes 2) (HandshakeManager.new.setPending clientAddr
        (.Server (.AckSent ⟨clientNonce, serverNonce, probeBytes, ackBytes 2, 0⟩))) :=
    HandshakeManager.process_probe_build_ack_eq_ok_iff.mpr ⟨_, serverNonce, keyJson 2,
      HandshakeProbe.codec.decodePrefix_encode_nil _, ⟨rfl, rfl, fresh⟩, rfl, rfl, rfl, rfl⟩
  have hnew : (Network.initial : Network reference.crates Bool).managers true = .new := rfl
  simp only [Network.run, probed, List.foldl_cons, List.foldl_nil, Network.step]
  rw [hnew, hack, final_ok, Network.managers_setManager_self]
  exact ⟨_, HandshakeManager.pending_setPending_self _ _⟩

end Splice

/-- A server that waits for a finish does not authenticate the client that its
    probe named. -/
theorem Network.authenticatesClient_iff_reference :
    ¬ AuthenticatesClient Splice.probed true Splice.clientAddr Splice.server false Splice.client := by
  rw [Network.authenticatesClient_iff reference.kemCorrect reference.kemRoundTrip reference.signatureCorrect
    reference.keyLengths (9 : UInt8)]
  obtain ⟨served, hserved⟩ := Splice.probed_served
  exact fun hwaits => hwaits served hserved

/-- A client that never took part is given a session: the server answers a probe and
    a finish that anyone can write in its name. -/
theorem Network.absent_client_accepted :
    (∀ event ∈ Splice.probed, event.1 ≠ false) ∧
      (∃ finish_bytes finish_ack_bytes session after,
        HandshakeManager.process_finish_build_finish_ack Splice.clientAddr finish_bytes Splice.server 0
            ((run Splice.probed).managers true) = .ok (finish_ack_bytes, session) after ∧
          session.peer_sig_public_key = Splice.client.sig_public_key_bytes ∧
          session.peer_node_id = Splice.client.node_id) ∧
      ¬ AuthenticatesClient Splice.probed true Splice.clientAddr Splice.server false Splice.client := by
  have habsent : ∀ event ∈ Splice.probed, event.1 ≠ false := by
    intro event hevent
    rw [List.mem_singleton.mp hevent]
    decide
  obtain ⟨served, hserved⟩ := Splice.probed_served
  obtain ⟨finish_bytes, finish_ack_bytes, session, after, hrun, hkey, hid⟩ :=
    HandshakeManager.finish_accepted_for_anyone reference.kemCorrect reference.kemRoundTrip
      reference.signatureCorrect hserved (reference.keyLengths.sig Splice.client.sig_keypair)
      Splice.client.node_id (9 : UInt8) 0
  refine ⟨habsent, ⟨finish_bytes, finish_ack_bytes, session, after, hrun, hkey, hid⟩, ?_⟩
  intro hauthenticates
  obtain ⟨_, _, ⟨before, call, rest, hevents, _⟩, _⟩ :=
    hauthenticates finish_bytes 0 finish_ack_bytes session after hrun hkey
  refine habsent (false, call) ?_ rfl
  rw [hevents]
  exact List.mem_append_right _ List.mem_cons_self

end witan.handshake
