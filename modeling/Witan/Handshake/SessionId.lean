import Witan.Handshake.Splice

open bincode fallible
open witan.types witan.error witan.identity witan.session

namespace witan.handshake

variable {crates : Crates}

/-- The session id that a client can derive from its context. -/
def FinishSent.derivedSessionId (crates : Crates) (sent : FinishSent) : Str :=
  derive_session_id crates sent.shared_secret_32b sent.client_nonce sent.server_nonce sent.kem_ciphertext_bytes
    sent.server_node_id

namespace HandshakeManager

variable {self after : HandshakeManager} {peer_addr : Str} {now_ms : UInt64}

/-- The session takes its id from the finish-ack. -/
theorem process_finish_ack_session_id {finish_ack_bytes : Bytes} {session : SessionRecord}
    (haccept : process_finish_ack crates peer_addr finish_ack_bytes now_ms self = .ok session after) :
    ∃ sent finish_ack, self.pending[peer_addr]? = some (.Client (.FinishSent sent)) ∧
      HandshakeFinishAck.codec.decodePrefix finish_ack_bytes = some finish_ack ∧
      session.session_id = finish_ack.session_id := by
  obtain ⟨finish_ack, sent, hdecode, _, hsent, _, _, _, rfl, _⟩ := process_finish_ack_eq_ok_iff.mp haccept
  exact ⟨sent, finish_ack, hsent, hdecode, rfl⟩

/-- With any other id in it, an accepted finish-ack is accepted too: neither the
    hash nor the MAC nor the signature covers the id. -/
theorem process_finish_ack_any_session_id {finish_ack_bytes : Bytes} {finish_ack : HandshakeFinishAck}
    {session : SessionRecord} (hdecode : HandshakeFinishAck.codec.decodePrefix finish_ack_bytes = some finish_ack)
    (haccept : process_finish_ack crates peer_addr finish_ack_bytes now_ms self = .ok session after)
    (session_id : Str) :
    process_finish_ack crates peer_addr (HandshakeFinishAck.codec.encode { finish_ack with session_id }) now_ms self =
      .ok { session with session_id } after := by
  obtain ⟨found, sent, hfound, hheader, hsent, hhash, hmac, hverify, rfl, hafter⟩ :=
    process_finish_ack_eq_ok_iff.mp haccept
  rw [hdecode] at hfound
  obtain rfl := Option.some.inj hfound
  apply process_finish_ack_eq_ok_iff.mpr
  exact ⟨{ finish_ack with session_id }, sent, HandshakeFinishAck.codec.decodePrefix_encode_nil _, hheader, hsent,
    hhash, hmac, hverify, rfl, hafter⟩

/-- The id in a server's finish-ack is that of the server's session. -/
theorem process_finish_sends_session_id {finish_bytes finish_ack_bytes : Bytes} {identity : NodeIdentity crates}
    {session : SessionRecord}
    (hserve : process_finish_build_finish_ack peer_addr finish_bytes identity now_ms self =
      .ok (finish_ack_bytes, session) after) :
    ∃ finish_ack, HandshakeFinishAck.codec.decodePrefix finish_ack_bytes = some finish_ack ∧
      finish_ack.session_id = session.session_id := by
  obtain ⟨_, _, _, _, _, _, _, _, _, rfl, rfl, _⟩ := process_finish_build_finish_ack_eq_ok_iff.mp hserve
  exact ⟨_, HandshakeFinishAck.codec.decodePrefix_encode_nil _, rfl⟩

end HandshakeManager

/-- The client's session id is the derived one exactly when the finish-ack that
    reaches it carries that id, and it is a server's id exactly when the finish-ack
    carries the id that this server sent. Every accepted finish-ack is accepted with
    any id in it. -/
theorem Network.client_session_id_iff {Node : Type} [DecidableEq Node] {events : List (Node × Call crates)}
    {node : Node} {peer_addr : Str} {finish_ack_bytes : Bytes} {now_ms : UInt64} {session : SessionRecord}
    {after : HandshakeManager}
    (haccept : HandshakeManager.process_finish_ack crates peer_addr finish_ack_bytes now_ms
      ((Network.run events).managers node) = .ok session after) :
    ∃ sent finish_ack,
      ((Network.run events).managers node).pending[peer_addr]? = some (.Client (.FinishSent sent)) ∧
      HandshakeFinishAck.codec.decodePrefix finish_ack_bytes = some finish_ack ∧
      (session.session_id = sent.derivedSessionId crates ↔
        finish_ack.session_id = sent.derivedSessionId crates) ∧
      (∀ (server server_after : HandshakeManager) (addr : Str) (finish_bytes sent_bytes : Bytes)
          (identity : NodeIdentity crates) (time : UInt64) (server_session : SessionRecord),
        HandshakeManager.process_finish_build_finish_ack addr finish_bytes identity time server =
          .ok (sent_bytes, server_session) server_after →
        (session.session_id = server_session.session_id ↔
          ∃ original, HandshakeFinishAck.codec.decodePrefix sent_bytes = some original ∧
            finish_ack.session_id = original.session_id)) ∧
      ∀ session_id, HandshakeManager.process_finish_ack crates peer_addr
        (HandshakeFinishAck.codec.encode { finish_ack with session_id }) now_ms
        ((Network.run events).managers node) = .ok { session with session_id } after := by
  obtain ⟨sent, finish_ack, hsent, hdecode, hid⟩ := HandshakeManager.process_finish_ack_session_id haccept
  refine ⟨sent, finish_ack, hsent, hdecode, ?_, ?_, ?_⟩
  · rw [hid]
  · intro server server_after addr finish_bytes sent_bytes identity time server_session hserve
    obtain ⟨original, horiginal, hserver⟩ := HandshakeManager.process_finish_sends_session_id hserve
    rw [hid, ← hserver]
    constructor
    · intro hsame
      exact ⟨original, horiginal, hsame⟩
    · rintro ⟨other, hother, hsame⟩
      rw [horiginal] at hother
      obtain rfl := Option.some.inj hother
      exact hsame
  · exact HandshakeManager.process_finish_ack_any_session_id hdecode haccept

/-- The client of the plain handshake accepts the server's finish-ack: it has the
    derived id if the finish-ack brings that, and it accepts any other id as well. -/
theorem Network.client_session_id_iff_reference :
    ∃ (session : SessionRecord) (after : HandshakeManager) (sent : FinishSent) (finish_ack : HandshakeFinishAck),
      HandshakeManager.process_finish_ack reference.crates Splice.serverAddr (Splice.finishAckBytes 2 []) 0
        ((Network.run (Splice.events 2 [])).managers false) = .ok session after ∧
      ((Network.run (Splice.events 2 [])).managers false).pending[Splice.serverAddr]? =
        some (.Client (.FinishSent sent)) ∧
      HandshakeFinishAck.codec.decodePrefix (Splice.finishAckBytes 2 []) = some finish_ack ∧
      (session.session_id = sent.derivedSessionId reference.crates ↔
        finish_ack.session_id = sent.derivedSessionId reference.crates) ∧
      HandshakeManager.process_finish_ack reference.crates Splice.serverAddr
        (HandshakeFinishAck.codec.encode { finish_ack with session_id := Splice.serverAddr }) 0
        ((Network.run (Splice.events 2 [])).managers false) =
          .ok { session with session_id := Splice.serverAddr } after := by
  obtain ⟨session, after, haccept, _⟩ := Splice.client_accepts_plain
  obtain ⟨sent, finish_ack, hsent, hdecode, hiff, _, hany⟩ := Network.client_session_id_iff haccept
  exact ⟨session, after, sent, finish_ack, haccept, hsent, hdecode, hiff, hany Splice.serverAddr⟩

/-- The client of the plain handshake accepts the finish-ack with one id as well as
    with another, so one of them is not the derived one. -/
theorem Network.altered_session_id_accepted :
    ¬ ∀ (crates : Crates) (events : List (Bool × Call crates)) (node : Bool) (peer_addr : Str) (sent : FinishSent)
      (finish_ack_bytes : Bytes) (now_ms : UInt64) (session : SessionRecord) (after : HandshakeManager),
      ((Network.run events).managers node).pending[peer_addr]? = some (.Client (.FinishSent sent)) →
      HandshakeManager.process_finish_ack crates peer_addr finish_ack_bytes now_ms
        ((Network.run events).managers node) = .ok session after →
      session.session_id = sent.derivedSessionId crates := by
  intro hclaim
  obtain ⟨session, after, haccept, _⟩ := Splice.client_accepts_plain
  obtain ⟨sent, finish_ack, hsent, hdecode, _⟩ := HandshakeManager.process_finish_ack_session_id haccept
  have hany := HandshakeManager.process_finish_ack_any_session_id hdecode haccept
  have hderived : ∀ session_id, session_id = sent.derivedSessionId reference.crates := fun session_id =>
    hclaim reference.crates _ false _ sent _ _ { session with session_id } after hsent (hany session_id)
  have hsame : Splice.clientAddr = Splice.serverAddr := (hderived _).trans (hderived _).symm
  exact absurd hsame (by decide)

end witan.handshake
