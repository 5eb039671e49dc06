import Mathlib.Data.Set.Function
import Witan.Handshake.Network

open Std (ExtHashMap)
open bincode fallible maps
open witan.types witan.error witan.identity witan.session witan.signing

namespace witan.handshake

variable {crates : Crates} {Node : Type}

/-- The client that is waiting for a finish-ack and a server that answered a
    finish mean the same handshake: the same bytes of all three messages, both
    nonces, and the KEM key of the ack is the one the client encapsulated to. -/
structure Agreement (crates : Crates) (sent : FinishSent) (service : Service) : Prop where
  probe_bytes : service.probe_bytes = sent.probe_bytes
  ack_bytes : service.ack_bytes = sent.ack_bytes
  finish_bytes : service.finish_bytes = sent.finish_bytes
  client_nonce : service.client_nonce = sent.client_nonce
  server_nonce : service.server_nonce = sent.server_nonce
  kem_key : ∃ kem_pk_json, AckBytes service.ack_bytes service.server_nonce kem_pk_json ∧
    sent.EncapsulatedTo crates kem_pk_json

/-- The transcripts that the honest nodes of a network hash. -/
def Network.transcriptInputs (network : Network crates Node) : Set Bytes :=
  {input | (∃ service ∈ network.services,
      input = transcriptInput service.probe_bytes service.ack_bytes service.finish_bytes) ∨
    ∃ (node : Node) (addr : Str) (sent : FinishSent),
      (network.managers node).pending[addr]? = some (.Client (.FinishSent sent)) ∧
        input = transcriptInput sent.probe_bytes sent.ack_bytes sent.finish_bytes}

/-- Whenever a client completes a handshake under a key of an honest server, the
    server answered the very handshake that the client ran. Transcripts are
    assumed not to collide, and the signature shown not to be forged. -/
def Network.Agrees (network : Network crates Node) (honest : Set ByteVec) : Prop :=
  ∀ (node : Node) (peer_addr : Str) (finish_ack_bytes : Bytes) (now_ms : UInt64) (session : SessionRecord)
    (after : HandshakeManager),
    HandshakeManager.process_finish_ack crates peer_addr finish_ack_bytes now_ms (network.managers node) =
      .ok session after →
    session.peer_sig_public_key ∈ honest →
    Set.InjOn crates.sha256 network.transcriptInputs →
    (∀ finish_ack, HandshakeFinishAck.codec.decodePrefix finish_ack_bytes = some finish_ack →
      crates.Unforged (signedUnder network.signings session.peer_sig_public_key) session.peer_sig_public_key
        (tagged SIG_CTX_HANDSHAKE finish_ack.transcript_hash.val) finish_ack.transcript_signature) →
    ∃ sent service, (network.managers node).pending[peer_addr]? = some (.Client (.FinishSent sent)) ∧
      service ∈ network.services ∧ service.public_key = session.peer_sig_public_key ∧
      Agreement crates sent service

/-- Without trailing bytes a transcript can be cut apart in one way only: each of
    the first two messages says where it ends. -/
theorem transcript_agreement {sent : FinishSent} {service : Service}
    (hsent : (HandshakeContext.Client (.FinishSent sent)).Sound crates)
    (hprobe : ProbeBytes service.probe_bytes service.client_nonce)
    (hack : ∃ kem_pk_json, AckBytes service.ack_bytes service.server_nonce kem_pk_json)
    (htranscript : transcriptInput service.probe_bytes service.ack_bytes service.finish_bytes =
      transcriptInput sent.probe_bytes sent.ack_bytes sent.finish_bytes) : Agreement crates sent service := by
  obtain ⟨⟨probe, hprobeBytes, hnonce⟩, kem_pk_json, ⟨ack, hackBytes, hserverNonce, hkem⟩, hencapsulated⟩ := hsent
  obtain ⟨probe', hprobeBytes', hnonce'⟩ := hprobe
  obtain ⟨kem_pk_json', ack', hackBytes', hserverNonce', hkem'⟩ := hack
  unfold transcriptInput at htranscript
  rw [hprobeBytes, hprobeBytes', hackBytes, hackBytes', List.append_assoc, List.append_assoc] at htranscript
  obtain ⟨rfl, hrest⟩ := HandshakeProbe.codec.encode_append_inj htranscript
  obtain ⟨rfl, hfinish⟩ := HandshakeAck.codec.encode_append_inj hrest
  exact ⟨hprobeBytes'.trans hprobeBytes.symm, hackBytes'.trans hackBytes.symm, hfinish,
    hnonce'.symm.trans hnonce, hserverNonce'.symm.trans hserverNonce, kem_pk_json,
    ⟨ack', hackBytes', hserverNonce', hkem⟩, hencapsulated⟩

/-- In every run in which no accepted probe or ack has trailing bytes, clients
    and honest servers agree. -/
theorem Network.run_agrees [DecidableEq Node] {events : List (Node × Call crates)}
    (hexact : ∀ event ∈ events, event.2.Exact) (honest : Set ByteVec) : (Network.run events).Agrees honest := by
  intro node peer_addr finish_ack_bytes now_ms session after haccept _ hcollision hunforged
  have hsound := Network.run_sound hexact
  obtain ⟨finish_ack, sent, hdecode, _, hsent, hhash, _, hverify, rfl, _⟩ :=
    HandshakeManager.process_finish_ack_eq_ok_iff.mp haccept
  have hsigned := hunforged finish_ack hdecode
  rw [hhash] at hsigned
  obtain ⟨identity, transcript_hash, hmem, hkey, hmessage⟩ := mem_signedUnder_transcript (hsigned hverify)
  obtain ⟨service, hservice, hserviceKey, hserviceHash⟩ := hsound.transcripts identity transcript_hash hmem
  have hdigest : service.transcriptHash crates = sent.transcriptHash crates :=
    hserviceHash.trans (Subtype.ext hmessage)
  have htranscript := hcollision (.inl ⟨service, hservice, rfl⟩) (.inr ⟨node, peer_addr, sent, hsent, rfl⟩) hdigest
  obtain ⟨hprobe, hack⟩ := hsound.services service hservice
  exact ⟨sent, service, hsent, hservice, hserviceKey.trans hkey,
    transcript_agreement (hsound.managers node peer_addr _ hsent) hprobe hack htranscript⟩

end witan.handshake
