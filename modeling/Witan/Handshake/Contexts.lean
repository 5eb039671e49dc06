import Witan.Handshake.Frame

open Std (ExtHashMap)
open bincode fallible maps
open witan.types witan.error witan.identity witan.session

namespace witan.handshake

/-- A buffer that holds nothing after the message it starts with. -/
def NoTrailing {α : Type} (codec : Codec α) (bytes : Bytes) : Prop :=
  ∀ value, codec.decodePrefix bytes = some value → bytes = codec.encode value

variable {crates : Crates}

/-- The client's probe bytes are the encoding of a probe with its nonce. -/
def ProbeBytes (probe_bytes : Bytes) (client_nonce : Bytes32) : Prop :=
  ∃ probe : HandshakeProbe, probe_bytes = HandshakeProbe.codec.encode probe ∧ probe.client_nonce = client_nonce

/-- The ack bytes are the encoding of an ack with the server's nonce and KEM key. -/
def AckBytes (ack_bytes : Bytes) (server_nonce : Bytes32) (kem_pk_json : Str) : Prop :=
  ∃ ack : HandshakeAck, ack_bytes = HandshakeAck.codec.encode ack ∧ ack.server_nonce = server_nonce ∧
    ack.hybrid_kem_public_key_json = kem_pk_json

/-- The client's secret and ciphertext come from an encapsulation to this key. -/
def FinishSent.EncapsulatedTo (crates : Crates) (sent : FinishSent) (kem_pk_json : Str) : Prop :=
  ∃ (rng : crates.OsRng) (exchange : Encapsulation crates rng kem_pk_json),
    sent.shared_secret_32b = exchange.secret_32b ∧ sent.kem_ciphertext_bytes = exchange.bytes

/-- What a context holds, while no accepted probe and no accepted ack has had
    trailing bytes: its byte strings are encodings of single messages. -/
def HandshakeContext.Sound (crates : Crates) : HandshakeContext → Prop
  | .Client (.ProbeSent sent) => ProbeBytes sent.probe_bytes sent.client_nonce
  | .Client (.FinishSent sent) => ProbeBytes sent.probe_bytes sent.client_nonce ∧
      ∃ kem_pk_json, AckBytes sent.ack_bytes sent.server_nonce kem_pk_json ∧
        sent.EncapsulatedTo crates kem_pk_json
  | .Server (.AckSent sent) => ProbeBytes sent.probe_bytes sent.client_nonce ∧
      ∃ kem_pk_json, AckBytes sent.ack_bytes sent.server_nonce kem_pk_json
  | _ => True

namespace HandshakeManager

def Sound (crates : Crates) (self : HandshakeManager) : Prop :=
  ∀ (addr : Str) (context : HandshakeContext), self.pending[addr]? = some context → context.Sound crates

variable {self after : HandshakeManager} {peer_addr : Str} {identity : NodeIdentity crates} {now_ms : UInt64}

/-! What all pending contexts satisfy is kept by what removes contexts or stores a
sound one; each handler comes down to that. -/

theorem Sound.build_probe (h : self.Sound crates) {getrandom : Except String Bytes32} :
    (final (build_probe peer_addr identity getrandom now_ms self)).Sound crates := by
  cases hresult : HandshakeManager.build_probe peer_addr identity getrandom now_ms self with
  | error error after =>
    obtain rfl := build_probe_failsIn error after hresult
    exact h
  | ok probe_bytes after =>
    obtain ⟨client_nonce, _, rfl, rfl⟩ := build_probe_eq_ok_iff.mp hresult
    exact AllPending.setPending h ⟨_, rfl, rfl⟩

theorem Sound.process_probe_build_ack (h : self.Sound crates) {probe_bytes : Bytes}
    {getrandom : Except String Bytes32} (hexact : NoTrailing HandshakeProbe.codec probe_bytes) :
    (final (process_probe_build_ack peer_addr probe_bytes identity getrandom now_ms self)).Sound crates := by
  cases hresult : HandshakeManager.process_probe_build_ack peer_addr probe_bytes identity getrandom now_ms self with
  | error error after =>
    obtain rfl := process_probe_build_ack_failsIn error after hresult
    exact h
  | ok ack_bytes after =>
    obtain ⟨probe, server_nonce, kem_pk_json, hdecode, _, _, _, rfl, rfl⟩ :=
      process_probe_build_ack_eq_ok_iff.mp hresult
    exact AllPending.setPending h ⟨⟨probe, hexact probe hdecode, rfl⟩, kem_pk_json, _, rfl, rfl, rfl⟩

theorem Sound.process_ack_build_finish (h : self.Sound crates) {ack_bytes : Bytes} {rng : crates.OsRng}
    (hexact : NoTrailing HandshakeAck.codec ack_bytes) :
    (final (process_ack_build_finish peer_addr ack_bytes identity rng now_ms self)).Sound crates := by
  cases hresult : HandshakeManager.process_ack_build_finish peer_addr ack_bytes identity rng now_ms self with
  | error error after =>
    obtain rfl := process_ack_build_finish_failsIn error after hresult
    exact h
  | ok finish_bytes after =>
    obtain ⟨ack, sent, exchange, hdecode, _, _, hsent, _, rfl, rfl⟩ :=
      process_ack_build_finish_eq_ok_iff.mp hresult
    have hprobe : ProbeBytes sent.probe_bytes sent.client_nonce := h peer_addr _ hsent
    exact AllPending.setPending h ⟨hprobe, ack.hybrid_kem_public_key_json, ⟨ack, hexact ack hdecode, rfl, rfl⟩,
      rng, exchange, rfl, rfl⟩

theorem Sound.process_finish_build_finish_ack (h : self.Sound crates) {finish_bytes : Bytes} :
    (final (process_finish_build_finish_ack peer_addr finish_bytes identity now_ms self)).Sound crates := by
  cases hresult : HandshakeManager.process_finish_build_finish_ack peer_addr finish_bytes identity now_ms self with
  | error error after =>
    rcases process_finish_build_finish_ack_failsIn error after hresult with rfl | ⟨_, rfl⟩
    · exact h
    · exact AllPending.dropPending h
  | ok value after =>
    obtain ⟨_, _, _, _, _, _, _, _, _, _, _, rfl⟩ := process_finish_build_finish_ack_eq_ok_iff.mp hresult
    exact AllPending.dropPending h

theorem Sound.process_finish_ack (h : self.Sound crates) {finish_ack_bytes : Bytes} :
    (final (process_finish_ack crates peer_addr finish_ack_bytes now_ms self)).Sound crates := by
  cases hresult : HandshakeManager.process_finish_ack crates peer_addr finish_ack_bytes now_ms self with
  | error error after =>
    rcases process_finish_ack_failsIn error after hresult with rfl | ⟨_, rfl⟩
    · exact h
    · exact AllPending.dropPending h
  | ok value after =>
    obtain ⟨_, _, _, _, _, _, _, _, _, rfl⟩ := process_finish_ack_eq_ok_iff.mp hresult
    exact AllPending.dropPending h

/-- A session that the router keeps in `completed` leaves the contexts alone. -/
theorem pending_final_keep {α : Type} {action : EStateM GossipError HandshakeManager α}
    {session : α → SessionRecord} {answer : α → Bytes} {self : HandshakeManager} {peer_addr : Str} :
    (final ((action >>= fun result => modify (·.keepCompleted peer_addr (session result)) >>= fun _ =>
      pure (answer result)) self)).pending = (final (action self)).pending := by
  cases hresult : action self with
  | ok value after =>
    rw [bind_of_ok hresult]
    rfl
  | error error after =>
    rw [bind_of_error hresult]
    rfl

/-- What each handler keeps of the pending contexts, the router keeps. -/
theorem AllPending.process_incoming {condition : HandshakeContext → Prop} (h : AllPending condition self)
    {bytes : Bytes} {getrandom : Except String Bytes32} {rng : crates.OsRng}
    (hprobe : classify_incoming bytes = .HandshakeProbe →
      AllPending condition (final (process_probe_build_ack peer_addr bytes identity getrandom now_ms self)))
    (hack : classify_incoming bytes = .HandshakeAck →
      AllPending condition (final (process_ack_build_finish peer_addr bytes identity rng now_ms self)))
    (hfinish : AllPending condition (final (process_finish_build_finish_ack peer_addr bytes identity now_ms self)))
    (hfinish_ack : AllPending condition (final (process_finish_ack crates peer_addr bytes now_ms self))) :
    AllPending condition (final (process_incoming peer_addr bytes identity getrandom rng now_ms self)) := by
  unfold HandshakeManager.process_incoming
  cases hkind : classify_incoming bytes with
  | HandshakeProbe => exact hprobe hkind
  | HandshakeAck => exact hack hkind
  | HandshakeFinish =>
    intro addr context hfound
    exact hfinish addr context (pending_final_keep ▸ hfound)
  | HandshakeFinishAck =>
    intro addr context hfound
    exact hfinish_ack addr context (pending_final_keep ▸ hfound)
  | GossipEnvelope => exact h

theorem Sound.process_incoming (h : self.Sound crates) {bytes : Bytes} {getrandom : Except String Bytes32}
    {rng : crates.OsRng}
    (hprobe : classify_incoming bytes = .HandshakeProbe → NoTrailing HandshakeProbe.codec bytes)
    (hack : classify_incoming bytes = .HandshakeAck → NoTrailing HandshakeAck.codec bytes) :
    (final (process_incoming peer_addr bytes identity getrandom rng now_ms self)).Sound crates :=
  AllPending.process_incoming h (fun hkind => h.process_probe_build_ack (hprobe hkind))
    (fun hkind => h.process_ack_build_finish (hack hkind)) h.process_finish_build_finish_ack h.process_finish_ack

end HandshakeManager

end witan.handshake
