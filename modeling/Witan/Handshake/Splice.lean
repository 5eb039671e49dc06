import Witan.Handshake.Agreement
import Witan.Rotation.Reachability

open Std (ExtHashMap)
open bincode fallible maps
open witan.types witan.error witan.identity witan.session witan.signing

namespace witan.handshake

/-! A client (node 1, `false`) and a server (node 2, `true`) run a handshake while
the network moves bytes over the boundary between the probe and the ack: the
server gets `inserted` after the probe, the client gets it before the ack. With
nothing inserted this is the plain handshake. -/

namespace Splice

def clientAddr : Str := ⟨"client", by decide⟩

def serverAddr : Str := ⟨"server", by decide⟩

def clientNonce : Bytes32 := reference.nonce 7

def serverNonce : Bytes32 := reference.nonce 8

def client : NodeIdentity reference.crates := reference.node 1

def server : NodeIdentity reference.crates := reference.node 2

def keyJson (key : UInt8) : Str := reference.keyJson key

def ciphertextJson (key : UInt8) : Str := reference.ciphertextJson key 9

/-- An ack in the server's name with the given KEM key. -/
def ack (key : UInt8) : HandshakeAck := ackMessage server clientNonce serverNonce (keyJson key) 0

def probeBytes : Bytes := HandshakeProbe.codec.encode (probeMessage client serverAddr clientNonce 0)

def ackBytes (key : UInt8) : Bytes := HandshakeAck.codec.encode (ack key)

/-- The finish of a client that encapsulated to `key`. -/
def finishBytes (key : UInt8) : Bytes := HandshakeFinish.codec.encode (finishMessage client (ciphertextJson key) 0)

/-- The calls of the two nodes; `key` is the key in the ack that the client reads. -/
def events (key : UInt8) (inserted : Bytes) : List (Bool × Call reference.crates) :=
  [(false, .build_probe serverAddr client (.ok clientNonce) 0),
    (true, .process_probe_build_ack clientAddr (probeBytes ++ inserted) server (.ok serverNonce) 0),
    (false, .process_ack_build_finish serverAddr (inserted ++ ackBytes 2) client (9 : UInt8) 0),
    (true, .process_finish_build_finish_ack clientAddr (finishBytes key) server 0)]

theorem public_key_from_json_keyJson (key : UInt8) : reference.crates.public_key_from_json (keyJson key) = .ok key := by
  unfold keyJson
  exact reference.public_key_from_json_keyJson key

theorem ciphertext_from_json_ciphertextJson (key : UInt8) :
    reference.crates.ciphertext_from_json (ciphertextJson key) = .ok (key, (9 : UInt8)) := by
  unfold ciphertextJson
  exact reference.ciphertext_from_json_ciphertextJson key 9

def encapsulation (key : UInt8) : Encapsulation reference.crates (9 : UInt8) (keyJson key) where
  key := key
  ciphertext := (key, 9)
  secret := reference.secret key 9
  secret_32b := reference.secret key 9
  json := ciphertextJson key
  bytes := [key, 9]
  from_json := public_key_from_json_keyJson key
  encapsulate := rfl
  as_32_bytes := rfl
  to_json := rfl
  serialize := rfl

/-- The server decapsulates whatever key the ciphertext is for. -/
def decapsulation (key : UInt8) :
    Decapsulation reference.crates server.kem_keypair (ciphertextJson key) where
  ciphertext := (key, 9)
  secret := reference.secret 2 9
  secret_32b := reference.secret 2 9
  bytes := [key, 9]
  from_json := ciphertext_from_json_ciphertextJson key
  decapsulate := rfl
  as_32_bytes := rfl
  serialize := rfl

def probeSent : ProbeSent := ⟨clientNonce, probeBytes, 0⟩

def ackSent (inserted : Bytes) : AckSent := ⟨clientNonce, serverNonce, probeBytes ++ inserted, ackBytes 2, 0⟩

def sent (key : UInt8) (inserted : Bytes) : FinishSent :=
  finishSent client probeSent (inserted ++ ackBytes 2) (ack key) (encapsulation key) 0

def service (key : UInt8) (inserted : Bytes) : Service :=
  ⟨server.sig_public_key_bytes, clientNonce, serverNonce, probeBytes ++ inserted, ackBytes 2, finishBytes key⟩

/-- Moving the boundary does not change the transcript. -/
theorem transcriptInput_eq (key : UInt8) (inserted : Bytes) :
    transcriptInput (service key inserted).probe_bytes (service key inserted).ack_bytes
        (service key inserted).finish_bytes =
      transcriptInput (sent key inserted).probe_bytes (sent key inserted).ack_bytes
        (sent key inserted).finish_bytes := by
  change probeBytes ++ inserted ++ ackBytes 2 ++ finishBytes key =
    probeBytes ++ (inserted ++ ackBytes 2) ++ finishBytes key
  rw [List.append_assoc probeBytes]

theorem transcriptHash_eq (key : UInt8) (inserted : Bytes) :
    (service key inserted).transcriptHash reference.crates = (sent key inserted).transcriptHash reference.crates :=
  congrArg reference.crates.sha256 (transcriptInput_eq key inserted)

def clientManager (key : UInt8) (inserted : Bytes) : HandshakeManager :=
  (HandshakeManager.new.setPending serverAddr (.Client (.ProbeSent probeSent))).setPending serverAddr
    (.Client (.FinishSent (sent key inserted)))

def serverManager (inserted : Bytes) : HandshakeManager :=
  (HandshakeManager.new.setPending clientAddr (.Server (.AckSent (ackSent inserted)))).dropPending clientAddr

theorem fresh : (0 : UInt64).toNat - (0 : UInt64).toNat ≤ 30000 := by decide

/-- The server's manager once it has acked the probe. -/
def ackingManager (inserted : Bytes) : HandshakeManager :=
  HandshakeManager.new.setPending clientAddr (.Server (.AckSent (ackSent inserted)))

theorem server_acks (inserted : Bytes) :
    HandshakeManager.process_probe_build_ack clientAddr (probeBytes ++ inserted) server (.ok serverNonce) 0 .new =
      .ok (ackBytes 2) (ackingManager inserted) :=
  HandshakeManager.process_probe_build_ack_eq_ok_iff.mpr ⟨_, serverNonce, keyJson 2,
    HandshakeProbe.codec.decodePrefix_encode _ _, ⟨rfl, rfl, fresh⟩, rfl, rfl, rfl, rfl⟩

theorem pending_ackingManager (inserted : Bytes) :
    (ackingManager inserted).pending[clientAddr]? = some (.Server (.AckSent (ackSent inserted))) :=
  HandshakeManager.pending_setPending_self _ _

theorem server_serves (key : UInt8) (inserted : Bytes) :
    ∃ result, HandshakeManager.process_finish_build_finish_ack clientAddr (finishBytes key) server 0
      (ackingManager inserted) = .ok result (serverManager inserted) := by
  obtain ⟨signature, hsign, _⟩ := server.sign_verifies reference.signatureCorrect
    ((ackSent inserted).transcriptHash reference.crates (finishBytes key)).val SIG_CTX_HANDSHAKE (by decide)
  exact ⟨(_, _), HandshakeManager.process_finish_build_finish_ack_eq_ok_iff.mpr
    ⟨finishMessage client (ciphertextJson key) 0, ackSent inserted, decapsulation key, signature,
      HandshakeFinish.codec.decodePrefix_encode_nil _, ⟨rfl, rfl, fresh⟩, reference.keyLengths.sig _,
      pending_ackingManager inserted, hsign, rfl, rfl, rfl⟩⟩

/-- Where the calls lead, if the client reads the given key. -/
theorem run_events {key : UInt8} {inserted : Bytes}
    (hread : HandshakeAck.codec.decodePrefix (inserted ++ ackBytes 2) = some (ack key)) :
    (Network.run (events key inserted)).managers false = clientManager key inserted ∧
      (Network.run (events key inserted)).managers true = serverManager inserted ∧
      (Network.run (events key inserted)).signings =
        [.transcript server ((service key inserted).transcriptHash reference.crates)] ∧
      (Network.run (events key inserted)).services = [service key inserted] := by
  have hprobe : HandshakeManager.build_probe serverAddr client (.ok clientNonce) 0 .new =
      .ok probeBytes (HandshakeManager.new.setPending serverAddr (.Client (.ProbeSent probeSent))) :=
    HandshakeManager.build_probe_eq_ok_iff.mpr ⟨clientNonce, rfl, rfl, rfl⟩
  have hfinish : HandshakeManager.process_ack_build_finish serverAddr (inserted ++ ackBytes 2) client (9 : UInt8) 0
      (HandshakeManager.new.setPending serverAddr (.Client (.ProbeSent probeSent))) =
      .ok (finishBytes key) (clientManager key inserted) :=
    HandshakeManager.process_ack_build_finish_eq_ok_iff.mpr ⟨ack key, probeSent, encapsulation key, hread,
      ⟨rfl, rfl, fresh⟩, reference.keyLengths.sig _, HandshakeManager.pending_setPending_self _ _, rfl, rfl, rfl⟩
  obtain ⟨result, hserve⟩ := server_serves key inserted
  have hservice : answered (ackingManager inserted) clientAddr (finishBytes key) server 0 =
      some (service key inserted) := by
    unfold answered
    rw [hserve, pending_ackingManager]
    rfl
  have hrun : Network.run (events key inserted) = ((((Network.initial.setManager false
      (HandshakeManager.new.setPending serverAddr (.Client (.ProbeSent probeSent)))).setManager true
      (ackingManager inserted)).setManager false (clientManager key inserted)).serve server
      (some (service key inserted))).setManager true (serverManager inserted) := by
    simp only [Network.run, events, List.foldl_cons, List.foldl_nil, Network.step]
    have hnew : ∀ node, (Network.initial : Network reference.crates Bool).managers node = .new := fun _ => rfl
    have hserver (network : Network reference.crates Bool) (manager : HandshakeManager) :
        (network.setManager false manager).managers true = network.managers true :=
      network.managers_setManager_of_ne (by decide) manager
    have hclient (network : Network reference.crates Bool) (manager : HandshakeManager) :
        (network.setManager true manager).managers false = network.managers false :=
      network.managers_setManager_of_ne (by decide) manager
    rw [hnew, hprobe, final_ok, hserver, hnew, server_acks, final_ok, hclient, Network.managers_setManager_self,
      hfinish, final_ok, hserver, Network.managers_setManager_self, hserve, hservice, final_ok]
  rw [hrun]
  exact ⟨rfl, rfl, rfl, rfl⟩

/-- The finish-ack that completes the client's handshake; whoever knows the secret
    of the key that the client encapsulated to can compute it from the server's. -/
def finishAckBytes (key : UInt8) (inserted : Bytes) : Bytes :=
  let transcript_hash := (sent key inserted).transcriptHash reference.crates
  HandshakeFinishAck.codec.encode (finishAckMessage (keyJson key) transcript_hash
    (compute_server_mac reference.crates (reference.secret key 9) transcript_hash)
    (reference.signature 2 (tagged SIG_CTX_HANDSHAKE transcript_hash.val)) 0)

theorem client_accepts {key : UInt8} {inserted : Bytes}
    (hread : HandshakeAck.codec.decodePrefix (inserted ++ ackBytes 2) = some (ack key)) :
    ∃ session after, HandshakeManager.process_finish_ack reference.crates serverAddr (finishAckBytes key inserted) 0
        ((Network.run (events key inserted)).managers false) = .ok session after ∧
      session.peer_sig_public_key = server.sig_public_key_bytes := by
  rw [(run_events hread).1]
  refine ⟨_, _, HandshakeManager.process_finish_ack_eq_ok_iff.mpr ⟨_, sent key inserted,
    HandshakeFinishAck.codec.decodePrefix_encode_nil _, ⟨rfl, rfl, fresh⟩,
    HandshakeManager.pending_setPending_self _ _, rfl, rfl, reference.sig_verify_signature 2 _, rfl, rfl⟩, rfl⟩

theorem ackBytes_length_pos (key : UInt8) : 0 < (ackBytes key).length := by
  simp only [ackBytes, HandshakeAck.codec, Codec.record_encode, Codec.pair_encode, bytes_encode,
    List.length_append, u64_encode_length]
  omega

/-- The client reads the ack that comes first. -/
theorem reads_ack (key : UInt8) (rest : Bytes) :
    HandshakeAck.codec.decodePrefix (ackBytes key ++ rest) = some (ack key) := by
  unfold ackBytes
  exact HandshakeAck.codec.decodePrefix_encode _ _

theorem reads_plain_ack : HandshakeAck.codec.decodePrefix ([] ++ ackBytes 2) = some (ack 2) := by
  unfold ackBytes
  rw [List.nil_append]
  exact HandshakeAck.codec.decodePrefix_encode_nil _

/-- The plain handshake: nothing is inserted. -/
theorem client_accepts_plain :
    ∃ session after, HandshakeManager.process_finish_ack reference.crates serverAddr (finishAckBytes 2 []) 0
        ((Network.run (events 2 [])).managers false) = .ok session after ∧
      session.peer_sig_public_key = server.sig_public_key_bytes :=
  client_accepts reads_plain_ack

/-- The one transcript of the run. -/
theorem transcriptInputs_eq {key : UInt8} {inserted : Bytes}
    (hread : HandshakeAck.codec.decodePrefix (inserted ++ ackBytes 2) = some (ack key)) {input : Bytes}
    (h : input ∈ (Network.run (events key inserted)).transcriptInputs) :
    input = transcriptInput (sent key inserted).probe_bytes (sent key inserted).ack_bytes
      (sent key inserted).finish_bytes := by
  obtain ⟨hclient, hserver, _, hservices⟩ := run_events hread
  have hempty : ∀ addr : Str, HandshakeManager.new.pending[addr]? = none := fun _ => ExtHashMap.getElem?_empty
  rcases h with ⟨other, hother, rfl⟩ | ⟨node, addr, other, hother, rfl⟩
  · rw [hservices] at hother
    rw [List.mem_singleton.mp hother]
    exact transcriptInput_eq key inserted
  · cases node with
    | false =>
      rw [hclient] at hother
      rcases getElem?_insert_cases hother with ⟨_, hsent⟩ | hold
      · cases hsent
        rfl
      · rcases getElem?_insert_cases hold with ⟨_, hsent⟩ | hold
        · cases hsent
        · rw [hempty] at hold
          cases hold
    | true =>
      rw [hserver] at hother
      rcases getElem?_insert_cases (getElem?_of_getElem?_erase hother) with ⟨_, hsent⟩ | hold
      · cases hsent
      · rw [hempty] at hold
        cases hold

/-- If the network agreed, the client would have met the one answered finish. -/
theorem agreement_of_agrees {key : UInt8} {inserted : Bytes}
    (hread : HandshakeAck.codec.decodePrefix (inserted ++ ackBytes 2) = some (ack key))
    (hagrees : (Network.run (events key inserted)).Agrees {server.sig_public_key_bytes}) :
    Agreement reference.crates (sent key inserted) (service key inserted) := by
  obtain ⟨session, after, haccept, hkey⟩ := client_accepts hread
  obtain ⟨hclient, _, hsignings, hservices⟩ := run_events hread
  have hcollision : Set.InjOn reference.crates.sha256 (Network.run (events key inserted)).transcriptInputs := by
    intro input hinput input' hinput' _
    rw [transcriptInputs_eq hread hinput, transcriptInputs_eq hread hinput']
  obtain ⟨other, found, hother, hfound, _, hagreement⟩ := hagrees false serverAddr (finishAckBytes key inserted) 0
    session after haccept hkey hcollision (by
      intro finish_ack hdecode _
      obtain rfl := Option.some.inj ((HandshakeFinishAck.codec.decodePrefix_encode_nil _).symm.trans hdecode)
      rw [hkey, hsignings]
      refine ⟨_, List.mem_singleton_self _, rfl, ?_⟩
      rw [transcriptHash_eq]
      rfl)
  rw [hclient] at hother
  rw [hservices] at hfound
  have hcontext : (clientManager key inserted).pending[serverAddr]? =
      some (.Client (.FinishSent (sent key inserted))) := HandshakeManager.pending_setPending_self _ _
  rw [hcontext] at hother
  cases hother
  obtain rfl := List.mem_singleton.mp hfound
  exact hagreement

theorem noTrailing_encode {α : Type} (codec : Codec α) (value : α) : NoTrailing codec (codec.encode value) := by
  intro other hdecode
  rw [codec.decodePrefix_encode_nil] at hdecode
  rw [Option.some.inj hdecode]

end Splice

/-- The plain handshake of nodes 1 and 2 ends in agreement. -/
theorem Network.run_agrees_reference :
    (Network.run (Splice.events 2 [])).Agrees {Splice.server.sig_public_key_bytes} ∧
      Agreement reference.crates (Splice.sent 2 []) (Splice.service 2 []) := by
  have hexact : ∀ event ∈ Splice.events 2 [], event.2.Exact := by
    intro event hevent
    simp only [Splice.events, List.mem_cons, List.not_mem_nil, or_false] at hevent
    rcases hevent with rfl | rfl | rfl | rfl
    · trivial
    · unfold Call.Exact
      rw [List.append_nil]
      exact Splice.noTrailing_encode _ _
    · unfold Call.Exact
      rw [List.nil_append]
      exact Splice.noTrailing_encode _ _
    · trivial
  have hagrees := Network.run_agrees hexact {Splice.server.sig_public_key_bytes}
  exact ⟨hagrees, Splice.agreement_of_agrees Splice.reads_plain_ack hagrees⟩

/-- An ack with the key of node 3, moved over the boundary, makes the client
    encapsulate to that key and still complete the handshake in node 2's name. -/
theorem Network.run_splice_disagrees :
    ¬ ∀ (crates : Crates) (events : List (Bool × Call crates)) (honest : Set ByteVec),
      (Network.run events).Agrees honest := by
  intro hclaim
  have hagreement := Splice.agreement_of_agrees (Splice.reads_ack 3 _)
    (hclaim reference.crates (Splice.events 3 (Splice.ackBytes 3)) _)
  -- The server holds the inserted bytes as part of the probe.
  have hprobe := hagreement.probe_bytes
  simp only [Splice.service, Splice.sent, finishSent, Splice.probeSent] at hprobe
  have hlength := congrArg List.length hprobe
  have hpositive := Splice.ackBytes_length_pos 3
  rw [List.length_append] at hlength
  omega

end witan.handshake
