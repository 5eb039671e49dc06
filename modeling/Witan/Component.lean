import Witan.WasiExports.Reports
import Witan.WasiExports.Hosts

open bincode fallible
open witan.types witan.error witan.gossip
open witan.api (ApiState ApiCall Answer)

namespace witan.component

variable {crates : Crates}

/-- The error type of the component's interface. -/
inductive WitError where
  | NotInitialized
  | AlreadyInitialized
  | ConfigError (message : String)
  | IdentityError (message : String)
  | HandshakeError (message : String)
  | SessionNotFound (peer_addr : String)
  | EnvelopeError (message : String)
  | SignatureInvalid
  | ReplayDetected
  | TtlExpired
  | PeerNotFound (peer_addr : String)
  | QuorumNotReached
  | SerializationError (message : String)
  | CryptoError (message : String)
  | InvalidInput (message : String)
  deriving DecidableEq

/-- The conversion `From<GossipError>`. -/
def WitError.ofGossipError : GossipError → WitError
  | .NotInitialized => .NotInitialized
  | .AlreadyInitialized => .AlreadyInitialized
  | .ConfigError s => .ConfigError s
  | .IdentityError s => .IdentityError s
  | .HandshakeError s => .HandshakeError s
  | .SessionNotFound s => .SessionNotFound s
  | .EnvelopeError s => .EnvelopeError s
  | .SignatureInvalid => .SignatureInvalid
  | .ReplayDetected => .ReplayDetected
  | .TtlExpired => .TtlExpired
  | .PeerNotFound s => .PeerNotFound s
  | .QuorumNotReached => .QuorumNotReached
  | .SerializationError s => .SerializationError s
  | .CryptoError s => .CryptoError s
  | .InvalidInput s => .InvalidInput s

/-- Delegate to the API and convert its error. -/
def map_err {α : Type} (call : EStateM GossipError (ApiState crates) α) : EStateM WitError (ApiState crates) α :=
  fun state => match call state with
  | .ok value after => .ok value after
  | .error e after => .error (.ofGossipError e) after

section GossipProtocol

def gossip_init (config_json : String) (kem_rng sig_rng : crates.OsRng) : EStateM WitError (ApiState crates) Unit :=
  map_err (api.gossip_init config_json kem_rng sig_rng)

/-- The message id is returned as a list of bytes. -/
def gossip_publish (payload_type_id : UInt8) (payload : ByteVec) (now_ms : UInt64) :
    EStateM WitError (ApiState crates) Bytes :=
  map_err ((·.val) <$> api.gossip_publish payload_type_id payload now_ms)

def gossip_connect_peer (peer_addr : Str) (getrandom : Except String Bytes32) (now_ms : UInt64) :
    EStateM WitError (ApiState crates) Bytes :=
  map_err (api.gossip_connect_peer peer_addr getrandom now_ms)

def gossip_disconnect_peer (peer_addr : Str) : EStateM WitError (ApiState crates) Unit :=
  map_err (api.gossip_disconnect_peer peer_addr)

def gossip_get_peers (order : IterationOrder) : EStateM WitError (ApiState crates) Str :=
  map_err (api.gossip_get_peers order)

def gossip_get_session (peer_addr : Str) : EStateM WitError (ApiState crates) Str :=
  map_err (api.gossip_get_session peer_addr)

def gossip_get_node_identity : EStateM WitError (ApiState crates) Str := map_err api.gossip_get_node_identity

def gossip_rotate_keys (kem_rng sig_rng : crates.OsRng) : EStateM WitError (ApiState crates) Str :=
  map_err (api.gossip_rotate_keys kem_rng sig_rng)

def gossip_verify_envelope (envelope_bytes : Bytes) (now_ms : UInt64) : EStateM WitError (ApiState crates) Bool :=
  map_err (api.gossip_verify_envelope envelope_bytes now_ms)

def gossip_encode_envelope (payload_type_id : UInt8) (payload : ByteVec) (now_ms : UInt64) :
    EStateM WitError (ApiState crates) Bytes :=
  map_err (api.gossip_encode_envelope payload_type_id payload now_ms)

def gossip_decode_envelope (bytes : Bytes) : EStateM WitError (ApiState crates) Str :=
  map_err (api.gossip_decode_envelope bytes)

def gossip_get_stats (order : IterationOrder) (now_ms : UInt64) : EStateM WitError (ApiState crates) Str :=
  map_err (api.gossip_get_stats order now_ms)

def gossip_process_handshake_bytes (peer_addr : Str) (bytes : Bytes) (getrandom : Except String Bytes32)
    (rng : crates.OsRng) (now_ms : UInt64) : EStateM WitError (ApiState crates) (Option Bytes) :=
  map_err (api.gossip_process_handshake_bytes peer_addr bytes getrandom rng now_ms)

def gossip_build_handshake_ack (peer_addr : Str) (probe_bytes : Bytes) (getrandom : Except String Bytes32)
    (now_ms : UInt64) : EStateM WitError (ApiState crates) Bytes :=
  map_err (api.gossip_build_handshake_ack peer_addr probe_bytes getrandom now_ms)

def gossip_build_finish_ack (peer_addr : Str) (finish_bytes : Bytes) (now_ms : UInt64) :
    EStateM WitError (ApiState crates) Bytes :=
  map_err (api.gossip_build_finish_ack peer_addr finish_bytes now_ms)

def gossip_verify_signature (public_key_bytes : ByteVec) (message : Bytes) (signature : ByteVec) (context : Bytes) :
    EStateM WitError (ApiState crates) Bool :=
  map_err (attempt (api.gossip_verify_signature crates public_key_bytes message signature context))

def gossip_get_version : Str := api.gossip_get_version

end GossipProtocol

section KeyLineageInterface

def gossip_init_with_lineage (config_json : String) (lineage : Bytes) : EStateM WitError (ApiState crates) Unit :=
  map_err (api.gossip_init_with_lineage config_json lineage)

def gossip_rotate_keys_under_id (kem_seed sig_seed : Bytes) (key_epoch : Str) (next_key_commitment : Option Bytes)
    (now_ms : UInt64) : EStateM WitError (ApiState crates) Bytes :=
  map_err (api.gossip_rotate_keys_under_id kem_seed sig_seed key_epoch next_key_commitment now_ms)

def gossip_recover_lineage (lineage kem_seed sig_seed : Bytes) (key_epoch : Str) (next_key_commitment : Option Bytes)
    (now_ms : UInt64) : EStateM WitError (ApiState crates) Bytes :=
  map_err (attempt (api.gossip_recover_lineage crates lineage kem_seed sig_seed key_epoch next_key_commitment now_ms))

def gossip_get_key_lineage : EStateM WitError (ApiState crates) Bytes := map_err api.gossip_get_key_lineage

def gossip_verify_key_lineage (lineage : Bytes) : EStateM WitError (ApiState crates) Str :=
  map_err (attempt (api.gossip_verify_key_lineage crates lineage))

def gossip_verify_envelope_from_lineage (envelope_bytes lineage : Bytes) (now_ms : UInt64) :
    EStateM WitError (ApiState crates) Bool :=
  map_err (api.gossip_verify_envelope_from_lineage envelope_bytes lineage now_ms)

def gossip_key_commitment (sig_seed : Bytes) : EStateM WitError (ApiState crates) Bytes :=
  map_err (attempt ((api.gossip_key_commitment crates sig_seed).map (·.val)))

end KeyLineageInterface

/-- The export that a call of the API is made through, and its answer. -/
def perform : ApiCall crates → EStateM WitError (ApiState crates) Answer
  | .gossip_init config_json kem_rng sig_rng => (fun _ => .unit) <$> gossip_init config_json kem_rng sig_rng
  | .gossip_init_with_lineage config_json lineage => (fun _ => .unit) <$> gossip_init_with_lineage config_json lineage
  | .gossip_publish payload_type payload now_ms => .bytes <$> gossip_publish payload_type payload now_ms
  | .gossip_connect_peer peer_addr getrandom now_ms => .bytes <$> gossip_connect_peer peer_addr getrandom now_ms
  | .gossip_disconnect_peer peer_addr => (fun _ => .unit) <$> gossip_disconnect_peer peer_addr
  | .gossip_get_peers order => .text <$> gossip_get_peers order
  | .gossip_get_node_identity => .text <$> gossip_get_node_identity
  | .gossip_verify_envelope envelope_bytes now_ms => .flag <$> gossip_verify_envelope envelope_bytes now_ms
  | .gossip_encode_envelope payload_type payload now_ms => .bytes <$> gossip_encode_envelope payload_type payload now_ms
  | .gossip_decode_envelope bytes => .text <$> gossip_decode_envelope bytes
  | .gossip_get_stats order now_ms => .text <$> gossip_get_stats order now_ms
  | .gossip_process_handshake_bytes peer_addr bytes getrandom rng now_ms =>
    .response <$> gossip_process_handshake_bytes peer_addr bytes getrandom rng now_ms
  | .gossip_build_handshake_ack peer_addr probe_bytes getrandom now_ms =>
    .bytes <$> gossip_build_handshake_ack peer_addr probe_bytes getrandom now_ms
  | .gossip_build_finish_ack peer_addr finish_bytes now_ms =>
    .bytes <$> gossip_build_finish_ack peer_addr finish_bytes now_ms
  | .gossip_get_session peer_addr => .text <$> gossip_get_session peer_addr
  | .gossip_rotate_keys kem_rng sig_rng => .text <$> gossip_rotate_keys kem_rng sig_rng
  | .gossip_rotate_keys_under_id kem_seed sig_seed key_epoch next_key_commitment now_ms =>
    .bytes <$> gossip_rotate_keys_under_id kem_seed sig_seed key_epoch next_key_commitment now_ms
  | .gossip_get_key_lineage => .bytes <$> gossip_get_key_lineage
  | .gossip_verify_envelope_from_lineage envelope_bytes lineage now_ms =>
    .flag <$> gossip_verify_envelope_from_lineage envelope_bytes lineage now_ms
  | .gossip_recover_lineage lineage kem_seed sig_seed key_epoch next_key_commitment now_ms =>
    .bytes <$> gossip_recover_lineage lineage kem_seed sig_seed key_epoch next_key_commitment now_ms
  | .gossip_verify_key_lineage lineage => .text <$> gossip_verify_key_lineage lineage
  | .gossip_key_commitment sig_seed => .bytes <$> gossip_key_commitment sig_seed
  | .gossip_verify_signature public_key_bytes message signature context =>
    .flag <$> gossip_verify_signature public_key_bytes message signature context

theorem map_map_err {α : Type} (answer : α → Answer) (call : EStateM GossipError (ApiState crates) α) :
    answer <$> map_err call = map_err (api.answering answer call) := by
  funext state
  change EStateM.map answer (map_err call) state = _
  unfold EStateM.map map_err api.answering
  cases call state <;> rfl

theorem answering_map {α β : Type} (answer : β → Answer) (f : α → β) (call : EStateM GossipError (ApiState crates) α) :
    api.answering answer (f <$> call) = api.answering (fun value => answer (f value)) call := by
  funext state
  have hmap : (f <$> call) state = EStateM.map f call state := rfl
  unfold api.answering
  rw [hmap]
  unfold EStateM.map
  cases call state <;> rfl

theorem answering_attempt_map {α β : Type} (answer : β → Answer) (f : α → β) (result : Except GossipError α) :
    (api.answering answer (attempt (result.map f)) : EStateM GossipError (ApiState crates) Answer) =
      api.answering (fun value => answer (f value)) (attempt result) := by
  cases result <;> rfl

/-- Every export answers what the API answers, with the error converted. -/
theorem perform_eq (call : ApiCall crates) : perform call = map_err call.perform := by
  cases call with
  | gossip_publish =>
    exact (map_map_err .bytes _).trans (congrArg map_err (answering_map .bytes (fun id : Bytes32 => id.val) _))
  | gossip_key_commitment =>
    exact (map_map_err .bytes _).trans (congrArg map_err (answering_attempt_map .bytes (fun c : Bytes32 => c.val) _))
  | _ => exact map_map_err _ _

/-- The version is told without the API's state. -/
def performRequest : Option (ApiCall crates) → EStateM WitError (ApiState crates) Answer
  | some call => perform call
  | none => pure (.text gossip_get_version)

/-- What a host of the component is answered, call by call. -/
def answers : List (Option (ApiCall crates)) → ApiState crates → List (Except WitError Answer)
  | [], _ => []
  | request :: requests, state =>
    match performRequest request state with
    | .ok answer after => .ok answer :: answers requests after
    | .error e after => .error e :: answers requests after

/-- The state after the calls. -/
def stateAfter (requests : List (Option (ApiCall crates))) (state : ApiState crates) : ApiState crates :=
  requests.foldl (fun state request => final (performRequest request state)) state

/-- The UTF-8 bytes of an error report give back the error. -/
def readReport (bytes : Bytes) : Option GossipError :=
  (String.fromUTF8? ⟨bytes.toArray⟩).bind fun report => wasi_exports.readError report.toList

/-- A component's answer and a C-ABI reply say the same: equal values, texts by
    their UTF-8 bytes, or the same error, which the report gives back wherever it
    can be written. -/
def Agrees : Except WitError Answer → Except Bytes wasi_exports.Reply → Prop
  | .ok answer, .ok reply => reply = wasi_exports.ofAnswer answer
  | .error w, .error report => ∃ e, w = .ofGossipError e ∧
      ((json.quote e.to_string).utf8ByteSize < 2 ^ 64 → readReport report = some e)
  | _, _ => False

theorem readReport_utf8 (report : String) :
    readReport report.toByteArray.data.toList = wasi_exports.readError report.toList := by
  have hvalid : (ByteArray.mk report.toByteArray.data.toList.toArray).IsValidUTF8 := report.isValidUTF8
  unfold readReport String.fromUTF8?
  rw [dif_pos hvalid]
  rfl

theorem performRequest_eq (request : Option (ApiCall crates)) :
    performRequest request = map_err (wasi_exports.performRequest request) := by
  cases request with
  | none => rfl
  | some call => exact perform_eq call

theorem final_map_err (call : EStateM GossipError (ApiState crates) Answer) (state : ApiState crates) :
    final (map_err call state) = final (call state) := by
  unfold map_err
  cases call state <;> rfl

/-- On the same requests, the two surfaces answer alike. -/
theorem answers_agree (hcrates : crates.JsonLiterals) (requests : List (Option (ApiCall crates)))
    (state : ApiState crates) :
    List.Forall₂ Agrees (answers requests state) (wasi_exports.replies requests state) := by
  induction requests generalizing state with
  | nil => exact .nil
  | cons request requests ih =>
    unfold answers wasi_exports.replies
    rw [performRequest_eq]
    unfold map_err
    cases wasi_exports.performRequest request state with
    | ok answer after => exact .cons rfl (ih after)
    | error e after =>
      refine .cons ⟨e, rfl, fun hfits => ?_⟩ (ih after)
      rw [readReport_utf8]
      exact wasi_exports.readError_error_to_json hcrates hfits

theorem stateAfter_eq (requests : List (Option (ApiCall crates))) (state : ApiState crates) :
    stateAfter requests state = ApiCall.runAll (requests.filterMap id) state := by
  induction requests generalizing state with
  | nil => rfl
  | cons request requests ih =>
    have hstep : final (performRequest request state) = ApiCall.runAll request.toList state := by
      rw [performRequest_eq, final_map_err, wasi_exports.final_performRequest]
    refine (ih (final (performRequest request state))).trans ?_
    rw [hstep, List.filterMap_cons]
    cases request <;> rfl

/-- The two surfaces of the component are one: whatever a host does over the C-ABI,
    a host of the component that makes the same calls from the same state is
    answered alike, errors included, and ends in the same state. -/
theorem surfaces_agree {inst inst' : wasi_exports.Instance crates} {steps : List (wasi_exports.HostStep crates)}
    {log : List (wasi_exports.Entry crates)} (hcrates : crates.JsonLiterals)
    (h : wasi_exports.HostRun inst steps log inst') :
    List.Forall₂ Agrees (answers (log.map (·.request)) inst.state) (log.map (·.reply)) ∧
      stateAfter (log.map (·.request)) inst.state = inst'.state := by
  constructor
  · rw [h.replies_eq]
    exact answers_agree hcrates _ _
  · rw [h.state_eq, stateAfter_eq, List.filterMap_map]
    rfl

/-- The crates with a serializer that writes strings as they are to be written. -/
def literalCrates : Crates := { reference.crates with
  json_to_string
    | .string text =>
      if h : (json.quote text).utf8ByteSize < 2 ^ 64 then .ok ⟨json.quote text, h⟩ else .error "out of memory"
    | value => reference.crates.json_to_string value }

theorem literalCrates_jsonLiterals : literalCrates.JsonLiterals := fun _ h => dif_pos h

/-- A component over these crates starts as well. -/
theorem literalCrates_init :
    ∃ (engine : GossipEngine literalCrates) (lineage : rotation.KeyLineage),
      api.gossip_init (reference.keyJson 1).val (0 : UInt8) (0 : UInt8) .fresh =
        .ok () ⟨some engine, some lineage⟩ ∧ engine.sessions.get (reference.keyJson 1) = none := by
  have hlengths : literalCrates.KeyLengths := ⟨reference.keyLengths.sig, reference.keyLengths.kem⟩
  let node : identity.NodeIdentity literalCrates :=
    ⟨(reference.node 1).node_id, (1 : UInt8), (1 : UInt8), config.ephemeralRuntime⟩
  have hkeypairs : identity.NodeIdentity.of_keypairs literalCrates (1 : UInt8) (1 : UInt8) config.ephemeralRuntime =
      .ok node :=
    identity.NodeIdentity.of_keypairs_eq_ok_iff.mpr ⟨_, reference.kem_public_key_bytes_eq 1, rfl⟩
  have hrestore : api.restore literalCrates (reference.resolved 1) ⟨reference.kemSeed 1, List.length_replicate⟩
      ⟨reference.sigSeed 1, List.length_replicate⟩ = .ok node := by
    unfold api.restore identity.NodeIdentity.from_seeds
    rw [except_bind_eq_ok_iff]
    refine ⟨(1 : UInt8), rfl, ?_⟩
    rw [except_bind_eq_ok_iff]
    exact ⟨(1 : UInt8), rfl, hkeypairs⟩
  have hrestores : api.Restores literalCrates (reference.keyJson 1).val (reference.resolved 1) node :=
    ⟨reference.config 1, _, _, reference.from_json_text 1, reference.resolve_config 1, rfl, rfl, hrestore⟩
  obtain ⟨lineage, hlineage⟩ := api.from_identity_of_keypairs hlengths hkeypairs
  exact ⟨.new (reference.resolved 1) node, lineage, hrestores.gossip_init_eq_ok hlineage _ _,
    GossipEngine.sessions_new _ _ _⟩

/-- The same host over both surfaces: it asks for the version, starts node 1 and is
    refused a disconnection. -/
theorem surfaces_agree_reference :
    ∃ (steps : List (wasi_exports.HostStep literalCrates)) (log : List (wasi_exports.Entry literalCrates))
      (last : wasi_exports.Instance literalCrates),
      wasi_exports.HostRun (wasi_exports.freshInstance literalCrates) steps log last ∧
      log.map (·.request) = [none, some (.gossip_init (reference.keyJson 1).val (0 : UInt8) (0 : UInt8)),
        some (.gossip_disconnect_peer (reference.keyJson 1))] ∧
      log.map (·.reply) = [.ok (.bytes gossip_get_version.bytes.val), .ok .unit,
        .error (wasi_exports.error_to_json literalCrates
          (.PeerNotFound (reference.keyJson 1).val)).toByteArray.data.toList] ∧
      List.Forall₂ Agrees (answers (log.map (·.request)) .fresh) (log.map (·.reply)) ∧
      stateAfter (log.map (·.request)) .fresh = last.state := by
  obtain ⟨next, hnext, hfresh, htop⟩ := wasi_exports.version_runs literalCrates
  obtain ⟨engine, lineage, hinit, hunknown⟩ := literalCrates_init
  have hlength : (reference.keyJson 1).bytes.val.length = 2 := reference.text_bytes_length [1] (by decide)
  have hreport : (wasi_exports.error_to_json literalCrates
      (.PeerNotFound (reference.keyJson 1).val)).toByteArray.data.toList.length < 2 ^ 20 := by
    decide +kernel
  obtain ⟨steps, log, last, hrun, hrequests, _, _⟩ := wasi_exports.HostRun.starts next hfresh hinit hunknown
    (by omega) (by omega) (by omega) hreport
  have hversion : wasi_exports.HostRun (wasi_exports.freshInstance literalCrates)
      [.call .gossip_get_version_wasi 8 wasi_exports.bumpRuntime] _ next :=
    .call (wasi_exports.freshInstance_slot _) (fun _ hrange => nomatch hrange) hnext .done
  have hwhole := hversion.append hrun
  obtain ⟨hagree, hstate⟩ := surfaces_agree literalCrates_jsonLiterals hwhole
  refine ⟨_, _, last, hwhole, congrArg (none :: ·) hrequests, ?_, hagree, hstate⟩
  refine hwhole.replies_eq.trans ?_
  change wasi_exports.replies (none :: log.map (·.request)) .fresh = _
  rw [hrequests]
  exact wasi_exports.replies_starts hinit hunknown

end witan.component
