import Witan.Gossip.Untouched

open bincode fallible maps
open witan.types witan.error witan.identity witan.session witan.handshake

namespace witan.gossip

variable {crates : Crates}

/-! An engine `a` connects to an engine `b`. The four messages travel between them
while both engines do other work. -/

/-- A message on its way, with the time it was built at. -/
structure InFlight where
  bytes : Bytes
  sent_at_ms : UInt64

/-- How far the exchange is: the message that is on its way. -/
inductive Stage where
  | start
  | probe (message : InFlight)
  | ack (message : InFlight)
  | finish (message : InFlight)
  | finishAck (message : InFlight)
  | done

namespace Stage

/-- The steps that were taken. -/
def taken : Stage → Nat
  | start => 0
  | probe _ => 1
  | ack _ => 2
  | finish _ => 3
  | finishAck _ => 4
  | done => 5

def message? : Stage → Option InFlight
  | start => none
  | probe message => some message
  | ack message => some message
  | finish message => some message
  | finishAck message => some message
  | done => none

/-- The client has a context: it waits for the ack or for the finish-ack. -/
def ClientWaits : Stage → Prop
  | start => False
  | done => False
  | _ => True

/-- The server has a context: it waits for the finish. -/
def ServerWaits : Stage → Prop
  | ack _ => True
  | finish _ => True
  | _ => False

end Stage

structure Exchange (crates : Crates) where
  a : GossipEngine crates
  b : GossipEngine crates
  stage : Stage

/-- An operation of one engine that is not part of the exchange, or the next step of
    the exchange with the randomness it draws. -/
inductive Move (crates : Crates) where
  | atA (op : EngineOp crates)
  | atB (op : EngineOp crates)
  | connect (client_nonce : Bytes32) (now_ms : UInt64)
  | deliver (server_nonce : Bytes32) (rng : crates.OsRng) (now_ms : UInt64)

def Move.isExchange : Move crates → Bool
  | .atA _ => false
  | .atB _ => false
  | .connect _ _ => true
  | .deliver _ _ _ => true

namespace Exchange

/-! `addr_b` is the name that `a` uses for `b`; `addr_a` is the one that `b` uses
for `a`. -/

variable (addr_b addr_a : Str)

/-- One move; `none` if a step of the exchange fails or is not possible now. -/
def step (x : Exchange crates) : Move crates → Option (Exchange crates)
  | .atA op => some { x with a := op.run x.a }
  | .atB op => some { x with b := op.run x.b }
  | .connect client_nonce now_ms =>
    match x.stage, GossipEngine.connect_peer addr_b (.ok client_nonce) now_ms x.a with
    | .start, .ok probe_bytes a => some { x with a, stage := .probe ⟨probe_bytes, now_ms⟩ }
    | _, _ => none
  | .deliver server_nonce rng now_ms =>
    let receive (addr : Str) (message : InFlight) :=
      GossipEngine.process_handshake_bytes addr message.bytes (.ok server_nonce) rng now_ms
    match x.stage with
    | .probe message =>
      match receive addr_a message x.b with
      | .ok (some ack_bytes) b => some { x with b, stage := .ack ⟨ack_bytes, now_ms⟩ }
      | _ => none
    | .ack message =>
      match receive addr_b message x.a with
      | .ok (some finish_bytes) a => some { x with a, stage := .finish ⟨finish_bytes, now_ms⟩ }
      | _ => none
    | .finish message =>
      match receive addr_a message x.b with
      | .ok (some finish_ack_bytes) b => some { x with b, stage := .finishAck ⟨finish_ack_bytes, now_ms⟩ }
      | _ => none
    | .finishAck message =>
      match receive addr_b message x.a with
      | .ok none a => some { x with a, stage := .done }
      | _ => none
    | _ => none

def run (x : Exchange crates) : List (Move crates) → Option (Exchange crates)
  | [] => some x
  | move :: moves => (x.step addr_b addr_a move).bind (·.run moves)

/-- The move is the next step of the exchange, on a message that is at most 30 s
    old, or it is an operation that does not touch the exchange's address. -/
def Allowed (x : Exchange crates) : Move crates → Prop
  | .atA op => op.Spares addr_b x.stage.ClientWaits x.a
  | .atB op => op.Spares addr_a x.stage.ServerWaits x.b
  | .connect _ _ => x.stage = .start
  | .deliver _ _ now_ms => ∃ message, x.stage.message? = some message ∧
      now_ms.toNat - message.sent_at_ms.toNat ≤ 30000

/-- Every move is allowed where it is made. -/
def AllowedRun (x : Exchange crates) : List (Move crates) → Prop
  | [] => True
  | move :: moves => x.Allowed addr_b addr_a move ∧
      ∀ y, x.step addr_b addr_a move = some y → y.AllowedRun moves

variable (identity_a identity_b : NodeIdentity crates)

/-- Both engines hold a session for the other under one id and one transcript, and
    each session names the other engine. -/
structure Agreed (x : Exchange crates) (session_a session_b : SessionRecord) : Prop where
  at_a : x.a.sessions.get addr_b = some session_a
  at_b : x.b.sessions.get addr_a = some session_b
  session_id : session_a.session_id = session_b.session_id
  transcript_hash : session_a.transcript_hash = session_b.transcript_hash
  names_b : session_a.peer_node_id = identity_b.node_id
  key_b : session_a.peer_sig_public_key = identity_b.sig_public_key_bytes
  names_a : session_b.peer_node_id = identity_a.node_id
  key_a : session_b.peer_sig_public_key = identity_a.sig_public_key_bytes

/-! What the contexts and the message on its way have to do with each other. -/

structure ProbeStage (x : Exchange crates) (message : InFlight) (nonce : Bytes32) : Prop where
  bytes : message.bytes =
    HandshakeProbe.codec.encode (probeMessage identity_a addr_b nonce message.sent_at_ms)
  client : x.a.handshakes.pending[addr_b]? =
    some (.Client (.ProbeSent ⟨nonce, message.bytes, message.sent_at_ms⟩))

structure AckStage (x : Exchange crates) (message : InFlight) (sent : ProbeSent) (served : AckSent)
    (kem_pk_json : Str) : Prop where
  json : crates.public_key_to_json (crates.kem_public_key identity_b.kem_keypair) = .ok kem_pk_json
  bytes : message.bytes = HandshakeAck.codec.encode
    (ackMessage identity_b sent.client_nonce served.server_nonce kem_pk_json message.sent_at_ms)
  client : x.a.handshakes.pending[addr_b]? = some (.Client (.ProbeSent sent))
  server : x.b.handshakes.pending[addr_a]? = some (.Server (.AckSent served))
  probe_bytes : served.probe_bytes = sent.probe_bytes
  ack_bytes : served.ack_bytes = message.bytes

/-- The client waits for the finish-ack of the engine that it connected to. -/
structure AwaitsFinishAck (a : GossipEngine crates) (sent : FinishSent) : Prop where
  client : a.handshakes.pending[addr_b]? = some (.Client (.FinishSent sent))
  server_node_id : sent.server_node_id = identity_b.node_id
  server_sig_pk : sent.server_sig_pk = identity_b.sig_public_key_bytes

structure FinishStage (x : Exchange crates) (message : InFlight) (sent : FinishSent) (served : AckSent)
    (ciphertext_json : Str) (exchange : Decapsulation crates identity_b.kem_keypair ciphertext_json) : Prop where
  awaits : AwaitsFinishAck addr_b identity_b x.a sent
  bytes : message.bytes =
    HandshakeFinish.codec.encode (finishMessage identity_a ciphertext_json message.sent_at_ms)
  server : x.b.handshakes.pending[addr_a]? = some (.Server (.AckSent served))
  secret : exchange.secret_32b = sent.shared_secret_32b
  probe_bytes : served.probe_bytes = sent.probe_bytes
  ack_bytes : served.ack_bytes = sent.ack_bytes
  finish_bytes : sent.finish_bytes = message.bytes

structure FinishAckStage (x : Exchange crates) (message : InFlight) (sent : FinishSent) (session : SessionRecord)
    (signature : ByteVec) : Prop where
  awaits : AwaitsFinishAck addr_b identity_b x.a sent
  bytes : message.bytes = HandshakeFinishAck.codec.encode (finishAckMessage session.session_id
    (sent.transcriptHash crates)
    (compute_server_mac crates sent.shared_secret_32b (sent.transcriptHash crates)) signature message.sent_at_ms)
  verifies : crates.sig_verify identity_b.sig_public_key_bytes
    (tagged SIG_CTX_HANDSHAKE (sent.transcriptHash crates).val) signature = .ok ()
  at_b : x.b.sessions.get addr_a = some session
  transcript_hash : session.transcript_hash = sent.transcriptHash crates
  names_a : session.peer_node_id = identity_a.node_id
  key_a : session.peer_sig_public_key = identity_a.sig_public_key_bytes

/-- The invariant of the exchange, stage by stage. -/
def AtStage (x : Exchange crates) : Prop :=
  match x.stage with
  | .start => x.a.sessions.get addr_b = none
  | .probe message => ∃ nonce, x.ProbeStage addr_b identity_a message nonce
  | .ack message => ∃ sent served kem_pk_json,
      x.AckStage addr_b addr_a identity_b message sent served kem_pk_json
  | .finish message => ∃ sent served ciphertext_json exchange,
      x.FinishStage addr_b addr_a identity_a identity_b message sent served ciphertext_json exchange
  | .finishAck message => ∃ sent session signature,
      x.FinishAckStage addr_b addr_a identity_a identity_b message sent session signature
  | .done => ∃ session_a session_b, x.Agreed addr_b addr_a identity_a identity_b session_a session_b

/-- Two identities with the same keys. -/
structure SameKeys (first second : NodeIdentity crates) : Prop where
  kem_keypair : first.kem_keypair = second.kem_keypair
  sig_keypair : first.sig_keypair = second.sig_keypair

structure Consistent (x : Exchange crates) : Prop where
  is_a : x.a.identity = identity_a
  is_b : x.b.identity = identity_b
  stage : x.AtStage addr_b addr_a identity_a identity_b

/-- The exchange can go on. The identities are those that the last messages were
    built with; until the server has answered the finish, it must have kept the keys
    of its ack. -/
structure Resumes (x : Exchange crates) : Prop where
  keys : x.stage.ServerWaits → SameKeys x.b.identity identity_b
  stage : x.AtStage addr_b addr_a identity_a identity_b

end Exchange

end witan.gossip
