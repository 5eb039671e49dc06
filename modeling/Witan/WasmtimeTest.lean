import Witan.Api.Lifecycle
import Witan.Component
import Witan.Gossip.Maintenance

open bincode fallible
open witan.types witan.error witan.identity witan.session witan.gossip
open witan.api (ApiState)
open witan.component (WitError)

namespace witan.wasmtime_test

/-- An error of the driver, with what it was doing. -/
inductive Failure where
  | guest (call : String) (error : WitError)
  | message (text : String)
  | context (text : String) (cause : Failure)

/-- A gossip node: the address that its peers use for it, and its component
    instance. -/
structure GossipNode (crates : Crates) where
  addr : Str
  state : ApiState crates

variable {crates : Crates}

namespace GossipNode

/-- Call the instance; its errors are reported under the name of the call. -/
def invoke {α : Type} (call : String) (action : EStateM WitError (ApiState crates) α) :
    EStateM Failure (GossipNode crates) α := fun node =>
  match action node.state with
  | .ok value state => .ok value { node with state }
  | .error e state => .error (.guest call e) { node with state }

def connect_peer (peer_addr : Str) (getrandom : Except String Bytes32) (now_ms : UInt64) :
    EStateM Failure (GossipNode crates) Bytes :=
  invoke "gossip_connect_peer" (component.gossip_connect_peer peer_addr getrandom now_ms)

def process_handshake_bytes (peer_addr : Str) (bytes : Bytes) (getrandom : Except String Bytes32)
    (rng : crates.OsRng) (now_ms : UInt64) : EStateM Failure (GossipNode crates) (Option Bytes) :=
  invoke "gossip_process_handshake_bytes"
    (component.gossip_process_handshake_bytes peer_addr bytes getrandom rng now_ms)

end GossipNode

/-- What the two instances draw in a handshake, and the times of its five calls. -/
structure Draws (crates : Crates) where
  client_nonce : Except String Bytes32
  server_nonce : Except String Bytes32
  rng : crates.OsRng
  connect_at : UInt64
  ack_at : UInt64
  finish_at : UInt64
  finish_ack_at : UInt64
  done_at : UInt64

def withContext {α σ : Type} (text : String) (action : EStateM Failure σ α) : EStateM Failure σ α := fun state =>
  match action state with
  | .ok value after => .ok value after
  | .error e after => .error (.context text e) after

/-- The client's part of the two nodes that a handshake works on. -/
def atClient {α : Type} (action : EStateM Failure (GossipNode crates) α) :
    EStateM Failure (GossipNode crates × GossipNode crates) α :=
  onPart Prod.fst (fun nodes client => (client, nodes.2)) action

def atServer {α : Type} (action : EStateM Failure (GossipNode crates) α) :
    EStateM Failure (GossipNode crates × GossipNode crates) α :=
  onPart Prod.snd (fun nodes server => (nodes.1, server)) action

/-- Perform the full handshake between two nodes: the client and the server. -/
def do_handshake (draws : Draws crates) : EStateM Failure (GossipNode crates × GossipNode crates) Unit := do
  let (client, server) ← get
  let client_addr := client.addr
  let server_addr := server.addr
  let probe ← withContext s!"{client_addr} connect_peer({server_addr})"
    (atClient (GossipNode.connect_peer server_addr draws.client_nonce draws.connect_at))
  let ack ← withContext s!"{server_addr} process_handshake_bytes (probe)"
    (atServer (GossipNode.process_handshake_bytes client_addr probe draws.server_nonce draws.rng draws.ack_at))
  let ack ← attempt (orFail ack (.message "server returned None for probe — expected ack bytes"))
  let finish ← withContext s!"{client_addr} process_handshake_bytes (ack)"
    (atClient (GossipNode.process_handshake_bytes server_addr ack draws.server_nonce draws.rng draws.finish_at))
  let finish ← attempt (orFail finish (.message "client returned None for ack — expected finish bytes"))
  let finish_ack ← withContext s!"{server_addr} process_handshake_bytes (finish)"
    (atServer (GossipNode.process_handshake_bytes client_addr finish draws.server_nonce draws.rng draws.finish_ack_at))
  let finish_ack ← attempt (orFail finish_ack
    (.message "server returned None for finish — expected finish_ack bytes"))
  let done ← withContext s!"{client_addr} process_handshake_bytes (finish_ack)"
    (atClient (GossipNode.process_handshake_bytes server_addr finish_ack draws.server_nonce draws.rng draws.done_at))
  attempt (failIf (done.isSome = true)
    (.message "client returned Some bytes after finish_ack — expected None (handshake complete)"))

/-- Both nonces are drawn, and every message arrives within 30 s. -/
structure Draws.Timely (draws : Draws crates) : Prop where
  client_nonce : ∃ nonce, draws.client_nonce = .ok nonce
  server_nonce : ∃ nonce, draws.server_nonce = .ok nonce
  ack : draws.ack_at.toNat - draws.connect_at.toNat ≤ 30000
  finish : draws.finish_at.toNat - draws.ack_at.toNat ≤ 30000
  finish_ack : draws.finish_ack_at.toNat - draws.finish_at.toNat ≤ 30000
  done : draws.done_at.toNat - draws.finish_ack_at.toNat ≤ 30000

section Calls

variable {α : Type} {client server after : GossipNode crates} {engine engine' : GossipEngine crates} {value : α}

/-- A call of an instance that works on its engine. -/
theorem invoke_eq_ok {node : GossipNode crates} (call : String) {f : EStateM GossipError (GossipEngine crates) α}
    (hengine : node.state.gossip_state = some engine) (h : f engine = .ok value engine') :
    GossipNode.invoke call (component.map_err (api.with_engine (api.onEngine f))) node =
      .ok value { node with state := ⟨some engine', node.state.lineage⟩ } := by
  obtain ⟨addr, gossip_state, lineage⟩ := node
  subst hengine
  unfold GossipNode.invoke component.map_err api.with_engine api.onEngine onPart
  dsimp only
  rw [h]

theorem connect_peer_eq_ok {node : GossipNode crates} {peer_addr : Str} {getrandom : Except String Bytes32}
    {now_ms : UInt64} {probe : Bytes} (hengine : node.state.gossip_state = some engine)
    (h : GossipEngine.connect_peer peer_addr getrandom now_ms engine = .ok probe engine') :
    GossipNode.connect_peer peer_addr getrandom now_ms node =
      .ok probe { node with state := ⟨some engine', node.state.lineage⟩ } := invoke_eq_ok _ hengine h

theorem process_handshake_bytes_eq_ok {node : GossipNode crates} {peer_addr : Str} {bytes : Bytes}
    {getrandom : Except String Bytes32} {rng : crates.OsRng} {now_ms : UInt64} {answer : Option Bytes}
    (hengine : node.state.gossip_state = some engine)
    (h : GossipEngine.process_handshake_bytes peer_addr bytes getrandom rng now_ms engine = .ok answer engine') :
    GossipNode.process_handshake_bytes peer_addr bytes getrandom rng now_ms node =
      .ok answer { node with state := ⟨some engine', node.state.lineage⟩ } := invoke_eq_ok _ hengine h

theorem withContext_bind {β σ : Type} {action : EStateM Failure σ α} {f : α → EStateM Failure σ β} {state middle : σ}
    {value : α} (text : String) (h : action state = .ok value middle) :
    (withContext text action >>= f) state = f value middle := by
  refine bind_of_ok ?_
  unfold withContext
  rw [h]

theorem atClient_eq_ok {action : EStateM Failure (GossipNode crates) α} (h : action client = .ok value after) :
    atClient action (client, server) = .ok value (after, server) := onPart_eq_ok_iff.mpr ⟨after, h, rfl⟩

theorem atServer_eq_ok {action : EStateM Failure (GossipNode crates) α} (h : action server = .ok value after) :
    atServer action (client, server) = .ok value (client, after) := onPart_eq_ok_iff.mpr ⟨after, h, rfl⟩

end Calls

/-- What a handshake leaves at one of its two nodes: the session for the peer, and
    everything that the node's other handshakes rely on as it was. -/
structure Joined (peer_addr : Str) (session : SessionRecord) (before after : GossipEngine crates) : Prop where
  session : after.sessions.get peer_addr = some session
  identity : after.identity = before.identity
  elsewhere : ∀ addr, addr ≠ peer_addr → after.sessions.get addr = before.sessions.get addr
  calls : ∃ calls : List (EngineCall crates), after = EngineCall.runAll calls before

/-- Two sessions of one handshake: one id, one transcript, and each names the node
    at the other end. -/
structure Paired (identity_a identity_b : NodeIdentity crates) (session_a session_b : SessionRecord) : Prop where
  session_id : session_a.session_id = session_b.session_id
  transcript_hash : session_a.transcript_hash = session_b.transcript_hash
  names_b : session_a.peer_node_id = identity_b.node_id
  key_b : session_a.peer_sig_public_key = identity_b.sig_public_key_bytes
  names_a : session_b.peer_node_id = identity_a.node_id
  key_a : session_b.peer_sig_public_key = identity_a.sig_public_key_bytes

section Completion

/-- Operations with a peer leave the sessions of the others alone. -/
theorem runAll_elsewhere {peer_addr addr : Str} (hne : addr ≠ peer_addr) (ops : List (EngineOp crates))
    (hops : ∀ op ∈ ops, op.address = some peer_addr) (engine : GossipEngine crates) :
    (EngineCall.runAll (ops.map .operation) engine).sessions.get addr = engine.sessions.get addr := by
  induction ops generalizing engine with
  | nil => rfl
  | cons op ops ih =>
    have haddress : op.address = some peer_addr := hops op List.mem_cons_self
    have hspares : op.Spares addr False engine := by
      refine ⟨?_, False.elim⟩
      rw [haddress]
      simpa using Ne.symm hne
    refine (ih (fun other hmem => hops other (List.mem_cons_of_mem _ hmem)) (op.run engine)).trans ?_
    exact hspares.untouched.session

theorem Joined.of_ops {peer_addr : Str} {session : SessionRecord} {before after : GossipEngine crates}
    (ops : List (EngineOp crates)) (hafter : EngineCall.runAll (ops.map .operation) before = after)
    (hops : ∀ op ∈ ops, op.address = some peer_addr) (hsession : after.sessions.get peer_addr = some session)
    (hidentity : after.identity = before.identity) : Joined peer_addr session before after := by
  refine ⟨hsession, hidentity, ?_, ops.map .operation, hafter.symm⟩
  intro addr hne
  rw [← hafter]
  exact runAll_elsewhere hne ops hops before

variable (hsignature : crates.SignatureCorrect) (hlengths : crates.KeyLengths) (hkem : crates.KemCorrect)
  (hjson : crates.KemRoundTrip)

include hsignature hlengths hkem hjson

/-- A timely handshake of two initialized nodes succeeds, and leaves each with a
    session for the other. -/
theorem do_handshake_completes {client server : GossipNode crates} {a b : GossipEngine crates} {draws : Draws crates}
    (ha : client.state.gossip_state = some a) (hb : server.state.gossip_state = some b)
    (hnew : a.sessions.get server.addr = none) (htimely : draws.Timely) :
    ∃ a' b' session_a session_b,
      do_handshake draws (client, server) = .ok ()
        ({ client with state := ⟨some a', client.state.lineage⟩ },
          { server with state := ⟨some b', server.state.lineage⟩ }) ∧
      Joined server.addr session_a a a' ∧ Joined client.addr session_b b b' ∧
      Paired a.identity b.identity session_a session_b := by
  obtain ⟨client_nonce, hclient_nonce⟩ := htimely.client_nonce
  obtain ⟨server_nonce, hserver_nonce⟩ := htimely.server_nonce
  obtain ⟨probe, a₁, hconnect, hidentity₁, hprobe⟩ :=
    Exchange.connect_start (x := ⟨a, b, .start⟩) client_nonce draws.connect_at hnew
  obtain ⟨ack, b₁, sent, served, kem_pk_json, hprobed, hidentity_b₁, hack⟩ :=
    hprobe.answered client.addr hjson server_nonce draws.rng htimely.ack
  obtain ⟨finish, a₂, sent₂, ciphertext_json, exchange, hacked, hidentity₂, hfinish⟩ :=
    hack.answered hlengths hkem hjson server_nonce draws.rng htimely.finish
  obtain ⟨finish_ack, b₂, session_b, signature, hfinished, hidentity_b₂, hfinish_ack⟩ :=
    hfinish.answered hlengths hsignature (.of_eq hidentity_b₁) server_nonce draws.rng htimely.finish_ack
  obtain ⟨a₃, session_a, hdone, hidentity₃, hagreed⟩ := hfinish_ack.accepted server_nonce draws.rng htimely.done
  dsimp only at hconnect hprobed hacked hfinished hdone hidentity₁ hidentity_b₁ hidentity₂ hidentity_b₂ hidentity₃
  have hjoined_a : Joined server.addr session_a a a₃ := by
    refine .of_ops [.connect_peer server.addr (.ok client_nonce) draws.connect_at,
      .process_handshake_bytes server.addr ack (.ok server_nonce) draws.rng draws.finish_at,
      .process_handshake_bytes server.addr finish_ack (.ok server_nonce) draws.rng draws.done_at] ?_ ?_ hagreed.at_a ?_
    · simp [EngineCall.runAll, EngineCall.run, EngineOp.run, hconnect, hacked, hdone]
    · simp [EngineOp.address]
    · rw [hidentity₃, hidentity₂, hidentity₁]
  have hjoined_b : Joined client.addr session_b b b₂ := by
    refine .of_ops [.process_handshake_bytes client.addr probe (.ok server_nonce) draws.rng draws.ack_at,
      .process_handshake_bytes client.addr finish (.ok server_nonce) draws.rng draws.finish_ack_at]
      ?_ ?_ hagreed.at_b ?_
    · simp [EngineCall.runAll, EngineCall.run, EngineOp.run, hprobed, hfinished]
    · simp [EngineOp.address]
    · rw [hidentity_b₂, hidentity_b₁]
  have hpaired : Paired a.identity b.identity session_a session_b := by
    have hnames_a := hagreed.names_a
    have hkey_a := hagreed.key_a
    rw [hidentity₁] at hnames_a hkey_a
    exact ⟨hagreed.session_id, hagreed.transcript_hash, hagreed.names_b, hagreed.key_b, hnames_a, hkey_a⟩
  refine ⟨a₃, b₂, session_a, session_b, ?_, hjoined_a, hjoined_b, hpaired⟩
  unfold do_handshake
  rw [hclient_nonce, hserver_nonce, get_bind]
  dsimp only
  rw [withContext_bind _ (atClient_eq_ok (connect_peer_eq_ok ha hconnect))]
  rw [withContext_bind _ (atServer_eq_ok (process_handshake_bytes_eq_ok hb hprobed)), orFail, attempt_ok_bind]
  rw [withContext_bind _ (atClient_eq_ok (process_handshake_bytes_eq_ok rfl hacked)), orFail, attempt_ok_bind]
  rw [withContext_bind _ (atServer_eq_ok (process_handshake_bytes_eq_ok rfl hfinished)), orFail, attempt_ok_bind]
  rw [withContext_bind _ (atClient_eq_ok (process_handshake_bytes_eq_ok rfl hdone))]
  rfl

end Completion

end witan.wasmtime_test
