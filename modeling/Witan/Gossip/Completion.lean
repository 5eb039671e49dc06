import Witan.Gossip.Advances
import Witan.Rotation.Reachability

open bincode
open witan.types witan.identity witan.handshake

namespace witan.gossip

namespace Exchange

variable {crates : Crates} {addr_b addr_a : Str} {identity_a identity_b : NodeIdentity crates}
  {x : Exchange crates}

section Runs

variable (hsignature : crates.SignatureCorrect) (hlengths : crates.KeyLengths) (hkem : crates.KemCorrect)
  (hjson : crates.KemRoundTrip)

include hsignature hlengths hkem hjson

/-- The message on its way is accepted while it is fresh. The next one is built with
    the identity that its sender has by then. -/
theorem Resumes.deliver {nonce : Bytes32} {rng : crates.OsRng} {now_ms : UInt64}
    (h : x.Resumes addr_b addr_a identity_a identity_b)
    (hallowed : x.Allowed addr_b addr_a (.deliver nonce rng now_ms)) :
    ∃ y identity_a' identity_b', x.step addr_b addr_a (.deliver nonce rng now_ms) = some y ∧
      y.Resumes addr_b addr_a identity_a' identity_b' ∧ y.stage.taken = x.stage.taken + 1 ∧
      (y.a.identity = x.a.identity ∧ y.b.identity = x.b.identity) ∧
      (identity_a' = identity_a ∨ identity_a' = x.a.identity) ∧
      (identity_b' = identity_b ∨ identity_b' = x.b.identity) := by
  obtain ⟨message, hmessage, hfresh⟩ := hallowed
  obtain ⟨a, b, stage⟩ := x
  obtain ⟨hkeys, hstage⟩ := h
  unfold step
  cases stage with
  | start => cases hmessage
  | probe message =>
    cases hmessage
    obtain ⟨client_nonce, hprobe⟩ := hstage
    obtain ⟨ack_bytes, b', sent, served, kem_pk_json, hrun, hidentity, hack⟩ :=
      hprobe.answered addr_a hjson nonce rng hfresh
    simp only [hrun]
    exact ⟨_, identity_a, b.identity, rfl, ⟨fun _ => .of_eq hidentity, sent, served, kem_pk_json, hack⟩, rfl,
      ⟨rfl, hidentity⟩, .inl rfl, .inr rfl⟩
  | ack message =>
    cases hmessage
    obtain ⟨probe, served, kem_pk_json, hack⟩ := hstage
    obtain ⟨finish_bytes, a', sent, ciphertext_json, exchange, hrun, hidentity, hfinish⟩ :=
      hack.answered hlengths hkem hjson nonce rng hfresh
    simp only [hrun]
    exact ⟨_, a.identity, identity_b, rfl, ⟨hkeys, sent, served, ciphertext_json, exchange, hfinish⟩, rfl,
      ⟨hidentity, rfl⟩, .inr rfl, .inl rfl⟩
  | finish message =>
    cases hmessage
    obtain ⟨sent, served, ciphertext_json, exchange, hfinish⟩ := hstage
    obtain ⟨finish_ack_bytes, b', session, signature, hrun, hidentity, hfinishAck⟩ :=
      hfinish.answered hlengths hsignature (hkeys trivial) nonce rng hfresh
    simp only [hrun]
    exact ⟨_, identity_a, identity_b, rfl, ⟨False.elim, sent, session, signature, hfinishAck⟩, rfl,
      ⟨rfl, hidentity⟩, .inl rfl, .inl rfl⟩
  | finishAck message =>
    cases hmessage
    obtain ⟨sent, session, signature, hfinishAck⟩ := hstage
    obtain ⟨a', session_a, hrun, hidentity, hagreed⟩ := hfinishAck.accepted nonce rng hfresh
    simp only [hrun]
    exact ⟨_, identity_a, identity_b, rfl, ⟨False.elim, session_a, session, hagreed⟩, rfl, ⟨hidentity, rfl⟩,
      .inl rfl, .inl rfl⟩
  | done => cases hmessage

theorem Consistent.deliver {nonce : Bytes32} {rng : crates.OsRng} {now_ms : UInt64}
    (h : x.Consistent addr_b addr_a identity_a identity_b)
    (hallowed : x.Allowed addr_b addr_a (.deliver nonce rng now_ms)) :
    x.Advances addr_b addr_a identity_a identity_b (.deliver nonce rng now_ms) 1 := by
  obtain ⟨y, identity_a', identity_b', hstep, hy, htaken, ⟨hy_a, hy_b⟩, ha, hb⟩ :=
    h.resumes.deliver hsignature hlengths hkem hjson hallowed
  -- Nobody rotated, so the messages name the identities of the start.
  rw [h.is_a, or_self] at ha
  rw [h.is_b, or_self] at hb
  subst ha hb
  exact ⟨y, hstep, ⟨hy_a.trans h.is_a, hy_b.trans h.is_b, hy.stage⟩, htaken⟩

/-- Every allowed move succeeds and keeps the invariant. -/
theorem Consistent.step {move : Move crates} (h : x.Consistent addr_b addr_a identity_a identity_b)
    (hallowed : x.Allowed addr_b addr_a move) :
    x.Advances addr_b addr_a identity_a identity_b move ([move].countP Move.isExchange) := by
  cases move with
  | atA op => exact ⟨_, rfl, h.of_untouched (EngineOp.Spares.untouched hallowed) (.refl x.b), rfl⟩
  | atB op => exact ⟨_, rfl, h.of_untouched (.refl x.a) (EngineOp.Spares.untouched hallowed), rfl⟩
  | connect client_nonce now_ms => exact h.connect client_nonce now_ms hallowed
  | deliver nonce rng now_ms => exact h.deliver hsignature hlengths hkem hjson hallowed

/-- So does every run of allowed moves. -/
theorem Consistent.run {moves : List (Move crates)} (h : x.Consistent addr_b addr_a identity_a identity_b)
    (hallowed : x.AllowedRun addr_b addr_a moves) :
    ∃ y, x.run addr_b addr_a moves = some y ∧ y.Consistent addr_b addr_a identity_a identity_b ∧
      y.stage.taken = x.stage.taken + moves.countP Move.isExchange := by
  induction moves generalizing x with
  | nil => exact ⟨x, rfl, h, rfl⟩
  | cons move moves ih =>
    obtain ⟨hmove, hrest⟩ := hallowed
    obtain ⟨middle, hstep, hmiddle, htaken⟩ := h.step hsignature hlengths hkem hjson hmove
    obtain ⟨y, hrun, hy, htotal⟩ := ih hmiddle (hrest middle hstep)
    refine ⟨y, ?_, hy, ?_⟩
    · unfold Exchange.run
      rw [hstep]
      exact hrun
    · rw [htotal, htaken, Nat.add_assoc, ← List.countP_append]
      rfl

/-- An honest handshake completes and agrees. From any two engines without a session
    for `b` at `a`, every step of the exchange succeeds, however it is interleaved
    with other work, and after its five steps both engines hold a session for the
    other under the same id and transcript. -/
theorem honest_handshake_completes (addr_b addr_a : Str) (a b : GossipEngine crates)
    (hsession : a.sessions.get addr_b = none) (moves : List (Move crates))
    (hallowed : AllowedRun addr_b addr_a ⟨a, b, .start⟩ moves) :
    ∃ x, run addr_b addr_a ⟨a, b, .start⟩ moves = some x ∧ x.a.identity = a.identity ∧
      x.b.identity = b.identity ∧ x.stage.taken = moves.countP Move.isExchange ∧
      (moves.countP Move.isExchange = 5 →
        ∃ session_a session_b, x.Agreed addr_b addr_a a.identity b.identity session_a session_b) := by
  have hstart : Consistent addr_b addr_a a.identity b.identity ⟨a, b, .start⟩ := ⟨rfl, rfl, hsession⟩
  obtain ⟨x, hrun, hconsistent, htaken⟩ := hstart.run hsignature hlengths hkem hjson hallowed
  rw [show Stage.start.taken = 0 from rfl, Nat.zero_add] at htaken
  refine ⟨x, hrun, hconsistent.is_a, hconsistent.is_b, htaken, fun hcount => ?_⟩
  have hdone : x.stage = .done := by
    rw [hcount] at htaken
    cases hstage : x.stage with
    | done => rfl
    | _ =>
      rw [hstage] at htaken
      cases htaken
  have hagreed := hconsistent.stage
  unfold AtStage at hagreed
  rwa [hdone] at hagreed

end Runs

/-- A delivery takes the exchange one step on, to a message of its own time. -/
theorem step_deliver {y : Exchange crates} {nonce : Bytes32} {rng : crates.OsRng} {now_ms : UInt64}
    (h : x.step addr_b addr_a (.deliver nonce rng now_ms) = some y) :
    y.stage.taken = x.stage.taken + 1 ∧
      ∀ message, y.stage.message? = some message → message.sent_at_ms = now_ms := by
  unfold step at h
  cases hstage : x.stage with
  | start => simp [hstage] at h
  | done => simp [hstage] at h
  | finishAck message =>
    simp only [hstage] at h
    split at h
    · cases h
      refine ⟨rfl, ?_⟩
      intro message hmessage
      cases hmessage
    · cases h
  | _ =>
    simp only [hstage] at h
    split at h
    · cases h
      refine ⟨rfl, ?_⟩
      intro message hmessage
      cases hmessage
      rfl
    · cases h

/-- Deliveries without delay are allowed until the exchange is done. -/
theorem allowedRun_deliver (nonce : Bytes32) (rng : crates.OsRng) (now_ms : UInt64) {count : Nat}
    (hstarted : 1 ≤ x.stage.taken) (hcount : x.stage.taken + count = 5)
    (hsent : ∀ message, x.stage.message? = some message → message.sent_at_ms = now_ms) :
    x.AllowedRun addr_b addr_a (List.replicate count (.deliver nonce rng now_ms)) := by
  induction count generalizing x with
  | zero => trivial
  | succ count ih =>
    refine ⟨?_, ?_⟩
    · obtain ⟨message, hmessage⟩ : ∃ message, x.stage.message? = some message := by
        cases hstage : x.stage with
        | start =>
          rw [hstage] at hstarted
          cases hstarted
        | done =>
          rw [hstage] at hcount
          simp only [Stage.taken] at hcount
          omega
        | _ => exact ⟨_, rfl⟩
      refine ⟨message, hmessage, ?_⟩
      rw [hsent message hmessage]
      omega
    · intro y hstep
      obtain ⟨htaken, hsent'⟩ := step_deliver hstep
      exact ih (by omega) (by omega) hsent'

end Exchange

namespace reference

/-- An engine of a node that was just started. -/
def engine (key : UInt8) : GossipEngine reference.crates := .new (reference.resolved key) (reference.node key)

def addrOfB : Str := ⟨"b", by decide⟩

def addrOfA : Str := ⟨"a", by decide⟩

def nonce : Bytes32 := witan.reference.nonce 7

/-- The exchange, with a message that the server publishes in between. -/
def moves : List (Move reference.crates) :=
  .connect nonce 0 :: .atB (.publish 0 witan.reference.emptyPayload 0) ::
    List.replicate 4 (.deliver nonce (9 : UInt8) 0)

theorem moves_allowed : Exchange.AllowedRun addrOfB addrOfA ⟨engine 1, engine 2, .start⟩ moves := by
  refine ⟨rfl, ?_⟩
  intro connected hconnect
  unfold Exchange.step at hconnect
  dsimp only at hconnect
  split at hconnect
  · cases hconnect
    refine ⟨⟨Option.some_ne_none _ |>.symm, fun _ _ _ hheartbeat => nomatch hheartbeat⟩, ?_⟩
    intro published hpublish
    cases hpublish
    apply Exchange.allowedRun_deliver
    · exact Nat.le_refl 1
    · rfl
    · intro message hmessage
      cases hmessage
      rfl
  · cases hconnect

end reference

theorem honest_handshake_completes_reference :
    (reference.engine 1).sessions.get reference.addrOfB = none ∧
      ∃ x, Exchange.run reference.addrOfB reference.addrOfA ⟨reference.engine 1, reference.engine 2, .start⟩
          reference.moves = some x ∧
        ∃ session_a session_b, x.Agreed reference.addrOfB reference.addrOfA (reference.engine 1).identity
          (reference.engine 2).identity session_a session_b := by
  have hsession : (reference.engine 1).sessions.get reference.addrOfB = none :=
    GossipEngine.sessions_new _ _ _
  refine ⟨hsession, ?_⟩
  obtain ⟨x, hrun, _, _, _, hagreed⟩ := Exchange.honest_handshake_completes reference.signatureCorrect
    reference.keyLengths reference.kemCorrect reference.kemRoundTrip reference.addrOfB reference.addrOfA
    (reference.engine 1) (reference.engine 2) hsession reference.moves reference.moves_allowed
  exact ⟨x, hrun, hagreed rfl⟩

end witan.gossip
