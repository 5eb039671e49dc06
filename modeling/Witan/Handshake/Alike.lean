import Witan.Fallible.Relational
import Witan.Handshake.Frame

open bincode fallible
open witan.types witan.error witan.identity witan.session

namespace witan.handshake.HandshakeManager

/-- Related managers hold the same context for the peer, and they stay related when
    both store the same context for it and when both drop it. -/
structure Respected (addr : Str) (related : HandshakeManager → HandshakeManager → Prop) : Prop where
  context : ∀ {first second}, related first second → first.pending[addr]? = second.pending[addr]?
  setPending : ∀ {first second} (context : HandshakeContext), related first second →
    related (first.setPending addr context) (second.setPending addr context)
  dropPending : ∀ {first second}, related first second → related (first.dropPending addr) (second.dropPending addr)

/-! Related managers stay related whatever a handler does for the peer, and they
answer the same. -/

variable {crates : Crates} {addr : Str} {related : HandshakeManager → HandshakeManager → Prop}
  {first second : HandshakeManager} {identity : NodeIdentity crates} {now_ms : UInt64}

theorem build_probe_alike {getrandom : Except String Bytes32} (hrespected : Respected addr related)
    (h : related first second) :
    Alike related (build_probe addr identity getrandom now_ms) (build_probe addr identity getrandom now_ms)
      first second := by
  unfold build_probe
  exact .attempt_bind rfl h fun _ _ => .modify_bind (.pure (hrespected.setPending _ h))

theorem process_probe_build_ack_alike {probe_bytes : Bytes} {getrandom : Except String Bytes32}
    (hrespected : Respected addr related) (h : related first second) :
    Alike related (process_probe_build_ack addr probe_bytes identity getrandom now_ms)
      (process_probe_build_ack addr probe_bytes identity getrandom now_ms) first second := by
  unfold process_probe_build_ack
  refine .attempt_bind rfl h fun _ _ => .attempt_bind rfl h fun _ _ => .attempt_bind rfl h fun _ _ => ?_
  exact .attempt_bind rfl h fun _ _ => .modify_bind (.pure (hrespected.setPending _ h))

theorem process_ack_build_finish_alike {ack_bytes : Bytes} {rng : crates.OsRng} (hrespected : Respected addr related)
    (h : related first second) :
    Alike related (process_ack_build_finish addr ack_bytes identity rng now_ms)
      (process_ack_build_finish addr ack_bytes identity rng now_ms) first second := by
  unfold process_ack_build_finish
  refine .attempt_bind rfl h fun _ _ => .attempt_bind rfl h fun _ _ => .attempt_bind rfl h fun _ _ => .get_bind ?_
  have hsent := hrespected.context h
  refine .attempt_bind (by rw [hsent]) h fun _ _ => .attempt_bind rfl h fun _ _ => .attempt_bind rfl h fun _ _ => ?_
  refine .attempt_bind rfl h fun _ _ => .attempt_bind rfl h fun _ _ => .attempt_bind rfl h fun _ _ => ?_
  exact .attempt_bind rfl h fun _ _ => .modify_bind (.pure (hrespected.setPending _ h))

theorem takePending_alike (hrespected : Respected addr related) (h : related first second) :
    Alike related (takePending addr) (takePending addr) first second := by
  refine ⟨?_, hrespected.dropPending h⟩
  change Except.ok first.pending[addr]? = Except.ok second.pending[addr]?
  rw [hrespected.context h]

theorem process_finish_build_finish_ack_alike {finish_bytes : Bytes} (hrespected : Respected addr related)
    (h : related first second) :
    Alike related (process_finish_build_finish_ack addr finish_bytes identity now_ms)
      (process_finish_build_finish_ack addr finish_bytes identity now_ms) first second := by
  unfold process_finish_build_finish_ack
  refine .attempt_bind rfl h fun _ _ => .attempt_bind rfl h fun _ _ => .attempt_bind rfl h fun _ _ => ?_
  refine .bind (takePending_alike hrespected h) fun _ _ _ _ _ h' => ?_
  refine .attempt_bind rfl h' fun _ _ => .attempt_bind rfl h' fun _ _ => .attempt_bind rfl h' fun _ _ => ?_
  refine .attempt_bind rfl h' fun _ _ => .attempt_bind rfl h' fun _ _ => .attempt_bind rfl h' fun _ _ => ?_
  exact .pure h'

theorem process_finish_ack_alike {finish_ack_bytes : Bytes} (hrespected : Respected addr related)
    (h : related first second) :
    Alike related (process_finish_ack crates addr finish_ack_bytes now_ms)
      (process_finish_ack crates addr finish_ack_bytes now_ms) first second := by
  unfold process_finish_ack
  refine .attempt_bind rfl h fun _ _ => .attempt_bind rfl h fun _ _ => ?_
  refine .bind (takePending_alike hrespected h) fun _ _ _ _ _ h' => ?_
  refine .attempt_bind rfl h' fun _ _ => .attempt_bind rfl h' fun _ _ => .attempt_bind rfl h' fun _ _ => ?_
  exact .attempt_bind rfl h' fun _ _ => .attempt_bind rfl h' fun _ _ => .pure h'

end witan.handshake.HandshakeManager
