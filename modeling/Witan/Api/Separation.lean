import Witan.Api.Frames
import Witan.Runs.Unwinding

open fallible runs
open witan.error

namespace witan.api

variable {crates : Crates}

namespace ApiCall

/-- What is heard of a call by somebody who hears about these calls. -/
def heard (hears : ApiCall crates → Bool) (state : ApiState crates) (call : ApiCall crates) :
    Option (Except GossipError Answer) :=
  if hears call then some (outcome (call.perform state)) else none

/-- What is heard of a run. -/
def hearings (hears : ApiCall crates → Bool) (calls : List (ApiCall crates)) : List (Except GossipError Answer) :=
  answers (fun state call => call.run state) (heard hears) .fresh calls

theorem heard_congr {hears : ApiCall crates → Bool} {first second : ApiState crates} {call : ApiCall crates}
    (h : hears call = true → outcome (call.perform first) = outcome (call.perform second)) :
    call.heard hears first = call.heard hears second := by
  unfold heard
  cases hhears : hears call with
  | true => rw [h hhears]
  | false => rfl

theorem heard_eq_none {hears : ApiCall crates → Bool} {state : ApiState crates} {call : ApiCall crates}
    (h : hears call = false) : call.heard hears state = none := by
  unfold heard
  rw [h]
  rfl

end ApiCall

theorem messages_unwinding (crates : Crates) :
    Unwinding (fun (state : ApiState crates) (call : ApiCall crates) => call.run state)
      (ApiCall.heard fun call => call.concern = .node ∨ call.concern = .peers) (fun call => call.concern ≠ .messages)
      (ApiState.Related SamePeers) where
  silent state call hkept := by
    have hconcern : call.concern = .messages := by simpa using hkept
    exact ApiCall.heard_eq_none (by simp [hconcern])
  deleted first second call hkept h := run_messages call (by simpa using hkept) h
  answered first second call _ h :=
    ApiCall.heard_congr fun hhears => (alike_samePeers call (of_decide_eq_true hhears) h).outcome
  stepped first second call _ h := step_samePeers call h

theorem peers_unwinding (crates : Crates) :
    Unwinding (fun (state : ApiState crates) (call : ApiCall crates) => call.run state)
      (ApiCall.heard fun call => call.concern = .node ∨ call.concern = .messages) (fun call => call.concern ≠ .peers)
      (ApiState.Related SameMessages) where
  silent state call hkept := by
    have hconcern : call.concern = .peers := by simpa using hkept
    exact ApiCall.heard_eq_none (by simp [hconcern])
  deleted first second call hkept h := run_peers call (by simpa using hkept) h
  answered first second call _ h :=
    ApiCall.heard_congr fun hhears => (alike_sameMessages call (of_decide_eq_true hhears) h).outcome
  stepped first second call _ h := step_sameMessages call h

theorem received_unwinding (crates : Crates) :
    Unwinding (fun (state : ApiState crates) (call : ApiCall crates) => call.run state)
      (ApiCall.heard fun call => !call.receives && call.concern ≠ .statistics) (fun call => !call.receives)
      (fun first second => ApiState.Related SamePeers first second ∧ ApiState.Related SameMessages first second) where
  silent state call hkept := ApiCall.heard_eq_none (by rw [hkept, Bool.false_and])
  deleted first second call hkept h := by
    have hreceives : call.receives = true := by simpa using hkept
    exact ⟨run_messages call (ApiCall.concern_of_receives hreceives) h.1, run_received call hreceives h.2⟩
  answered first second call _ h := by
    refine ApiCall.heard_congr fun hhears => ?_
    cases hconcern : call.concern with
    | node => exact (alike_samePeers call (.inl hconcern) h.1).outcome
    | peers => exact (alike_samePeers call (.inr hconcern) h.1).outcome
    | messages => exact (alike_sameMessages call (.inr hconcern) h.2).outcome
    | statistics => simp [hconcern] at hhears
  stepped first second call _ h := ⟨step_samePeers call h.1, step_sameMessages call h.2⟩

/-- Messages do not reach the peers. With all calls about messages deleted from a run
    of the API, every call about the node's keys or its peers answers the same, and the
    same keys, sessions, handshakes and mesh are left. -/
theorem messages_do_not_reach_peers (calls : List (ApiCall crates)) :
    let kept := calls.filter fun call => call.concern ≠ .messages
    ApiCall.hearings (fun call => call.concern = .node ∨ call.concern = .peers) calls =
        ApiCall.hearings (fun call => call.concern = .node ∨ call.concern = .peers) kept ∧
      ApiState.Related SamePeers (ApiCall.runAll calls .fresh) (ApiCall.runAll kept .fresh) := by
  obtain ⟨hfinal, hanswers⟩ := (messages_unwinding crates).run (samePeers_sameNode.refl_states .fresh) calls
  exact ⟨hanswers, hfinal⟩

/-- Peers do not reach the messages. With all calls about peers deleted from a run of
    the API, every publication, every verification and every call about the node's keys
    answers the same, and the same keys and message ids are left. -/
theorem peers_do_not_reach_messages (calls : List (ApiCall crates)) :
    let kept := calls.filter fun call => call.concern ≠ .peers
    ApiCall.hearings (fun call => call.concern = .node ∨ call.concern = .messages) calls =
        ApiCall.hearings (fun call => call.concern = .node ∨ call.concern = .messages) kept ∧
      ApiState.Related SameMessages (ApiCall.runAll calls .fresh) (ApiCall.runAll kept .fresh) := by
  obtain ⟨hfinal, hanswers⟩ := (peers_unwinding crates).run (sameMessages_sameNode.refl_states .fresh) calls
  exact ⟨hanswers, hfinal⟩

/-- Received envelopes are counted and change nothing else. With all checks of
    incoming envelopes deleted from a run of the API, every other call but the polls of
    the statistics answers the same: no envelope, forged or replayed, influences what
    the node publishes, signs or keeps. -/
theorem received_envelopes_leave_no_trace (calls : List (ApiCall crates)) :
    let kept := calls.filter fun call => !call.receives
    ApiCall.hearings (fun call => !call.receives && call.concern ≠ .statistics) calls =
        ApiCall.hearings (fun call => !call.receives && call.concern ≠ .statistics) kept ∧
      ApiState.Related SamePeers (ApiCall.runAll calls .fresh) (ApiCall.runAll kept .fresh) ∧
      ApiState.Related SameMessages (ApiCall.runAll calls .fresh) (ApiCall.runAll kept .fresh) := by
  obtain ⟨hfinal, hanswers⟩ := (received_unwinding crates).run
    ⟨samePeers_sameNode.refl_states .fresh, sameMessages_sameNode.refl_states .fresh⟩ calls
  exact ⟨hanswers, hfinal⟩

end witan.api


