import Witan.WasiExports.Hosts

open bincode fallible memory
open witan.types witan.error witan.session witan.rotation witan.api witan.gossip

namespace witan.wasi_exports

variable {crates : Crates}

section Runs

variable {inst inst' : Instance crates} {steps : List (HostStep crates)} {log : List (Entry crates)}

/-- Every run of a host over the C-ABI is a run of the API: the replies that the
    host reads are those that the API gives to the calls it made, in their order,
    and the API ends in the state that these calls lead to. -/
theorem host_run_refines_api (h : HostRun inst steps log inst') :
    log.map Entry.reply = replies (log.map Entry.request) inst.state ∧
      inst'.state = ApiCall.runAll (log.filterMap Entry.request) inst.state :=
  ⟨h.replies_eq, h.state_eq⟩

/-- A host that asks for the version, starts node 1 and is refused a disconnection. -/
theorem host_run_refines_api_reference :
    ∃ steps log last, HostRun (freshInstance reference.crates) steps log last ∧
      log.map Entry.request = [none, some (.gossip_init (reference.keyJson 1).val (0 : UInt8) (0 : UInt8)),
        some (.gossip_disconnect_peer (reference.keyJson 1))] ∧
      log.map Entry.reply = [.ok (.bytes gossip_get_version.bytes.val), .ok .unit,
        .error (error_to_json reference.crates (.PeerNotFound (reference.keyJson 1).val)).toByteArray.data.toList] ∧
      last.state = reference.started 1 := by
  obtain ⟨next, hnext, hfresh, htop⟩ := version_runs reference.crates
  obtain ⟨steps, log, last, hrun, hrequests, hstate, _⟩ := reference.hostRun_starts next hfresh htop
  have hversion : HostRun (freshInstance reference.crates) [.call .gossip_get_version_wasi 8 bumpRuntime] _ next :=
    .call (freshInstance_slot _) (fun _ hrange => nomatch hrange) hnext .done
  obtain ⟨hreplies, _⟩ := host_run_refines_api (hversion.append hrun)
  refine ⟨_, _, last, hversion.append hrun, ?_, ?_, hstate⟩
  · exact congrArg (none :: ·) hrequests
  · refine hreplies.trans ?_
    change replies (none :: log.map Entry.request) .fresh = _
    rw [hrequests]
    exact replies_starts (reference.init_started 1) (reference.startEngine_unknown 1 _)

end Runs

end witan.wasi_exports
