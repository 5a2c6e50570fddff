/-
# Requests as threads

`AgentServer` is a threading server: each request has a thread, and so has each job. A pool of the
handlers on one host is every way in which their steps can interleave, with every way in which the
external steps can turn out. Beside the host there is what a condition on runs refers to, kept up to
date by `watch`; no handler can see it.
-/

import Wolt.HostAgent.Frame
import Wolt.HostAgent.Quiet
import Wolt.Program.RelyGuarantee

namespace Wolt.HostAgent

open Wolt.Python

/-- The host, and what is remembered about the run. -/
structure Watched (D G : Type) where
  host : Host D
  memory : G

/-- How the memory follows the steps of the threads. -/
abbrev Watch (ι G : Type) : Type := ι → (effect : Effect) → effect.Reply → G → G

variable {D G ι : Type} [DecidableEq ι]

omit [DecidableEq ι] in
/-- The steps of the threads. None of them waits for another. -/
def serve (environment : Environment D) (watch : Watch ι G) :
    Pool.Semantics ι Effect Effect.Reply (Watched D G) := fun i effect state =>
  let outcome := environment.step effect state.host
  some (outcome.1, ⟨outcome.2, watch i effect outcome.1 state.memory⟩)

/-- A pool of threads on a host. -/
abbrev Threads (D G ι : Type) : Type := Pool ι Effect Effect.Reply HostError Unit (Watched D G)

/-- Each request in a thread of its own. -/
def requestPool (requests : ι → Request) (host : Host D) (memory : G) : Threads D G ι :=
  ⟨⟨host, memory⟩, fun i => (requests i).handler⟩

/-- Two threads that have returned are all. -/
theorem finished_of_returned {threads : Threads D G Bool} (hfalse : threads.returned false = true)
    (htrue : threads.returned true = true) : threads.Finished := fun i => by
  cases i with
  | false => exact (Pool.exists_of_returned hfalse).imp' _ fun _ => id
  | true => exact (Pool.exists_of_returned htrue).imp' _ fun _ => id

/-! ## An installation -/

/-- Everything succeeds, and each `uuid4` is new. -/
def sampleEnvironment : Environment Unit where
  succeeds _ _ := true
  output _ _ := []
  digest _ := none
  bundle _ _ := none
  hasSymlink _ _ := false
  debris _ _ := none
  damage _ database := database
  uuid history := decimal history.length
  now _ := 0
  start _ database := database
  emptyDatabase := ()

/-- The default range is published, and its rule is recorded and in force. -/
def sampleHost : Host Unit where
  document := { (∅ : Document) with firewall := some ⟨"192.0.2.10".toList, 40000, 40099⟩ }
  jobs := []
  env := "WOLT_IMAGE=alirezasayyari/wolt:v1.1.2\nWOLT_VERSION=v1.1.2\n".toList
  envIsRegular := true
  rules := {⟨"192.0.2.10".toList, 40000, 40099⟩}
  files _ := none
  database := some ()
  app := appConfiguration "WOLT_IMAGE=alirezasayyari/wolt:v1.1.2\n".toList
  history := []

/-- A payload for the address `192.0.2.10` and a range. -/
def samplePayload (start stop : ℤ) : Payload where
  sourceIp := "192.0.2.10".toList
  udpStart := some start
  udpEnd := some stop
  version := []

end Wolt.HostAgent
