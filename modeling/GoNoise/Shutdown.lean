import GoNoise.Library.Traces

/-!
# `shutdown/shutdown.go`: shutdown while registrations go on

`Shutdown` closes a snapshot of the listeners, waits until it sees no connection or the timeout
comes, and then closes a snapshot of the connections. Each locked section and each `Close` is one
step; registrations come in between. What is registered behind a snapshot is not closed.
-/

namespace GoNoise.Shutdown

open Trace

variable {α β : Type} [DecidableEq α] [DecidableEq β]

/-- Where the call of `Shutdown` is. -/
inductive Phase (α β : Type)
  /-- not called yet -/
  | running
  /-- in `closeListeners`, with the listeners of the snapshot that are left -/
  | closing (listeners : List β)
  /-- in `waitForConnectionsDrain` -/
  | draining
  /-- `waitForConnectionsDrain` has seen no connection -/
  | drained
  /-- `waitForConnectionsDrain` has timed out -/
  | timedOut
  /-- in `forceCloseConnections`, with the connections of the snapshot that are left -/
  | forcing (connections : List α)
  | returned

/-- `ShutdownManager`, with the connections and listeners that `Close` was called on. -/
structure ShutdownManager (α β : Type) where
  connections : List α
  listeners : List β
  closedConnections : List α
  closedListeners : List β
  phase : Phase α β

/-- A step of the program. -/
inductive Event (α β : Type)
  | registerConnection (conn : α)
  | unregisterConnection (conn : α)
  | registerListener (listener : β)
  | unregisterListener (listener : β)
  /-- `Shutdown` goes on to its next section -/
  | advance
  /-- the next turn of the loop of `closeListeners`; maps have no order -/
  | closeListener (listener : β)
  /-- `waitForConnectionsDrain` looks at the number of connections -/
  | tick
  | timeout
  /-- the next turn of the loop of `forceCloseConnections` -/
  | closeConnection (conn : α)

namespace ShutdownManager

/-- One step. A step of `Shutdown` that is not the next one changes nothing. -/
def step (sm : ShutdownManager α β) : Event α β → ShutdownManager α β
  | .registerConnection conn => { sm with connections := sm.connections.insert conn }
  | .unregisterConnection conn => { sm with connections := sm.connections.filter (· ≠ conn) }
  | .registerListener listener => { sm with listeners := sm.listeners.insert listener }
  | .unregisterListener listener => { sm with listeners := sm.listeners.filter (· ≠ listener) }
  | .advance =>
    match sm.phase with
    | .running => { sm with phase := .closing sm.listeners }
    | .closing [] => { sm with phase := .draining }
    | .drained => { sm with phase := .returned }
    | .timedOut => { sm with phase := .forcing sm.connections }
    | .forcing [] => { sm with phase := .returned }
    | _ => sm
  | .closeListener listener =>
    match sm.phase with
    | .closing rest =>
      if listener ∈ rest then
        { sm with
          closedListeners := listener :: sm.closedListeners
          phase := .closing (rest.filter (· ≠ listener)) }
      else sm
    | _ => sm
  | .tick =>
    match sm.phase with
    | .draining => if sm.connections.length = 0 then { sm with phase := .drained } else sm
    | _ => sm
  | .timeout =>
    match sm.phase with
    | .draining => { sm with phase := .timedOut }
    | _ => sm
  | .closeConnection conn =>
    match sm.phase with
    | .forcing rest =>
      if conn ∈ rest then
        { sm with
          closedConnections := conn :: sm.closedConnections
          phase := .forcing (rest.filter (· ≠ conn)) }
      else sm
    | _ => sm

def newShutdownManager : ShutdownManager α β := ⟨[], [], [], [], .running⟩

/-- The listeners that `Shutdown` has still to close. -/
def pendingListeners (sm : ShutdownManager α β) : Option (List β) :=
  match sm.phase with
  | .running => none
  | .closing rest => some rest
  | _ => some []

/-- The connections that `Shutdown` has still to close. -/
def pendingConnections (sm : ShutdownManager α β) : Option (List α) :=
  match sm.phase with
  | .forcing rest => some rest
  | .drained | .returned => some []
  | _ => none

/-- What is registered was closed or is still to be closed by `Shutdown`, from its snapshot on. -/
structure Covered (sm : ShutdownManager α β) : Prop where
  listeners : ∀ rest ∈ sm.pendingListeners, ∀ l ∈ sm.listeners, l ∈ sm.closedListeners ∨ l ∈ rest
  connections : ∀ rest ∈ sm.pendingConnections, ∀ c ∈ sm.connections,
    c ∈ sm.closedConnections ∨ c ∈ rest

/-- Nothing is registered behind its snapshot. -/
def InTime (sm : ShutdownManager α β) : Event α β → Prop
  | .registerListener _ => sm.pendingListeners = none
  | .registerConnection _ => sm.pendingConnections = none
  | _ => True

theorem Covered.step {sm : ShutdownManager α β} (h : sm.Covered) {e : Event α β}
    (he : sm.InTime e) : (sm.step e).Covered := by
  obtain ⟨hlisteners, hconnections⟩ := h
  obtain ⟨connections, listeners, closedConnections, closedListeners, phase⟩ := sm
  cases e <;> cases phase <;> constructor <;>
    grind [ShutdownManager.step, pendingListeners, pendingConnections, InTime]

/-- **Shutdown.** When it returns, what is registered was closed, as long as no listener was
registered after `closeListeners` took its snapshot, and no connection after the wait saw none or
`forceCloseConnections` took its snapshot. -/
theorem closed_of_returned {events : List (Event α β)}
    (h : Always step InTime newShutdownManager events)
    (hreturned : (exec step (newShutdownManager : ShutdownManager α β) events).phase = .returned) :
    let sm := exec step (newShutdownManager : ShutdownManager α β) events
    (∀ l ∈ sm.listeners, l ∈ sm.closedListeners) ∧
      ∀ c ∈ sm.connections, c ∈ sm.closedConnections := by
  have hcovered : (exec step (newShutdownManager : ShutdownManager α β) events).Covered :=
    exec_induct (fun _ _ hsm he => hsm.step he) ⟨nofun, nofun⟩ h
  refine ⟨fun l hl => ?_, fun c hc => ?_⟩
  · exact (hcovered.listeners [] (by rw [pendingListeners, hreturned]; rfl) l hl).resolve_right
      List.not_mem_nil
  · exact (hcovered.connections [] (by rw [pendingConnections, hreturned]; rfl) c hc).resolve_right
      List.not_mem_nil

/-- A listener, and a connection that is left at the timeout. -/
theorem closed_of_returned_timeout :
    let sm := exec step (newShutdownManager : ShutdownManager ℕ ℕ)
      [.registerListener 1, .advance, .registerConnection 2, .closeListener 1, .advance, .tick,
        .timeout, .advance, .closeConnection 2, .advance]
    (∀ l ∈ sm.listeners, l ∈ sm.closedListeners) ∧
      ∀ c ∈ sm.connections, c ∈ sm.closedConnections :=
  closed_of_returned (by simp [Always, InTime, step, newShutdownManager, pendingListeners,
    pendingConnections]) rfl

/-- A listener after the snapshot, and a connection after the wait has seen none. -/
theorem returned_not_closed :
    exec step (newShutdownManager : ShutdownManager ℕ ℕ)
      [.advance, .registerListener 1, .advance, .tick, .registerConnection 2, .advance] =
        ⟨[2], [1], [], [], .returned⟩ :=
  rfl

end ShutdownManager
end GoNoise.Shutdown
