import XnnTransfer.Library.RingBuffer
import XnnTransfer.Library.Runs

/-!
# The event channel

`EventChannel` of `native/src/bridge/event_channel.hpp`: a bounded queue of events
and a wakeup callback, used by any number of threads.

## Implementation notes

A section under the mutex is one function on the channel. Between two sections of
one call other threads may come in, so a run is a list of actions of threads, and a
thread is the stack of the calls it is inside: the callback runs inside the call that
wakes, and may call the channel itself. A thread that waits for the condition variable
goes on as soon as what it waits for holds, whether or not it was notified.

The payload of an event is a value of its own type; that it is copied through an array
of bytes is left out. `EnqueueState`, `EnqueueDiscovery`, `EnqueuePairing`,
`EnqueueTrust` and `EnqueueTransfer` differ in the type of the event only. The C entry
point refuses a configuration without a callback, so a target always has one.
-/

namespace XnnTransfer.Bridge

def eventQueueCapacity : Nat := 64

inductive EventType
  | engineStateChanged
  | discoveryPeerChanged
  | pairingAttemptChanged
  | trustChanged
  | transferChanged
  deriving DecidableEq, Repr

def EventType.payloadVersion : EventType → UInt32
  | .engineStateChanged => 1
  | .discoveryPeerChanged => 1
  | .pairingAttemptChanged => 1
  | .trustChanged => 1
  | .transferChanged => 1

structure QueuedEvent (ε : Type*) where
  sequence : UInt64 := 0
  type : EventType
  payloadVersion : UInt32
  /-- The only flag there is. -/
  eventsDroppedBefore : Bool := false
  payload : ε
  deriving DecidableEq, Repr

/-- The event that the `Enqueue…` function for the type makes of a payload. -/
def eventOf {ε : Type*} (type : EventType) (payload : ε) : QueuedEvent ε :=
  { type := type, payloadVersion := type.payloadVersion, payload := payload }

/-- The channel, with targets `κ` (a callback and its user data) and threads `τ`. -/
structure EventChannel (ε κ τ : Type*) where
  queue : RingBuffer (QueuedEvent ε) eventQueueCapacity
  nextSequence : UInt64 := 1
  callback : Option κ := none
  callbackThread : Option τ := none
  callbackRegistrationOpen : Bool := true
  eventsOpen : Bool := true
  callbackActive : Bool := false
  callbackPending : Bool := false

namespace EventChannel

variable {ε κ τ : Type*}

/-- A new channel; the slots of its array hold an event that is never read. -/
def new (unused : QueuedEvent ε) : EventChannel ε κ τ :=
  { queue := .empty unused ⟨0, by decide⟩ }

def prepareCallbackLocked (channel : EventChannel ε κ τ) (thread : τ) :
    Option κ × EventChannel ε κ τ :=
  if channel.callback.isNone ∨ channel.callbackActive then (none, channel)
  else
    (channel.callback, { channel with callbackActive := true, callbackThread := some thread })

/-- The event as it enters the queue. -/
def numbered (channel : EventChannel ε κ τ) (event : QueuedEvent ε) : QueuedEvent ε :=
  { event with
    sequence := channel.nextSequence
    eventsDroppedBefore :=
      event.eventsDroppedBefore || decide (channel.queue.size = eventQueueCapacity) }

/-- The queue is empty when the event is written, after any drop. -/
def wasEmpty (channel : EventChannel ε κ τ) : Bool := channel.queue.makeRoom.size = 0

/-- The event that gives way to a new one. -/
def displaced (channel : EventChannel ε κ τ) : Option (QueuedEvent ε) :=
  if channel.queue.size = eventQueueCapacity then some channel.queue.front else none

/-- The locked section of `Enqueue`. -/
def enqueueLocked (channel : EventChannel ε κ τ) (event : QueuedEvent ε) (thread : τ) :
    Option κ × EventChannel ε κ τ :=
  if channel.eventsOpen = false then (none, channel)
  else
    let stored :=
      { channel with
        nextSequence := channel.nextSequence + 1
        queue := channel.queue.makeRoom.push (channel.numbered event)
          channel.queue.size_makeRoom_lt }
    if channel.wasEmpty then
      if channel.callbackActive then
        (none, { stored with callbackPending := channel.callback.isSome })
      else stored.prepareCallbackLocked thread
    else (none, stored)

/-- The locked section of `Poll`. -/
def poll (channel : EventChannel ε κ τ) : Option (QueuedEvent ε × EventChannel ε κ τ) :=
  if channel.queue.size = 0 then none
  else some (channel.queue.front, { channel with queue := channel.queue.advance })

/-- `SetCallback` of no configuration, up to the wait. -/
def clearCallback (channel : EventChannel ε κ τ) : EventChannel ε κ τ :=
  { channel with callback := none, callbackPending := false }

/-- The registration is refused. -/
def refusesCallback (channel : EventChannel ε κ τ) : Bool :=
  channel.callbackRegistrationOpen = false || channel.callback.isSome || channel.callbackActive

/-- `SetCallback` of a configuration that is not refused. -/
def registerCallback (channel : EventChannel ε κ τ) (target : κ) (thread : τ) :
    Option κ × EventChannel ε κ τ :=
  let registered := { channel with callback := some target }
  if channel.queue.size ≠ 0 then registered.prepareCallbackLocked thread
  else (none, registered)

def beginShutdown (channel : EventChannel ε κ τ) : EventChannel ε κ τ :=
  { channel with callbackRegistrationOpen := false }

/-- `FinishShutdown` up to the wait. -/
def closeEvents (channel : EventChannel ε κ τ) : EventChannel ε κ τ :=
  { channel with callbackRegistrationOpen := false, eventsOpen := false }

/-- The callback is running in another thread. -/
def mustWait [DecidableEq τ] (channel : EventChannel ε κ τ) (thread : τ) : Bool :=
  channel.callbackActive && decide (channel.callbackThread ≠ some thread)

/-- The locked section of `InvokeCallback` after the callback has returned. -/
def callbackReturned (channel : EventChannel ε κ τ) (thread : τ) :
    Option κ × EventChannel ε κ τ :=
  let idle := { channel with callbackActive := false, callbackThread := none }
  if channel.callbackPending then
    { idle with callbackPending := false }.prepareCallbackLocked thread
  else (none, idle)

end EventChannel

/-- A call that a thread is inside. A target carries the number of its registration. -/
inductive Frame (κ : Type*)
  /-- `InvokeCallback` is about to call the target. -/
  | invoking (target : κ) (registration : Nat)
  /-- The target is being called. -/
  | running (target : κ) (registration : Nat)
  /-- `SetCallback` of no configuration waits; so many registrations were made before. -/
  | removing (registrations : Nat)
  /-- `FinishShutdown` waits. -/
  | finishing
  deriving DecidableEq, Repr

/-- The frame belongs to an invocation of the callback. -/
def Frame.invocation {κ : Type*} : Frame κ → Bool
  | .invoking _ _ | .running _ _ => true
  | .removing _ | .finishing => false

/-- The channel and what every thread is doing with it. -/
structure Threads (ε κ τ : Type*) where
  channel : EventChannel ε κ τ
  /-- How many registrations have been made. -/
  registrations : Nat := 0
  frames : τ → List (Frame κ) := fun _ => []

/-- A section of a call by a thread, or the call and the return of a callback. -/
inductive Action (ε κ τ : Type*)
  | enqueue (thread : τ) (type : EventType) (payload : ε)
  | poll (thread : τ)
  | setCallback (thread : τ) (config : Option κ)
  | beginShutdown (thread : τ)
  | finishShutdown (thread : τ)
  /-- The target is called. -/
  | call (thread : τ)
  /-- The target returns. -/
  | callbackReturns (thread : τ)
  /-- A thread that waits goes on. -/
  | wake (thread : τ)

/-- What is to be seen of a run. -/
inductive Mark (ε κ τ : Type*)
  | enqueued (event : QueuedEvent ε) (dropped : Option (QueuedEvent ε)) (wasEmpty : Bool)
  | polled (thread : τ) (event : QueuedEvent ε)
  | registered (registration : Nat) (target : κ)
  | started (thread : τ) (registration : Nat) (target : κ)
  | ended (thread : τ) (registration : Nat)
  /-- `SetCallback` of no configuration returns; so many registrations were made before it
  took the callback away. `inside` is whether the thread is in the callback. -/
  | removed (thread : τ) (registrations : Nat) (inside : Bool)
  /-- `FinishShutdown` returns. -/
  | shutDown (thread : τ) (inside : Bool)
  deriving DecidableEq, Repr

namespace Threads

variable {ε κ τ : Type*} [DecidableEq τ]

/-- The thread runs code outside the channel: its own, or that of the callback. -/
def free (threads : Threads ε κ τ) (thread : τ) : Bool :=
  match threads.frames thread with
  | [] => true
  | .running _ _ :: _ => true
  | _ :: _ => false

/-- The thread is somewhere inside the callback. -/
def inside (threads : Threads ε κ τ) (thread : τ) : Bool :=
  (threads.frames thread).any Frame.invocation

def setStack (threads : Threads ε κ τ) (thread : τ) (stack : List (Frame κ)) :
    Threads ε κ τ :=
  { threads with frames := Function.update threads.frames thread stack }

def push (threads : Threads ε κ τ) (thread : τ) (frame : Frame κ) : Threads ε κ τ :=
  threads.setStack thread (frame :: threads.frames thread)

/-- Go on with `InvokeCallback` after a locked section. -/
def invoke (threads : Threads ε κ τ) (thread : τ) (outcome : Option κ × EventChannel ε κ τ) :
    Threads ε κ τ :=
  match outcome with
  | (none, channel) => { threads with channel := channel }
  | (some target, channel) =>
    { threads with channel := channel }.push thread (.invoking target threads.registrations)

def act (threads : Threads ε κ τ) : Action ε κ τ → Threads ε κ τ × List (Mark ε κ τ)
  | .enqueue thread type payload =>
    if threads.free thread then
      let event := eventOf type payload
      (threads.invoke thread (threads.channel.enqueueLocked event thread),
        if threads.channel.eventsOpen then
          [.enqueued (threads.channel.numbered event) threads.channel.displaced
            threads.channel.wasEmpty]
        else [])
    else (threads, [])
  | .poll thread =>
    if threads.free thread then
      match threads.channel.poll with
      | none => (threads, [])
      | some (event, channel) => ({ threads with channel := channel }, [.polled thread event])
    else (threads, [])
  | .setCallback thread none =>
    if threads.free thread then
      let cleared := { threads with channel := threads.channel.clearCallback }
      if threads.channel.mustWait thread then
        (cleared.push thread (.removing threads.registrations), [])
      else (cleared, [.removed thread threads.registrations (threads.inside thread)])
    else (threads, [])
  | .setCallback thread (some target) =>
    if threads.free thread ∧ threads.channel.refusesCallback = false then
      let registration := threads.registrations + 1
      ({ threads with registrations := registration }.invoke thread
          (threads.channel.registerCallback target thread),
        [.registered registration target])
    else (threads, [])
  | .beginShutdown thread =>
    if threads.free thread then
      ({ threads with channel := threads.channel.beginShutdown }, [])
    else (threads, [])
  | .finishShutdown thread =>
    if threads.free thread then
      let closed := threads.channel.closeEvents
      if threads.channel.mustWait thread then
        ({ threads with channel := closed }.push thread .finishing, [])
      else
        ({ threads with channel := closed.clearCallback },
          [.shutDown thread (threads.inside thread)])
    else (threads, [])
  | .call thread =>
    match threads.frames thread with
    | .invoking target registration :: rest =>
      (threads.setStack thread (.running target registration :: rest),
        [.started thread registration target])
    | _ => (threads, [])
  | .callbackReturns thread =>
    match threads.frames thread with
    | .running _ registration :: rest =>
      ((threads.setStack thread rest).invoke thread
          (threads.channel.callbackReturned thread),
        [.ended thread registration])
    | _ => (threads, [])
  | .wake thread =>
    if threads.channel.callbackActive then (threads, [])
    else
      match threads.frames thread with
      | .removing registrations :: rest =>
        let resumed := threads.setStack thread rest
        (resumed, [.removed thread registrations (resumed.inside thread)])
      | .finishing :: rest =>
        let resumed := threads.setStack thread rest
        ({ resumed with channel := resumed.channel.clearCallback },
          [.shutDown thread (resumed.inside thread)])
      | _ => (threads, [])

def step (threads : Threads ε κ τ) (action : Action ε κ τ) : Threads ε κ τ :=
  (threads.act action).1

def marks (threads : Threads ε κ τ) (action : Action ε κ τ) : List (Mark ε κ τ) :=
  (threads.act action).2

/-- Nothing has been called yet. -/
def initial (unused : QueuedEvent ε) : Threads ε κ τ := { channel := .new unused }

/-- What is to be seen of the run of some actions. -/
def observed (unused : QueuedEvent ε) (actions : List (Action ε κ τ)) : List (Mark ε κ τ) :=
  Runs.emitted step marks (initial unused) actions

end Threads

end XnnTransfer.Bridge
