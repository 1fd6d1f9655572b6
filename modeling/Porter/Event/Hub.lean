import Mathlib.Data.List.Nodup
import Porter.Run.Holding

/-!
# The event hub

`internal/event/hub.go`: a `Broadcast` offers a message to the channel of every connected stream,
and one call of `ServeHTTP` serves one stream from its channel.
-/
namespace Porter.Event

open Run

variable {δ : Type}

structure SseEvent (δ : Type) where
  event : String
  data : δ

structure Item (δ : Type) where
  ticket : Nat
  message : SseEvent δ

inductive Frame where
  | connected
  | event (ticket : Nat) (text : String)
deriving DecidableEq

def Frame.ticket : Frame → Option Nat
  | .connected => none
  | .event ticket _ => some ticket

def Frame.text : Frame → String
  | .connected => ": connected\n\n"
  | .event _ text => text

def eventText (event payload : String) : String :=
  "event: " ++ event ++ "\ndata: " ++ payload ++ "\n\n"

structure Client (δ : Type) where
  queue : List (Item δ)
  closed : Bool
  written : List Frame
  gone : Bool

def Client.new : Client δ := ⟨[], false, [], false⟩

variable (client : Client δ)

namespace Client

def streamed : List Nat := client.written.filterMap Frame.ticket

def tickets : List Nat := client.streamed ++ client.queue.map Item.ticket

def write (frames : List Frame) : Client δ :=
  if client.gone then client else { client with written := client.written ++ frames }

def receive (marshal : δ → Option String) (client : Client δ) (item : Item δ)
    (rest : List (Item δ)) : Client δ :=
  { client with queue := rest }.write
    ((marshal item.message.data).toList.map fun payload =>
      .event item.ticket (eventText item.message.event payload))

end Client

structure Broadcasted (δ : Type) where
  message : SseEvent δ
  registered : List Nat

structure Drop where
  ticket : Nat
  client : Nat
  queued : Nat
deriving DecidableEq

structure Hub (δ : Type) where
  locked : Bool
  clients : List Nat
  client : Nat → Client δ
  made : Nat
  sent : List (Broadcasted δ)
  owed : List Nat
  dropped : List Drop

def NewHub : Hub δ := ⟨false, [], fun _ => Client.new, 0, [], [], []⟩

def capacity : Nat := 32

variable (hub : Hub δ)

namespace Hub

def set (c : Nat) (client : Client δ) : Hub δ :=
  { hub with client := Function.update hub.client c client }

def offer (item : Item δ) (c : Nat) : Hub δ :=
  if (hub.client c).queue.length < capacity then
    hub.set c { hub.client c with queue := (hub.client c).queue ++ [item] }
  else
    { hub with dropped := hub.dropped ++ [⟨item.ticket, c, (hub.client c).queue.length⟩] }

end Hub

inductive Call (δ : Type) where
  | lock (message : SseEvent δ)
  | sending (ticket : Nat) (message : SseEvent δ) (rest : List Nat)
  | sent
  | connect (flusher : Bool)
  | refused
  | enter (c : Nat)
  | add (c : Nat)
  | added (c : Nat)
  | serve (c : Nat)
  | leave (c : Nat)
  | remove (c : Nat)
  | removed (c : Nat)
  | close (c : Nat)
  | ended (c : Nat)
  | panicked

inductive Request (δ : Type) where
  | broadcast (message : SseEvent δ)
  | serveHTTP (flusher : Bool)

structure Input where
  pick : Nat
  leave : Bool

def begin : Request δ → Call δ
  | .broadcast message => .lock message
  | .serveHTTP flusher => .connect flusher

/-- A `Lock` on a locked mutex and a `select` without a ready case leave everything as it is. -/
def act (marshal : δ → Option String) (hub : Hub δ) (call : Call δ) (input : Input) :
    Hub δ × Call δ :=
  match call with
  | .lock message =>
    if hub.locked then (hub, call)
    else
      ({ hub with
          locked := true
          sent := hub.sent ++ [⟨message, hub.clients⟩]
          owed := hub.clients },
        .sending hub.sent.length message hub.clients)
  | .sending ticket message rest =>
    match rest[input.pick % rest.length]? with
    | none => ({ hub with locked := false }, .sent)
    | some c =>
      if (hub.client c).closed then (hub, .panicked)
      else
        ({ hub.offer ⟨ticket, message⟩ c with owed := rest.erase c },
          .sending ticket message (rest.erase c))
  | .connect flusher =>
    if flusher then ({ hub with made := hub.made + 1 }, .enter hub.made) else (hub, .refused)
  | .enter c => if hub.locked then (hub, call) else ({ hub with locked := true }, .add c)
  | .add c => ({ hub with clients := c :: hub.clients }, .added c)
  | .added c =>
    -- The greeting is written after the unlock; no other call looks at the stream.
    ({ hub.set c ((hub.client c).write [.connected]) with locked := false }, .serve c)
  | .serve c =>
    if input.leave && (hub.client c).gone then (hub, .leave c)
    else
      match (hub.client c).queue with
      | [] => (hub, call)
      | item :: rest => (hub.set c ((hub.client c).receive marshal item rest), call)
  | .leave c => if hub.locked then (hub, call) else ({ hub with locked := true }, .remove c)
  | .remove c => ({ hub with clients := hub.clients.erase c }, .removed c)
  | .removed c => ({ hub with locked := false }, .close c)
  | .close c =>
    if (hub.client c).closed then (hub, .panicked)
    else (hub.set c { hub.client c with closed := true }, .ended c)
  | .sent | .refused | .ended _ | .panicked => (hub, call)

def disconnect (c : Nat) : Hub δ := hub.set c { hub.client c with gone := true }

def system (marshal : δ → Option String) : System (Hub δ) (Call δ) (Request δ) Input Nat :=
  ⟨fun _ => begin, act marshal, disconnect⟩

def start : Pool (Hub δ) (Call δ) := ⟨NewHub, []⟩

def after (marshal : δ → Option String) (history : List (Event (Request δ) Input Nat)) :
    Pool (Hub δ) (Call δ) :=
  run (system marshal).step start history

inductive Advances (marshal : δ → Option String) (hub : Hub δ) :
    Call δ → Hub δ → Call δ → Prop where
  | waits (call : Call δ) : Advances marshal hub call hub call
  | locks (message : SseEvent δ) (free : hub.locked = false) :
    Advances marshal hub (.lock message)
      { hub with
        locked := true
        sent := hub.sent ++ [⟨message, hub.clients⟩]
        owed := hub.clients }
      (.sending hub.sent.length message hub.clients)
  | offers (ticket : Nat) (message : SseEvent δ) (rest : List Nat) {c : Nat} (ahead : c ∈ rest)
    (opened : (hub.client c).closed = false) :
    Advances marshal hub (.sending ticket message rest)
      { hub.offer ⟨ticket, message⟩ c with owed := rest.erase c }
      (.sending ticket message (rest.erase c))
  | overruns (ticket : Nat) (message : SseEvent δ) (rest : List Nat) {c : Nat} (ahead : c ∈ rest)
    (shut : (hub.client c).closed = true) :
    Advances marshal hub (.sending ticket message rest) hub .panicked
  | unlocks (ticket : Nat) (message : SseEvent δ) :
    Advances marshal hub (.sending ticket message []) { hub with locked := false } .sent
  | refuses : Advances marshal hub (.connect false) hub .refused
  | makes : Advances marshal hub (.connect true) { hub with made := hub.made + 1 }
      (.enter hub.made)
  | enters (c : Nat) (free : hub.locked = false) :
    Advances marshal hub (.enter c) { hub with locked := true } (.add c)
  | adds (c : Nat) :
    Advances marshal hub (.add c) { hub with clients := c :: hub.clients } (.added c)
  | greets (c : Nat) :
    Advances marshal hub (.added c)
      { hub.set c ((hub.client c).write [.connected]) with locked := false } (.serve c)
  | receives (c : Nat) {item : Item δ} {rest : List (Item δ)}
    (first : (hub.client c).queue = item :: rest) :
    Advances marshal hub (.serve c) (hub.set c ((hub.client c).receive marshal item rest))
      (.serve c)
  | leaves (c : Nat) : Advances marshal hub (.serve c) hub (.leave c)
  | returns (c : Nat) (free : hub.locked = false) :
    Advances marshal hub (.leave c) { hub with locked := true } (.remove c)
  | removes (c : Nat) :
    Advances marshal hub (.remove c) { hub with clients := hub.clients.erase c } (.removed c)
  | frees (c : Nat) : Advances marshal hub (.removed c) { hub with locked := false } (.close c)
  | closes (c : Nat) (opened : (hub.client c).closed = false) :
    Advances marshal hub (.close c) (hub.set c { hub.client c with closed := true }) (.ended c)
  | recloses (c : Nat) (shut : (hub.client c).closed = true) :
    Advances marshal hub (.close c) hub .panicked

theorem getElem?_mod_eq_none {rest : List Nat} {pick : Nat}
    (none : rest[pick % rest.length]? = none) : rest = [] := by
  have beyond := List.getElem?_eq_none_iff.mp none
  by_contra filled
  have some := List.length_pos_iff.mpr filled
  have := Nat.mod_lt pick some
  omega

theorem act_advances (marshal : δ → Option String) (hub : Hub δ) (call : Call δ) (input : Input) :
    Advances marshal hub call (act marshal hub call input).1 (act marshal hub call input).2 := by
  cases call with
  | lock message =>
    simp only [act]
    split
    · exact .waits _
    · next free => exact .locks message (Bool.eq_false_iff.mpr free)
  | sending ticket message rest =>
    simp only [act]
    split
    · next none =>
      rw [getElem?_mod_eq_none none]
      exact .unlocks ticket message
    · next c some =>
      have ahead := List.mem_of_getElem? some
      split
      · next shut => exact .overruns ticket message rest ahead shut
      · next opened => exact .offers ticket message rest ahead (Bool.eq_false_iff.mpr opened)
  | connect flusher =>
    cases flusher with
    | true => exact .makes
    | false => exact .refuses
  | enter c =>
    simp only [act]
    split
    · exact .waits _
    · next free => exact .enters c (Bool.eq_false_iff.mpr free)
  | add c => exact .adds c
  | added c => exact .greets c
  | serve c =>
    simp only [act]
    split
    · exact .leaves c
    · split
      · exact .waits _
      · next item rest first => exact .receives c first
  | leave c =>
    simp only [act]
    split
    · exact .waits _
    · next free => exact .returns c (Bool.eq_false_iff.mpr free)
  | remove c => exact .removes c
  | removed c => exact .frees c
  | close c =>
    simp only [act]
    split
    · next shut => exact .recloses c shut
    · next opened => exact .closes c (Bool.eq_false_iff.mpr opened)
  | sent | refused | ended | panicked => exact .waits _

namespace Call

def mutex : Call δ → Option Unit
  | .sending _ _ _ | .add _ | .added _ | .remove _ | .removed _ => some ()
  | _ => none

def channel : Call δ → Option Nat
  | .enter c | .add c | .added c | .serve c | .leave c | .remove c | .removed c | .close c
  | .ended c => some c
  | _ => none

def registered : Call δ → Bool
  | .added _ | .serve _ | .leave _ | .remove _ => true
  | _ => false

def finished : Call δ → Bool
  | .ended _ => true
  | _ => false

def rest : Call δ → List Nat
  | .sending _ _ rest => rest
  | _ => []

def remaining : Call δ → Nat
  | .sending _ _ rest => rest.length + 1
  | .add _ | .remove _ => 2
  | .added _ | .removed _ => 1
  | _ => 0

end Call

def Hub.mutex : List Unit := if hub.locked then [] else [()]

end Porter.Event
