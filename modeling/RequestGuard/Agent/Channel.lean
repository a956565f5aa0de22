import RequestGuard.Cloud.Event

/-!
# The channel of events

Events wait in a queue for whoever holds its receiving end. That end is handed out once; without it
events are lost.
-/

namespace RequestGuard

open Cloud (Event)

/-- Where the receiving end of a channel is. -/
inductive Receiver where
  | available
  | taken
  | dropped
deriving DecidableEq, Repr

/-- A queue of events, the oldest first. -/
structure Channel where
  queue : List Event := []
  receiver : Receiver := .available
deriving DecidableEq, Repr

namespace Channel

def send (channel : Channel) (event : Event) : Channel :=
  if channel.receiver = .dropped then channel
  else { channel with queue := channel.queue ++ [event] }

/-- Hands out the receiving end, if it is still there. -/
def take (channel : Channel) : Bool × Channel :=
  if channel.receiver = .available then (true, { channel with receiver := .taken })
  else (false, channel)

def drain (channel : Channel) : List Event × Channel :=
  (channel.queue, { channel with queue := [] })

def drop (channel : Channel) : Channel :=
  { channel with queue := [], receiver := .dropped }

end Channel

end RequestGuard
