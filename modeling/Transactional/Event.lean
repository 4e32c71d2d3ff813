import Transactional.Json.Basic

/-!
# Events

Events that a program emits are kept back until its transaction has committed, and then handed to a
sink, oldest first.

* `Event` — a type and a payload.
* `Sink` — where published events go, as an action on the state of the world.
* `Sink.publishAll` — hand over a buffer.
-/

namespace Transactional

/-- **An event.** -/
structure Event where
  type : String
  payload : Json

namespace Event

instance : Inhabited Event := ⟨⟨"", .null⟩⟩

end Event

/-- **Where published events go**: how receiving one changes the state. -/
structure Sink (σ : Type) where
  publish : Event → σ → σ

namespace Sink

/-- The sink that drops every event. -/
def discard : Sink σ :=
  ⟨fun _ s => s⟩

/-- **Hand over a buffer**, oldest event first. -/
def publishAll (sink : Sink σ) (events : List Event) (s : σ) : σ :=
  events.foldl (fun s event => sink.publish event s) s

end Sink

end Transactional
