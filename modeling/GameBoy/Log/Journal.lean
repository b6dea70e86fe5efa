import GameBoy.Log.Event

/-!
# `GameBoy.Log.Journal`: the events a machine has logged

A journal holds a configuration and the events that the configuration wanted
when they were reported, oldest first. Nothing is taken out of it, and a report
does not change the configuration, so a journal only grows.
-/

set_option autoImplicit false

namespace GameBoy

/-- The log of a machine. -/
structure Journal where
  /-- Which events are kept. -/
  config : LogConfig
  /-- The kept events, oldest first. -/
  events : Array Event

namespace Journal

/-- A journal with nothing in it yet. -/
def start (config : LogConfig) : Journal := ⟨config, #[]⟩

/-- Reports an event, which is kept if it is wanted. -/
def note (journal : Journal) (event : Event) : Journal :=
  if journal.config.shouldLog event.category event.level then
    { journal with events := journal.events.push event }
  else journal

/-- A report does not change what is wanted. -/
@[simp]
theorem config_note (journal : Journal) (event : Event) :
    (journal.note event).config = journal.config := by
  unfold note
  split <;> rfl

/-- Reports events in order. -/
def noteAll (journal : Journal) (events : List Event) : Journal :=
  events.foldl note journal

/-- Nor do several. -/
theorem config_noteAll (journal : Journal) (events : List Event) :
    (journal.noteAll events).config = journal.config := by
  induction events generalizing journal with
  | nil => rfl
  | cons event rest ih => exact (ih (journal.note event)).trans (journal.config_note event)

/-- The kept events as lines of a log. -/
def records (journal : Journal) : List Record :=
  journal.events.toList.map Event.record

end Journal

end GameBoy
