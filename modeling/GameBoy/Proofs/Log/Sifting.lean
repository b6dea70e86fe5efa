import GameBoy.Proofs.Memory.Observation

/-!
# `GameBoy.Proofs.Log.Sifting`: a log is part of the full one

A configuration that has every category at its most detailed level keeps every event. What
another one keeps of the same reports is then those events that it wants, in their order
(`Journal.Sifts`). So a full log and a configuration tell together what any log says, and a log
never says something that the full one does not.

The two logs are not of one run. They are what two machines keep that do the same, one of them
with the full configuration, and that they report the same events is what the induction on a
transaction has to show: what is reported depends on the bytes read and on the memory, and on no
configuration. Main statements:

* `Journal.Sifts.noteAll`: a log stays a part of the full one as events are noted.
* `Journal.Sifts.perform`: and as a transaction is carried out.
-/

set_option autoImplicit false

namespace GameBoy

/-! ### What is wanted -/

namespace LogConfig

/-- Whether an event is wanted. -/
def wants (config : LogConfig) (event : Event) : Bool :=
  config.shouldLog event.category event.level

/-- The configuration has every category at its most detailed level. -/
def Full (config : LogConfig) : Prop := ∀ category, config.effective category = .trace

/-- No event is too detailed for that, and none is off. -/
theorem Full.wants {config : LogConfig} (h : config.Full) (event : Event) :
    config.wants event = true := by
  rw [LogConfig.wants, shouldLog, h event.category]
  cases event <;> rfl

/-- Everything is logged, and no category has a level of its own. -/
def trace : LogConfig := silent.setGlobal .trace

theorem full_trace : trace.Full := by
  intro category
  rw [trace, effective, own_setGlobal, own_silent]
  rfl

end LogConfig

/-! ### What is kept -/

namespace Journal

/-- An event that is noted comes last if it is wanted. -/
theorem events_note (journal : Journal) (event : Event) :
    (journal.note event).events.toList =
      journal.events.toList ++ [event].filter journal.config.wants := by
  by_cases wanted : journal.config.wants event = true
  · have noted : journal.note event = { journal with events := journal.events.push event } :=
      if_pos wanted
    rw [noted, List.filter_cons_of_pos wanted, List.filter_nil]
    exact Array.toList_push
  · have noted : journal.note event = journal := if_neg wanted
    rw [noted, List.filter_cons_of_neg wanted, List.filter_nil, List.append_nil]

/-- What is read off the events that were kept grows by what is read off an event, if that is
wanted. -/
theorem filterMap_note {α : Type} (select : Event → Option α) (journal : Journal)
    (event : Event) :
    (journal.note event).events.toList.filterMap select =
      journal.events.toList.filterMap select ++
        if journal.config.wants event then (select event).toList else [] := by
  rw [events_note, List.filterMap_append]
  split
  · next wanted =>
    rw [List.filter_cons_of_pos wanted]
    cases read : select event with
    | none => rw [List.filterMap_cons_none read]; rfl
    | some value => rw [List.filterMap_cons_some read]; rfl
  · next unwanted =>
    rw [List.filter_cons_of_neg unwanted]
    rfl

/-- A journal that has kept, of the events in a full one, those that its configuration
wants. The order is the same in both, as both note at the end. -/
structure Sifts (config : LogConfig) (journal full : Journal) : Prop where
  config_eq : journal.config = config
  everything : full.config.Full
  kept : journal.events.toList = full.events.toList.filter config.wants

namespace Sifts

variable {config all : LogConfig} {journal full : Journal}

/-- At the start there is nothing in either. -/
theorem start (h : all.Full) : Sifts config (Journal.start config) (Journal.start all) :=
  ⟨rfl, h, rfl⟩

theorem note (h : Sifts config journal full) (event : Event) :
    Sifts config (journal.note event) (full.note event) := by
  refine ⟨(journal.config_note event).trans h.config_eq, ?_, ?_⟩
  · rw [config_note]
    exact h.everything
  · -- The full journal keeps the event in any case.
    have kept : [event].filter full.config.wants = [event] :=
      List.filter_cons_of_pos (h.everything.wants event)
    rw [events_note, events_note, kept, List.filter_append, h.kept, h.config_eq]

theorem noteAll (h : Sifts config journal full) (events : List Event) :
    Sifts config (journal.noteAll events) (full.noteAll events) := by
  induction events generalizing journal full with
  | nil => exact h
  | cons event rest ih => exact ih (h.note event)

/-- Two logs one after the other are sifted if both are. -/
theorem append {later laterFull : Journal} (h : Sifts config journal full)
    (h' : Sifts config later laterFull) :
    Sifts config { later with events := journal.events ++ later.events }
      { laterFull with events := full.events ++ laterFull.events } where
  config_eq := h'.config_eq
  everything := h'.everything
  kept := by
    rw [Array.toList_append, Array.toList_append, List.filter_append, h.kept, h'.kept]

/-- Carrying out a transaction reports the same to both. A write is reported by the memory, if
there is something to say about it, and everything else by the transaction itself. -/
theorem perform {α M : Type} [Memory M] (h : Sifts config journal full)
    (transaction : Transaction α) (memory : M) :
    Sifts config (transaction.perform memory journal).2.2
      (transaction.perform memory full).2.2 := by
  induction transaction generalizing memory journal full with
  | done result => exact h
  | read addr next ih => exact ih _ h memory
  | write addr value next ih =>
    refine ih ?_ _
    cases Memory.remark memory addr value with
    | none => exact h
    | some event => exact h.note event
  | report event next ih => exact ih (h.note event) memory

end Sifts

end Journal

end GameBoy
