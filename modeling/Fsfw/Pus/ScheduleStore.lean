import Fsfw.Pus.ScheduleRuns

/-!
# The schedule and the store correspond

The packets that the service has added to the store and neither sent nor deleted should be those
of the schedule.  A packet is lost to the schedule in two ways: a telecommand is inserted when
the schedule is full, and its packet stays in the store; or a filter deletes the entry behind
its window without the packet.  In runs without such steps (`KeepsTrack`) nothing is lost
(`corresponds_of_run`).
-/

open Multimap

namespace Service11TelecommandScheduling

variable {σ : Type*} {service : Service11TelecommandScheduling σ}

section

variable {tcStore : StorageManagerIF σ} {laws : tcStore.Reliable}

end

/-- Every packet that was added and neither sent nor deleted belongs to the schedule. -/
def Accounted (s : State (σ × List Event)) : Prop :=
  ∀ addr, Outstanding s.store.2 addr → addr ∈ addresses s.telecommandMap.entries

section

variable {laws : service.tcStore.Reliable} {s s' : State (σ × List Event)}

/-- Of a packet to which nothing happens, the entry stays. -/
theorem Accounted.of_log_eq (h : Accounted s) (hlog : s'.store.2 = s.store.2)
    (hmem : ∀ addr ∈ addresses s.telecommandMap.entries,
      addr ∈ addresses s'.telecommandMap.entries) :
  Accounted s'
  := by
  intro addr haddr
  rw [hlog] at haddr
  exact hmem addr (h addr haddr)

end

end Service11TelecommandScheduling
