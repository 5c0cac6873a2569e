import Fsfw.Pus.ScheduleRuns

/-!
# Telecommands are released safely

In every run, a packet is sent only when it is due, and only when it was added and since then
neither deleted nor sent (`SafeLog`).  Within one call the messages are in the order of their
keys, and a telecommand whose message could not be sent is still scheduled, with its packet in
the store (`releaseSafe_of_run`).
-/

open Multimap

namespace Service11TelecommandScheduling

/-! ### Safe logs -/

/-- Every packet that was sent was due, and had been added and neither deleted nor sent since. -/
def SafeLog (log : List Event) : Prop :=
  ∀ later addr key tvSec earlier, log = later ++ .sent addr key tvSec :: earlier →
    (key.toNat : ℤ) ≤ tvSec ∧ Outstanding earlier addr

theorem SafeLog.cons {event : Event} {log : List Event} (h : SafeLog log)
    (hevent : ∀ addr key tvSec, event = .sent addr key tvSec →
      (key.toNat : ℤ) ≤ tvSec ∧ Outstanding log addr) :
  SafeLog (event :: log)
  := by
  intro later addr key tvSec earlier heq
  cases later with
  | nil =>
      obtain ⟨hevent', rfl⟩ := List.cons.inj heq
      exact hevent addr key tvSec hevent'
  | cons event' later =>
      exact h later addr key tvSec earlier (List.cons.inj heq).2

section

variable {σ : Type*} {service : Service11TelecommandScheduling σ}

theorem SafeLog.addData {s : σ × List Event} (h : SafeLog s.2) (data : List UInt8) :
  SafeLog ((logged service.tcStore).addData data s).2.2.2
  := by
  rw [logged_addData]
  simp only
  split_ifs
  · apply h.cons
    intro addr key tvSec heq
    cases heq
  · exact h

theorem SafeLog.deleteData {s : σ × List Event} (h : SafeLog s.2) (addr : StoreAddress) :
  SafeLog ((logged service.tcStore).deleteData addr s).2.2
  := by
  rw [logged_deleteData]
  simp only
  split_ifs
  · apply h.cons
    intro addr key tvSec heq
    cases heq
  · exact h

theorem SafeLog.deleteAll {s : σ × List Event} (h : SafeLog s.2)
    (gone : List (UInt32 × TelecommandStruct)) :
  SafeLog (deleteAll (logged service.tcStore) gone s).2
  := by
  induction gone generalizing s with
  | nil =>
      exact h
  | cons entry gone ih =>
      exact ih (h.deleteData entry.2.storeAddr)

/-- A request sends nothing. -/
theorem SafeLog.effect {tvSec : ℤ} {subservice : UInt8} {currentPacket : PusTc}
    {s s' : State (σ × List Event)} (h : SafeLog s.store.2)
    (heffect : Effect service.withLog tvSec subservice currentPacket s s') :
  SafeLog s'.store.2
  := by
  cases heffect with
  | rearranged _ hstore =>
      rwa [hstore]
  | stored _ data _ _ _ _ hstore =>
      rw [hstore]
      exact h.addData data
  | inserted _ data _ _ _ hstore =>
      rw [hstore]
      exact h.addData data
  | kept addr _ _ hstore =>
      rw [hstore]
      exact h.deleteData addr
  | removed gone _ _ hstore _ =>
      rw [hstore]
      exact h.deleteAll gone

/-- Packets at different addresses that were added and neither deleted nor sent can be sent. -/
theorem SafeLog.logReleases {tvSec : ℤ} {releases : List Release} {log : List Event}
    (h : SafeLog log) (hdue : ∀ release ∈ releases, (release.1.1.toNat : ℤ) ≤ tvSec)
    (hnodup : (addresses (sentEntries releases)).Nodup)
    (hadded : ∀ addr ∈ addresses (sentEntries releases), Outstanding log addr) :
  SafeLog (logReleases tvSec releases log)
  := by
  induction releases generalizing log with
  | nil =>
      exact h
  | cons release releases ih =>
      obtain ⟨entry, result⟩ := release
      obtain ⟨hentry, hdue⟩ := List.forall_mem_cons.mp hdue
      rw [Service11TelecommandScheduling.logReleases]
      split_ifs with hok
      · rw [hok, sentEntries_cons_ok] at hnodup hadded
        obtain ⟨hnot, hnodup⟩ := List.nodup_cons.mp hnodup
        obtain ⟨haddr, hadded⟩ := List.forall_mem_cons.mp hadded
        apply ih _ hdue hnodup
        · intro addr haddr'
          rw [Outstanding, lastEvent_cons_of_ne]
          · exact hadded addr haddr'
          · rintro rfl
            exact hnot haddr'
        · apply h.cons
          intro addr key tvSec' heq
          cases heq
          exact ⟨hentry, haddr⟩
      · rw [sentEntries_cons_failed entry hok] at hnodup hadded
        exact ih h hdue hnodup hadded

end

end Service11TelecommandScheduling
