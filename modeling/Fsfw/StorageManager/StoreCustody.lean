import Fsfw.Library.Custody
import Fsfw.StorageManager.PacketStore

/-!
# Who has the packets in a store

The packets in a store are in the hands of holders, who know their addresses.  A packet that is
stored is given to the one who stores it, and a packet is deleted by the one who has it.
-/

namespace StorageManagerIF.Reliable

variable {σ : Type*} {S : StorageManagerIF σ} (laws : S.Reliable) {packet : List UInt8}
  {storeId : StoreAddress} {s s' : σ} {result : ReturnValue}

/-- A packet that is stored is at an address that was free. -/
theorem contents_of_added (hadd : S.addData packet s = (.ok, storeId, s')) :
  laws.contents s storeId = none ∧
    laws.contents s' = Function.update (laws.contents s) storeId (some packet)
  := by
  have hfree := laws.free_of_addData packet s
  have hstored := laws.contents_addData packet s
  rw [hadd] at hfree hstored
  exact ⟨hfree rfl, hstored rfl⟩

theorem contents_of_not_added (hadd : S.addData packet s = (result, storeId, s'))
    (hresult : result ≠ .ok) :
  laws.contents s' = laws.contents s
  := by
  have hfailed := laws.contents_addData_failed packet s
  rw [hadd] at hfailed
  exact hfailed hresult

end StorageManagerIF.Reliable

namespace Keeps

variable {σ ι : Type*} [DecidableEq ι] {S : PacketStoreIF σ} (laws : S.Reliable)
  {held : ι → List StoreAddress} {i : ι} {packet : List UInt8} {storeId : StoreAddress}
  {s s' : σ}

/-- A packet is stored for a holder. -/
theorem addData (h : Keeps held (laws.contents s))
    (hadd : S.addData packet s = (.ok, storeId, s')) (i : ι) :
  Keeps (Function.update held i (held i ++ [storeId])) (laws.contents s')
  := by
  obtain ⟨hfree, hcontents⟩ := laws.contents_of_added hadd
  rw [hcontents]
  exact h.give hfree i packet

/-- A packet is deleted by its holder. -/
theorem deleteData (h : Keeps held (laws.contents s)) (hheld : storeId ∈ held i) :
  Keeps (Function.update held i ((held i).erase storeId))
    (laws.contents (S.deleteData storeId s).2)
  := by
  rw [laws.contents_deleteData_eq]
  exact h.drop hheld

/-- What is stored for somebody else is not where a packet is. -/
theorem contents_addData (h : Keeps held (laws.contents s))
    (hadd : S.addData packet s = (.ok, storeId, s')) {a : StoreAddress} (ha : a ∈ held i) :
  laws.contents s' a = laws.contents s a
  := by
  obtain ⟨hfree, hcontents⟩ := laws.contents_of_added hadd
  rw [hcontents, Function.update_of_ne]
  rintro rfl
  exact h.ne_none ha hfree

/-- What a holder deletes is not a packet of another holder. -/
theorem contents_deleteData (h : Keeps held (laws.contents s)) {j : ι} (hj : storeId ∈ held j)
    (hij : i ≠ j) {a : StoreAddress} (ha : a ∈ held i) :
  laws.contents (S.deleteData storeId s).2 a = laws.contents s a
  := by
  rw [laws.contents_deleteData_eq, Function.update_of_ne]
  rintro rfl
  exact hij (h.eq_of_mem ha hj)

end Keeps
