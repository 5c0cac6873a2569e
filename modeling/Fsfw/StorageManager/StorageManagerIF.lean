import Fsfw.ReturnValues

/-!
# Stores

The users of a store know it by its interface only.  A store keeps its state in an
environment of type `σ`, and names the data it holds by store addresses.
-/

/-- The address of a packet in a store. -/
structure StoreAddress where
  poolIndex : UInt16
  packetIndex : UInt16
  deriving DecidableEq, Repr

/-- The address that stands for no packet. -/
def StoreAddress.invalid : StoreAddress :=
  ⟨0xFFFF, 0xFFFF⟩

/-- The operations of a store that its users call. -/
structure StorageManagerIF (σ : Type*) where
  addData : List UInt8 → σ → ReturnValue × StoreAddress × σ
  deleteData : StoreAddress → σ → ReturnValue × σ

/-- What a store promises its users: it holds packets at addresses, and deleting a packet
frees its address and no other one. -/
structure StorageManagerIF.Lawful {σ : Type*} (S : StorageManagerIF σ) where
  contents : σ → StoreAddress → Option (List UInt8)
  contents_deleteData : ∀ storeId s,
    contents (S.deleteData storeId s).2 storeId = none
  contents_deleteData_of_ne : ∀ storeId s storeId', storeId' ≠ storeId →
    contents (S.deleteData storeId s).2 storeId' = contents s storeId'

/-- What a store promises about the results it returns: a packet that was added is at an address
that was free, and is there until it is deleted.  A call that fails changes nothing. -/
structure StorageManagerIF.Reliable {σ : Type*} (S : StorageManagerIF σ) where
  contents : σ → StoreAddress → Option (List UInt8)
  free_of_addData : ∀ data s, (S.addData data s).1 = .ok →
    contents s (S.addData data s).2.1 = none
  contents_addData : ∀ data s, (S.addData data s).1 = .ok →
    contents (S.addData data s).2.2 =
      Function.update (contents s) (S.addData data s).2.1 (some data)
  contents_addData_failed : ∀ data s, (S.addData data s).1 ≠ .ok →
    contents (S.addData data s).2.2 = contents s
  contents_deleteData : ∀ storeId s, (S.deleteData storeId s).1 = .ok →
    contents (S.deleteData storeId s).2 = Function.update (contents s) storeId none
  contents_deleteData_failed : ∀ storeId s, (S.deleteData storeId s).1 ≠ .ok →
    contents (S.deleteData storeId s).2 = contents s

/-- What a store promises further: a packet that is there can be deleted, and no packet is at the
invalid address. -/
structure StorageManagerIF.Reliable.Faultless {σ : Type*} {S : StorageManagerIF σ}
    (laws : S.Reliable) : Prop where
  deletes : ∀ storeId s, laws.contents s storeId ≠ none → (S.deleteData storeId s).1 = .ok
  valid : ∀ data s, (S.addData data s).1 = .ok →
    (S.addData data s).2.1 ≠ StoreAddress.invalid
