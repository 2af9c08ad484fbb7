import HomeTiles.Notices

/-!
# Storage: one record on a device

A `Storage` says how a record is loaded from, saved to and cleared from a device,
the part of the world that keeps it. Loading never changes the device; saving and
clearing give an `Outcome`. `Storage.within` turns a storage on a device into one
on a larger device that holds the first.
-/

namespace HomeTiles

/-- The name that the preferences are stored under. -/
def storeName : String := "homepage_persistent_store"

/-- What saving or clearing comes to: whether it worked, the device afterwards and the notices. -/
structure Outcome (σ : Type) where
  result : Except Fault Unit
  device : σ
  notices : List Notice := []

/-- A place for one record on a device. -/
structure Storage (σ : Type) where
  /-- The record, if there is one, and the notices of looking for it. -/
  load : σ → Except Fault (Option Value) × List Notice
  save : Value → σ → Outcome σ
  clear : σ → Outcome σ

/-- A storage on a part of a larger device. -/
def Storage.within {σ ω : Type} (storage : Storage σ) (part : ω → σ) (replace : ω → σ → ω) :
    Storage ω where
  load whole := storage.load (part whole)
  save record whole :=
    let outcome := storage.save record (part whole)
    { outcome with device := replace whole outcome.device }
  clear whole :=
    let outcome := storage.clear (part whole)
    { outcome with device := replace whole outcome.device }

end HomeTiles
