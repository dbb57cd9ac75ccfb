import SsP2p.Core.Utils

/-!
# Observers

The part of `base_observer` that the observers of both layers share: the id and
the time from which on the storage may delete them.
-/

namespace SsP2p

abbrev defaultExpireTime : ℕ := 20

/-- `DEFAULT_OBSERVER_STRAGE_TICK_TIME_s` as `observer_strage` sees it. -/
abbrev observerStrageTickTime : ℕ := 60

/-- `base_observer`; times are seconds since the epoch. -/
structure BaseObserver where
  id : Uuid
  expireAt : ℕ
  expireFlag : Bool
  deriving DecidableEq

namespace BaseObserver

/-- The constructor at time `now`, with the id the random generator drew. -/
def make (id : Uuid) (now : ℕ) : BaseObserver :=
  ⟨id, now + defaultExpireTime, false⟩

def destructSelf (observer : BaseObserver) : BaseObserver :=
  { observer with expireAt := 0 }

def extendExpireAt (observer : BaseObserver) (now t : ℕ) : BaseObserver :=
  { observer with expireAt := now + t }

def isExpired (observer : BaseObserver) (now : ℕ) : Bool :=
  observer.expireFlag || decide (observer.expireAt ≤ now)

@[simp]
theorem id_make (id : Uuid) (now : ℕ) : (make id now).id = id := rfl

@[simp]
theorem id_destructSelf (observer : BaseObserver) :
    observer.destructSelf.id = observer.id := rfl

@[simp]
theorem expireAt_destructSelf (observer : BaseObserver) :
    observer.destructSelf.expireAt = 0 := rfl

@[simp]
theorem id_extendExpireAt (observer : BaseObserver) (now t : ℕ) :
    (observer.extendExpireAt now t).id = observer.id := rfl

/-- A destructed observer is deleted by the next tick, whenever it comes. -/
@[simp]
theorem isExpired_destructSelf (observer : BaseObserver) (now : ℕ) :
    observer.destructSelf.isExpired now = true := by
  simp [isExpired]

end BaseObserver

end SsP2p
