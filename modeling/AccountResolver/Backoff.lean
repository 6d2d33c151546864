import AccountResolver.Duration

/-!
# Retry delays

A failing key is retried after a delay that doubles with each failure, up to a
maximum.
-/

namespace AccountResolver

/-- The first retry delay and the bound on all of them. -/
structure Backoff where
  base : Duration
  limit : Duration
deriving DecidableEq, Repr

namespace Backoff

def standard : Backoff := ⟨.ofMillis 5, .ofSeconds 1000⟩

instance : Inhabited Backoff := ⟨standard⟩

/-- Two to the number of failures, or the greatest factor where that does not fit. -/
def factor (failures : UInt32) : UInt32 :=
  if failures < 32 then (1 : UInt32) <<< failures else 4294967295

/-- The delay after so many earlier failures. A product that does not fit any more is
beyond every limit. -/
def delay (b : Backoff) (failures : UInt32) : Duration :=
  match b.base.scale? (factor failures) with
  | some d => d.min b.limit
  | none => b.limit

end Backoff

end AccountResolver
