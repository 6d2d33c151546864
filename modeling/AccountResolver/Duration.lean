/-!
# Durations

A duration is a number of seconds of 64 bits and of nanoseconds below one
second. The product with a factor may not fit any more.
-/

namespace AccountResolver

def nanosPerSecond : Nat := 1000000000

structure Duration where
  seconds : UInt64
  nanos : Fin nanosPerSecond
deriving DecidableEq, Repr

namespace Duration

def toNanos (d : Duration) : Nat := d.seconds.toNat * nanosPerSecond + d.nanos.val

/-- The duration of whole seconds and nanoseconds, where it fits. -/
def ofParts? (seconds nanos : Nat) : Option Duration :=
  if h : seconds < UInt64.size ∧ nanos < nanosPerSecond then
    some ⟨UInt64.ofNatLT seconds h.1, ⟨nanos, h.2⟩⟩
  else none

def ofMillis (ms : UInt64) : Duration :=
  ⟨ms / 1000, ⟨ms.toNat % 1000 * 1000000, by
    have h : ms.toNat % 1000 < 1000 := Nat.mod_lt _ (by decide)
    show ms.toNat % 1000 * 1000000 < 1000000000
    omega⟩⟩

def toMillis (d : Duration) : Nat := d.toNanos / 1000000

def ofSeconds (s : UInt64) : Duration := ⟨s, ⟨0, by decide⟩⟩

/-- The product with a factor, where it fits: nanoseconds carry over into seconds. -/
def scale? (d : Duration) (factor : UInt32) : Option Duration :=
  let nanos := d.nanos.val * factor.toNat
  ofParts? (d.seconds.toNat * factor.toNat + nanos / nanosPerSecond) (nanos % nanosPerSecond)

def le (a b : Duration) : Bool := decide (a.toNanos ≤ b.toNanos)

def min (a b : Duration) : Duration := if a.le b then a else b

end Duration

end AccountResolver
