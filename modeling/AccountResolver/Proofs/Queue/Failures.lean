import AccountResolver.Queue

/-!
# Failures of keys

The failures of a key are counted since it last succeeded, up to the greatest number that the
counter can hold.
-/

namespace AccountResolver.Queue

open Resource (Key)

theorem toNat_oneMore (n : UInt32) : (oneMore n).toNat = min (n.toNat + 1) 4294967295 := by
  have hlt : n.toNat < 4294967296 := n.toNat_lt
  unfold oneMore
  split
  · next h =>
    have hn : n.toNat < 4294967295 := UInt32.lt_iff_toNat_lt.1 h
    have hone : (1 : UInt32).toNat = 1 := rfl
    rw [UInt32.toNat_add, hone]
    omega
  · next h =>
    have hn : ¬ n.toNat < 4294967295 := fun hn => h (UInt32.lt_iff_toNat_lt.2 hn)
    omega

/-- What the counter shows after so many failures. -/
def counted (n : Nat) : UInt32 := .ofNat (min n 4294967295)

theorem toNat_counted (n : Nat) : (counted n).toNat = min n 4294967295 := by
  unfold counted
  rw [UInt32.toNat_ofNat']
  omega

theorem counted_succ (n : Nat) : counted (n + 1) = oneMore (counted n) := by
  apply UInt32.toNat_inj.1
  rw [toNat_oneMore, toNat_counted, toNat_counted]
  omega

theorem counted_mono {m n : Nat} (h : m ≤ n) : counted m ≤ counted n := by
  rw [UInt32.le_iff_toNat_le, toNat_counted, toNat_counted]
  omega

/-! ### The count of a key -/

theorem failureCount_fail (q : Queue) (k x : Key) :
    (q.fail k).failureCount x = if x = k then oneMore (q.failureCount k) else q.failureCount x := by
  unfold failureCount
  show ((q.failures.put k (oneMore (q.failureCount k))).get? x).getD 0 = _
  rw [Table.get?_put]
  split <;> rfl

theorem failureCount_forget (q : Queue) (k x : Key) :
    (q.forget k).failureCount x = if x = k then 0 else q.failureCount x := by
  show ((q.failures.erase k).get? x).getD 0 = _
  rw [Table.get?_erase]
  split <;> rfl

theorem failureCount_add (q : Queue) (k x : Key) :
    (q.add k).failureCount x = q.failureCount x := by
  unfold add
  split <;> rfl

theorem failureCount_take (q : Queue) (x : Key) : q.take.failureCount x = q.failureCount x := by
  unfold take
  split
  · rfl
  · split <;> rfl

theorem failureCount_done (q : Queue) (k x : Key) :
    (q.done k).failureCount x = q.failureCount x := rfl

theorem failureCount_close (q : Queue) (x : Key) : q.close.failureCount x = q.failureCount x := rfl

end AccountResolver.Queue
