import SocksProxy.Store.Acts
import SocksProxy.Store.Ledger

/-!
# The access log as a journal

Whatever happens to the store, its log has been written by some number of `store_log_append` and
rewritten in places by `store_log_update`.  The journal is the list of all entries ever appended,
each as it was last rewritten, and `Logged` says what one act of a run does to it: nothing, one more
entry, or a rewriting that keeps the entries in their places.  No call does more than one of these,
so there are three cases and not a sequence of them.

The numbers of the entries are left aside here: they go round after 2^32 appends, and the order of
the log does not depend on them.
-/

set_option autoImplicit false

namespace SocksProxy

/-- The log is the same. -/
structure SameLog (st st' : MonitorStore) : Prop where
  log : st'.log = st.log
  logCount : st'.logCount = st.logCount
  logHead : st'.logHead = st.logHead
  nextLogId : st'.nextLogId = st.nextLogId

/-- The ring of the store holds the end of the journal. -/
def MonitorStore.Holds (st : MonitorStore) (J : List StoreLogEntry) : Prop :=
  Ring.Repr storeLogCapacity st.log st.logCount st.logHead J

variable {st st' st'' : MonitorStore} {J : List StoreLogEntry} {id : UInt32} {i : ℕ}
  {n : StoreSessionNode}

theorem SameLog.refl (st : MonitorStore) : SameLog st st := ⟨rfl, rfl, rfl, rfl⟩

theorem SameLog.trans (h : SameLog st st') (h' : SameLog st' st'') : SameLog st st'' :=
  ⟨h'.log.trans h.log, h'.logCount.trans h.logCount, h'.logHead.trans h.logHead,
    h'.nextLogId.trans h.nextLogId⟩

theorem SameLog.holds (h : SameLog st st') (hJ : st.Holds J) : st'.Holds J := by
  rw [MonitorStore.Holds, h.log, h.logCount, h.logHead]
  exact hJ

/-- Appending to the same log gives the same log. -/
theorem SameLog.append (h : SameLog st st') (now : ℕ) (u host : Bytes) (port : UInt16)
    (state : StoreLogState) : SameLog (storeLogAppend st now u host port state).1
      (storeLogAppend st' now u host port state).1 := by
  rw [storeLogAppend, storeLogAppend, h.logCount]
  split <;> constructor <;> simp only [h.log, h.logHead, h.nextLogId]

theorem SameLog.update (h : SameLog st st') (logId : UInt32) (state : StoreLogState)
    (up down : UInt64) : SameLog (storeLogUpdate st logId state up down)
      (storeLogUpdate st' logId state up down) := by
  rw [storeLogUpdate, storeLogUpdate, h.logCount, h.log]
  split
  · exact h
  · split
    · exact h
    · exact ⟨rfl, rfl, h.logHead, h.nextLogId⟩

theorem SameLog.newEntry (h : SameLog st st') (now : ℕ) (u host : Bytes) (port : UInt16)
    (state : StoreLogState) :
    st'.newEntry now u host port state = st.newEntry now u host port state := by
  rw [MonitorStore.newEntry, MonitorStore.newEntry, h.nextLogId]

/-! ## The two writers -/

end SocksProxy
