import SocksProxy.Shared.InetText
import SocksProxy.Monitor.Replies

/-!
# Complete responses

The comment over `dispatch_line` says that every response ends with the terminator, so that the
client can tell where it is over.  The response goes line by line into a buffer of
`MONITOR_BUFFER_SIZE` bytes, and a line that finds no room is dropped without a word.  So a response
arrives whole when the buffer can hold all of it, and only then: nothing is written out while a line
is being answered.
-/

set_option autoImplicit false

namespace SocksProxy

/-- The full response to a line: its status or header lines, one line for each item, and the
terminator. -/
def Console.response [Inet] (c : Console) (line : Bytes) : Bytes := (c.idle.line line).lines.flatten

/-- **A response is complete and delimited exactly when it fits.**  In every session with nothing
pending and over every store, a non-blank line leaves its full response in `wb`, the terminator
included, if and only if that response is not longer than `wb`. -/
theorem response_complete_iff [Inet] (c : Console) (line : Bytes)
    (hempty : c.session.wb.pending = []) (hline : (splitLine line).cmd ≠ []) :
    (dispatchLine c line).session.wb.pending = c.response line ↔
      (c.response line).length ≤ monitorBufferSize := by
  constructor
  · intro h
    rw [← h]
    exact (dispatchLine c line).session.length_pending_le
  · intro hfit
    rw [← c.session.space_of_empty hempty] at hfit
    rw [dispatchLine_eq, Console.obey_wb]
    rw [Console.response, Reply.lines_line _ _ hline] at hfit ⊢
    have h := c.session.wb.offer_terminated c.session.limit_wb (by decide) hfit
    rw [h.1, hempty, List.nil_append]

section Runs

attribute [local instance] InetText.inet

/-- Nothing is lost of the list of users while there are none. -/
theorem response_complete_no_users :
    (dispatchLine (.loggedIn storeCreate) (ascii "USERS")).session.wb.pending = ascii "+OK\n.\n" :=
  ((response_complete_iff (.loggedIn storeCreate) (ascii "USERS") (Buffer.pending_init _)
    (by decide +kernel)).2 (by decide +kernel)).trans (by decide +kernel)

/-- A store whose user table is full: `user0`, `user1` and so on. -/
def crowded : MonitorStore :=
  { storeCreate with
    users := (List.range storeMaxUsers).map fun i =>
      ⟨true, ascii "user" ++ decimal i, ascii "pass", if i = 0 then .admin else .user⟩
    userCount := storeMaxUsers }

/-- The list of the users of a full table is cut short. -/
theorem response_not_complete_crowded :
    ¬ ∀ (c : Console) (line : Bytes), c.session.wb.pending = [] → (splitLine line).cmd ≠ [] →
      (dispatchLine c line).session.wb.pending = c.response line := by
  intro h
  have hempty : (Console.loggedIn crowded).session.wb.pending = [] := Buffer.pending_init _
  have hline : (splitLine (ascii "USERS")).cmd ≠ [] := by decide +kernel
  have hlong :
      monitorBufferSize < ((Console.loggedIn crowded).response (ascii "USERS")).length := by
    decide +kernel
  rw [← h _ _ hempty hline] at hlong
  exact absurd (MonitorCommandsSession.length_pending_le _) (Nat.not_le_of_lt hlong)

end Runs

end SocksProxy
