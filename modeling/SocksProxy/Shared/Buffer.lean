import Mathlib.Data.List.Basic
import Mathlib.Tactic.Common

/-!
# The direct-access buffer of `shared/buffer.c`

A `Buffer` is the block of memory between `data` and `limit` with the two pointers into it, kept as
indices.  The invariant `R ≤ W ≤ limit` that `buffer.h` draws, and that the C code asserts in every
operation, is a pair of fields, so a buffer that breaks it cannot be built.

Everything the rest of the development asks about a buffer goes through three readers:

* `Buffer.pending` — the bytes between `read` and `write`, what `buffer_read_ptr` hands out;
* `Buffer.space` — `limit - write`, what `buffer_write_ptr` reports as available;
* `Buffer.limit` — the size of the block, which no operation changes.

Compaction is visible only through `space`: `pending_compact` says the pending bytes survive the
`memmove`, and `space_compact` says what is gained.  The auto-compaction hidden in
`buffer_read_adv` is the same fact at a drained buffer.
-/

set_option autoImplicit false

namespace SocksProxy

/-- The bytes on the wire and in memory. -/
abbrev Bytes := List UInt8

/-- `struct buffer`: a block of `limit` bytes with a read and a write index. -/
structure Buffer where
  /-- The memory behind the buffer. -/
  data : Bytes
  /-- `limit - data`, fixed by `buffer_init`. -/
  limit : ℕ
  /-- The read pointer. -/
  read : ℕ
  /-- The write pointer. -/
  write : ℕ
  size_eq : data.length = limit
  read_le : read ≤ write
  write_le : write ≤ limit

namespace Buffer

/-- `buffer_init` over a freshly allocated block of `n` bytes. -/
def init (n : ℕ) : Buffer where
  data := List.replicate n 0
  limit := n
  read := 0
  write := 0
  size_eq := List.length_replicate
  read_le := Nat.le_refl 0
  write_le := Nat.zero_le n

variable (b : Buffer)

/-- `*nbyte` of `buffer_write_ptr`. -/
def space : ℕ := b.limit - b.write

/-- `buffer_can_write`. -/
def canWrite : Bool := decide (b.write < b.limit)

/-- `buffer_can_read`. -/
def canRead : Bool := decide (b.read < b.write)

/-- The bytes `buffer_read_ptr` gives access to. -/
def pending : Bytes := (b.data.drop b.read).take (b.write - b.read)

/-- Bytes stored at `buffer_write_ptr` — by `read(2)` or by `memcpy` — and then made readable with
`buffer_write_adv`.  The callers never store more than `space` bytes; the assertion of
`buffer_write_adv` appears here as a cut at that length. -/
def append (bs : Bytes) : Buffer where
  data := b.data.take b.write ++ bs.take b.space ++ b.data.drop (b.write + (bs.take b.space).length)
  limit := b.limit
  read := b.read
  write := b.write + (bs.take b.space).length
  size_eq := by
    have h1 := b.size_eq
    have h2 := b.write_le
    simp only [space, List.length_append, List.length_take, List.length_drop]
    omega
  read_le := Nat.le_add_right_of_le b.read_le
  write_le := by
    have h2 := b.write_le
    simp only [space, List.length_take]
    omega

/-- `buffer_compact`: nothing to do when `read` is at the start, a pointer reset when the buffer is
drained, and a `memmove` of the pending bytes otherwise. -/
def compact : Buffer :=
  if b.read = 0 then b
  else if b.read = b.write then
    { b with read := 0, write := 0, read_le := Nat.le_refl 0, write_le := Nat.zero_le _ }
  else
    { data := b.pending ++ b.data.drop b.pending.length
      limit := b.limit
      read := 0
      write := b.write - b.read
      size_eq := by
        have h1 := b.size_eq
        have h2 := b.write_le
        simp only [pending, List.length_append, List.length_take, List.length_drop]
        omega
      read_le := Nat.zero_le _
      write_le := by have := b.write_le; omega }

/-- `buffer_read_adv`, with its cheap compaction of a drained buffer.  As for `append`, the
assertion `read ≤ write` appears as a cut. -/
def readAdv (n : ℕ) : Buffer :=
  let b' : Buffer := { b with
    read := min (b.read + n) b.write
    read_le := Nat.min_le_right _ _ }
  if b'.read = b'.write then b'.compact else b'

/-! ## What the readers see -/

@[simp] theorem limit_init (n : ℕ) : (init n).limit = n := rfl

@[simp] theorem limit_append (bs : Bytes) : (b.append bs).limit = b.limit := rfl

@[simp] theorem limit_compact : b.compact.limit = b.limit := by
  rw [compact]; split
  · rfl
  · split <;> rfl

@[simp] theorem limit_readAdv (n : ℕ) : (b.readAdv n).limit = b.limit := by
  rw [readAdv]; dsimp only; split
  · rw [limit_compact]
  · rfl

theorem length_pending : b.pending.length = b.write - b.read := by
  have h1 := b.size_eq
  have h2 := b.write_le
  simp only [pending, List.length_take, List.length_drop]
  omega

theorem canRead_iff : b.canRead = true ↔ b.pending ≠ [] := by
  rw [canRead, decide_eq_true_iff, ← List.length_pos_iff, length_pending]
  omega

theorem canRead_eq_false_iff : b.canRead = false ↔ b.pending = [] := by
  rw [← Bool.not_eq_true, canRead_iff, not_ne_iff]

theorem canWrite_iff : b.canWrite = true ↔ 0 < b.space := by
  rw [canWrite, decide_eq_true_iff, space]
  omega

theorem canWrite_eq_false_iff : b.canWrite = false ↔ b.space = 0 := by
  rw [← Bool.not_eq_true, canWrite_iff]
  omega

@[simp] theorem pending_init (n : ℕ) : (init n).pending = [] := by
  simp [pending, init]

@[simp] theorem read_append (bs : Bytes) : (b.append bs).read = b.read := rfl

@[simp] theorem read_compact : b.compact.read = 0 := by
  rw [compact]; split
  · assumption
  · split <;> rfl

/-- Pending bytes and free space add up to what lies above the read pointer. -/
theorem length_pending_add_space : b.pending.length + b.space = b.limit - b.read := by
  have h1 := b.read_le
  have h2 := b.write_le
  rw [length_pending, space]
  omega

/-- A compacted buffer offers everything that is not pending. -/
theorem space_of_read_eq_zero (h : b.read = 0) : b.space = b.limit - b.pending.length := by
  rw [length_pending, space, h]
  omega

theorem pending_append {bs : Bytes} (h : bs.length ≤ b.space) :
    (b.append bs).pending = b.pending ++ bs := by
  have h1 := b.size_eq
  have h2 := b.write_le
  have h3 := b.read_le
  have htake : bs.take b.space = bs := List.take_of_length_le h
  simp only [pending, append, htake]
  rw [List.append_assoc, List.drop_append_of_le_length (by simp; omega)]
  have hlen : ((b.data.take b.write).drop b.read).length = b.write - b.read := by
    simp only [List.length_drop, List.length_take]; omega
  rw [List.take_append, hlen, List.take_of_length_le (by omega)]
  have hn : b.write + bs.length - b.read - (b.write - b.read) = bs.length := by omega
  rw [hn, List.take_left, List.drop_take]

theorem space_append {bs : Bytes} (h : bs.length ≤ b.space) :
    (b.append bs).space = b.space - bs.length := by
  simp only [space, append] at h ⊢
  rw [List.take_of_length_le h]
  omega

@[simp] theorem pending_compact : b.compact.pending = b.pending := by
  rw [compact]
  split
  · rfl
  · split
    · rename_i h
      simp [pending, h]
    · show (((b.pending ++ b.data.drop b.pending.length).drop 0).take (b.write - b.read - 0)) = _
      rw [List.drop_zero, Nat.sub_zero, ← b.length_pending, List.take_left]

theorem space_compact : b.compact.space = b.limit - b.pending.length := by
  rw [space_of_read_eq_zero _ b.read_compact, limit_compact, pending_compact]

theorem pending_readAdv (n : ℕ) : (b.readAdv n).pending = b.pending.drop n := by
  have h3 := b.read_le
  rw [readAdv]
  dsimp only
  have key : ∀ h : min (b.read + n) b.write ≤ b.write,
      ({ b with read := min (b.read + n) b.write, read_le := h } : Buffer).pending
        = b.pending.drop n := by
    intro h
    simp only [pending]
    rw [List.drop_take, List.drop_drop]
    rcases Nat.le_total (b.read + n) b.write with hle | hle
    · rw [Nat.min_eq_left hle]
      congr 1
      omega
    · rw [Nat.min_eq_right hle, Nat.sub_self, List.take_zero]
      have : b.write - b.read - n = 0 := by omega
      rw [this, List.take_zero]
  split
  · rw [pending_compact, key]
  · rw [key]

end Buffer

end SocksProxy
