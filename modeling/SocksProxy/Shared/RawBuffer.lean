import Mathlib.Data.Int.Notation
import SocksProxy.Shared.Buffer

/-!
# `shared/buffer.c` with its assertions

`Buffer` is the buffer as its callers use it.  Here are the functions of `buffer.c` on pointers that
nothing is known about: an assertion that fails, or a byte stored outside of the block, stops the
program.  The theorems at the end say that a caller who keeps to what `buffer_write_ptr` and
`buffer_read_ptr` report never meets a fault, and that `Buffer` is what it gets.
-/

set_option autoImplicit false

namespace SocksProxy

/-- What stops a caller that asks for too much. -/
inductive BufferFault where
  /-- An `assert`. -/
  | assertion
  /-- A byte is stored outside of the block. -/
  | outOfBlock
  deriving DecidableEq

/-- `struct buffer`, with the pointers as distances from `data`. -/
structure RawBuffer where
  /-- The memory behind the buffer. -/
  data : Bytes
  limit : ℕ
  read : ℕ
  write : ℕ

namespace RawBuffer

variable (b : RawBuffer)

/-- `buffer_reset`. -/
def reset : RawBuffer := { b with read := 0, write := 0 }

/-- `buffer_init` over a block of memory. -/
def init (data : Bytes) : RawBuffer := reset ⟨data, data.length, 0, 0⟩

/-- `buffer_can_write`. -/
def canWrite : Bool := decide ((0 : ℤ) < b.limit - b.write)

/-- `*nbyte` of `buffer_write_ptr`. -/
def writePtr : Except BufferFault ℕ :=
  if b.write ≤ b.limit then .ok (b.limit - b.write) else .error .assertion

/-- `buffer_can_read`. -/
def canRead : Bool := decide ((0 : ℤ) < b.write - b.read)

/-- `*nbyte` of `buffer_read_ptr`. -/
def readPtr : Except BufferFault ℕ :=
  if b.read ≤ b.write then .ok (b.write - b.read) else .error .assertion

/-- The bytes `buffer_read_ptr` gives access to. -/
def pending : Bytes := (b.data.drop b.read).take (b.write - b.read)

/-- `buffer_compact`. -/
def compact : RawBuffer :=
  if b.read = 0 then b
  else if b.read = b.write then { b with read := 0, write := 0 }
  else
    let n := b.write - b.read
    { b with data := (b.data.drop b.read).take n ++ b.data.drop n, read := 0, write := n }

/-- `buffer_write_adv`. -/
def writeAdv (bytes : ℤ) : Except BufferFault RawBuffer :=
  if -1 < bytes then
    if b.write + bytes.toNat ≤ b.limit then .ok { b with write := b.write + bytes.toNat }
    else .error .assertion
  else .ok b

/-- `buffer_read_adv`. -/
def readAdv (bytes : ℤ) : Except BufferFault RawBuffer :=
  if -1 < bytes then
    let b' := { b with read := b.read + bytes.toNat }
    if b'.read ≤ b'.write then .ok (if b'.read = b'.write then b'.compact else b')
    else .error .assertion
  else .ok b

/-- Bytes are stored at `buffer_write_ptr`. -/
def store (bs : Bytes) : Except BufferFault RawBuffer :=
  match b.writePtr with
  | .ok nbyte =>
    if bs.length ≤ nbyte then
      .ok { b with data := b.data.take b.write ++ bs ++ b.data.drop (b.write + bs.length) }
    else .error .outOfBlock
  | .error f => .error f

/-- `buffer_read`. -/
def readByte : Except BufferFault (UInt8 × RawBuffer) :=
  if b.canRead then
    match b.data[b.read]?, b.readAdv 1 with
    | some ret, .ok b' => .ok (ret, b')
    | none, _ => .error .outOfBlock
    | _, .error f => .error f
  else .ok (0, b)

/-- `buffer_write`. -/
def writeByte (c : UInt8) : Except BufferFault RawBuffer :=
  if b.canWrite then
    match b.store [c] with
    | .ok b' => b'.writeAdv 1
    | .error f => .error f
  else .ok b

end RawBuffer

/-! ## The buffer the callers see -/

/-- The pointers of a buffer. -/
def Buffer.raw (b : Buffer) : RawBuffer := ⟨b.data, b.limit, b.read, b.write⟩

section Raw

variable (b : Buffer) {bs : Bytes} {n : ℕ}

theorem writePtr_raw : b.raw.writePtr = .ok b.space := if_pos b.write_le

theorem readPtr_raw : b.raw.readPtr = .ok b.pending.length := by
  rw [Buffer.length_pending]
  exact if_pos b.read_le

theorem pending_raw : b.raw.pending = b.pending := rfl

theorem canWrite_raw : b.raw.canWrite = b.canWrite := by
  rw [RawBuffer.canWrite, Buffer.canWrite]
  refine decide_eq_decide.2 ?_
  show (0 : ℤ) < b.limit - b.write ↔ _
  omega

theorem canRead_raw : b.raw.canRead = b.canRead := by
  rw [RawBuffer.canRead, Buffer.canRead]
  refine decide_eq_decide.2 ?_
  show (0 : ℤ) < b.write - b.read ↔ _
  omega

theorem compact_raw : b.raw.compact = b.compact.raw := by
  have hlen : b.pending.length = b.write - b.read := b.length_pending
  rw [RawBuffer.compact, Buffer.compact]
  show (if b.read = 0 then b.raw else _) = _
  by_cases h0 : b.read = 0
  · rw [if_pos h0, if_pos h0]
  · rw [if_neg h0, if_neg h0]
    show (if b.read = b.write then _ else _) = _
    by_cases hw : b.read = b.write
    · rw [if_pos hw, if_pos hw]
      rfl
    · rw [if_neg hw, if_neg hw]
      show RawBuffer.mk (b.pending ++ b.data.drop (b.write - b.read)) b.limit 0
          (b.write - b.read) =
        RawBuffer.mk (b.pending ++ b.data.drop b.pending.length) b.limit 0 (b.write - b.read)
      rw [hlen]

/-- Storing bytes and advancing past them is `append`. -/
theorem store_writeAdv_raw (h : bs.length ≤ b.space) :
    (b.raw.store bs >>= fun b' => b'.writeAdv bs.length) = .ok (b.append bs).raw := by
  have htake : bs.take b.space = bs := List.take_of_length_le h
  have hle := b.write_le
  rw [RawBuffer.store, writePtr_raw]
  dsimp only
  rw [if_pos h]
  dsimp only [bind, Except.bind]
  rw [Buffer.space] at h
  rw [RawBuffer.writeAdv, if_pos (by omega), Int.toNat_natCast]
  rw [if_pos (by show b.write + bs.length ≤ b.limit; omega)]
  show _ = Except.ok (RawBuffer.mk (b.append bs).data b.limit b.read (b.append bs).write)
  have hdata : (b.append bs).data =
      b.data.take b.write ++ bs ++ b.data.drop (b.write + bs.length) := by
    rw [Buffer.append]
    dsimp only
    rw [htake]
  have hwrite : (b.append bs).write = b.write + bs.length := by
    rw [Buffer.append]
    dsimp only
    rw [htake]
  rw [hdata, hwrite]
  rfl

theorem readAdv_raw (h : n ≤ b.pending.length) : b.raw.readAdv n = .ok (b.readAdv n).raw := by
  have hle := b.read_le
  rw [Buffer.length_pending] at h
  have hmin : min (b.read + n) b.write = b.read + n := by omega
  have hraw : RawBuffer.mk b.data b.limit (b.read + n) b.write = Buffer.raw { b with
      read := min (b.read + n) b.write
      read_le := Nat.min_le_right _ _ } := by
    rw [Buffer.raw]
    dsimp only
    rw [hmin]
  rw [RawBuffer.readAdv, if_pos (by omega), Int.toNat_natCast]
  show (if b.read + n ≤ b.write then Except.ok (if b.read + n = b.write then
    (RawBuffer.mk b.data b.limit (b.read + n) b.write).compact
    else RawBuffer.mk b.data b.limit (b.read + n) b.write) else _) = _
  rw [if_pos (by omega), Buffer.readAdv]
  dsimp only
  rw [hraw, compact_raw]
  split
  · next heq => rw [if_pos (by rw [hmin]; exact heq)]
  · next hne => rw [if_neg (by rw [hmin]; exact hne)]

end Raw

end SocksProxy
