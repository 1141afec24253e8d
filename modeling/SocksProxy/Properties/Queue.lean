import SocksProxy.Lib.Runs
import SocksProxy.Shared.RawBuffer

/-!
# The buffer is a queue

Over any sequence of calls of `buffer.c`, on any block of memory: the bytes come out in the order
they went in, none is lost and none is made up, the pointers keep the order `buffer.h` draws, and a
call stops the program exactly when it asks for more than `buffer_write_ptr` or `buffer_read_ptr`
reports.
-/

set_option autoImplicit false

namespace SocksProxy

/-- A call of `buffer.c`. -/
inductive BufferCall where
  /-- Bytes are stored at `buffer_write_ptr`, and `buffer_write_adv`. -/
  | put (bs : Bytes)
  /-- `buffer_read_adv`, with what a system call returned. -/
  | take (bytes : ℤ)
  /-- `buffer_write`. -/
  | putByte (c : UInt8)
  /-- `buffer_read`. -/
  | getByte
  /-- `buffer_compact`. -/
  | compact
  /-- `buffer_reset`. -/
  | reset

/-- A buffer, and what its users have seen of it. -/
structure BufferUse where
  raw : RawBuffer
  /-- Put into it, and not thrown away by a reset. -/
  given : Bytes
  /-- Taken out of it. -/
  taken : Bytes

/-- One call. -/
def bufferStep (w : BufferUse) : BufferCall → Except BufferFault BufferUse
  | .put bs => (w.raw.store bs >>= fun b => b.writeAdv bs.length).map fun b =>
    { w with raw := b, given := w.given ++ bs }
  | .take bytes => (w.raw.readAdv bytes).map fun b =>
    { w with raw := b, taken := w.taken ++ w.raw.pending.take bytes.toNat }
  | .putByte c => (w.raw.writeByte c).map fun b =>
    { w with raw := b, given := if w.raw.canWrite then w.given ++ [c] else w.given }
  | .getByte => w.raw.readByte.map fun r =>
    { w with raw := r.2, taken := if w.raw.canRead then w.taken ++ [r.1] else w.taken }
  | .compact => .ok { w with raw := w.raw.compact }
  | .reset => .ok { raw := w.raw.reset, given := w.taken, taken := w.taken }

/-- The call asks for more than the buffer reports. -/
def BufferUse.Exceeds (w : BufferUse) : BufferCall → Prop
  | .put bs => ∀ nbyte, w.raw.writePtr = .ok nbyte → nbyte < bs.length
  | .take bytes => ∀ nbyte : ℕ, w.raw.readPtr = .ok nbyte → (nbyte : ℤ) < bytes
  | _ => False

/-- What holds of a buffer of `n` bytes between two calls. -/
structure BufferUse.IsQueue (n : ℕ) (w : BufferUse) : Prop where
  /-- `R ≤ W ≤ limit`. -/
  shape : w.raw.read ≤ w.raw.write ∧ w.raw.write ≤ w.raw.limit ∧ w.raw.limit = n ∧
    w.raw.data.length = n
  /-- What was given is what was taken and then what is pending. -/
  order : w.taken ++ w.raw.pending = w.given
  /-- A drained buffer has its whole block free. -/
  drained : w.raw.pending = [] → w.raw.writePtr = .ok n
  /-- Compaction makes room for all that is not pending. -/
  room : w.raw.compact.writePtr = .ok (n - w.raw.pending.length)
  /-- Only a call that asks for too much stops the program. -/
  faults : ∀ c, (∃ f, bufferStep w c = .error f) ↔ w.Exceeds c

/-- The buffer is one that `Buffer` describes. -/
def BufferUse.Tracks (n : ℕ) (w : BufferUse) (b : Buffer) : Prop :=
  w.raw = b.raw ∧ b.limit = n ∧ w.taken ++ b.pending = w.given ∧ (b.read = b.write → b.read = 0)

section Tracks

variable {n : ℕ} {w : BufferUse} {b : Buffer} {bs : Bytes}

/-- Compaction and advancing leave a drained buffer at its start. -/
theorem drained_compact : b.compact.read = b.compact.write → b.compact.read = 0 :=
  fun _ => b.read_compact

theorem drained_readAdv (k : ℕ) : (b.readAdv k).read = (b.readAdv k).write →
    (b.readAdv k).read = 0 := by
  rw [Buffer.readAdv]
  dsimp only
  split
  · exact fun _ => Buffer.read_compact _
  · next hne => exact fun h => absurd h hne

theorem drained_append (h : bs.length ≤ b.space) (hb : b.read = b.write → b.read = 0) :
    (b.append bs).read = (b.append bs).write → (b.append bs).read = 0 := by
  have hle := b.read_le
  have hwrite : (b.append bs).write = b.write + bs.length := by
    rw [Buffer.append]
    dsimp only
    rw [List.take_of_length_le h]
  rw [hwrite, Buffer.read_append]
  intro heq
  exact hb (by omega)

theorem tracks_put (h : w.Tracks n b) (hle : bs.length ≤ b.space) :
    ∃ w', bufferStep w (.put bs) = .ok w' ∧ w'.Tracks n (b.append bs) := by
  obtain ⟨hraw, hlim, horder, hdrained⟩ := h
  refine ⟨{ w with raw := (b.append bs).raw, given := w.given ++ bs }, ?_, rfl, hlim, ?_, ?_⟩
  · rw [bufferStep, hraw, store_writeAdv_raw b hle]
    rfl
  · rw [Buffer.pending_append b hle, ← List.append_assoc, horder]
  · exact drained_append hle hdrained

theorem tracks_take {k : ℕ} (h : w.Tracks n b) (hle : k ≤ b.pending.length) :
    ∃ w', bufferStep w (.take k) = .ok w' ∧ w'.Tracks n (b.readAdv k) := by
  obtain ⟨hraw, hlim, horder, hdrained⟩ := h
  refine ⟨{ w with raw := (b.readAdv k).raw, taken := w.taken ++ b.pending.take k }, ?_, rfl, ?_,
    ?_, drained_readAdv k⟩
  · rw [bufferStep, hraw, readAdv_raw b hle, Int.toNat_natCast]
    rfl
  · rw [Buffer.limit_readAdv, hlim]
  · rw [Buffer.pending_readAdv, List.append_assoc, List.take_append_drop, horder]

/-- A failed system call takes nothing. -/
theorem tracks_take_neg {bytes : ℤ} (h : w.Tracks n b) (hneg : bytes < 0) :
    ∃ w', bufferStep w (.take bytes) = .ok w' ∧ w'.Tracks n b := by
  obtain ⟨hraw, hlim, horder, hdrained⟩ := h
  refine ⟨w, ?_, hraw, hlim, horder, hdrained⟩
  rw [bufferStep, RawBuffer.readAdv, if_neg (by omega), Int.toNat_of_nonpos (by omega),
    List.take_zero, List.append_nil]
  rfl

theorem tracks_putByte (c : UInt8) (h : w.Tracks n b) :
    ∃ w' b', bufferStep w (.putByte c) = .ok w' ∧ w'.Tracks n b' := by
  by_cases hc : b.canWrite = true
  · have hle : [c].length ≤ b.space := (Buffer.canWrite_iff b).1 hc
    obtain ⟨w', hstep, h'⟩ := tracks_put h hle
    refine ⟨w', b.append [c], ?_, h'⟩
    rw [← hstep, bufferStep, bufferStep, RawBuffer.writeByte, h.1, canWrite_raw, if_pos hc,
      if_pos hc]
    cases b.raw.store [c] with
    | ok b' => rfl
    | error f => rfl
  · obtain ⟨hraw, hlim, horder, hdrained⟩ := h
    refine ⟨w, b, ?_, hraw, hlim, horder, hdrained⟩
    rw [bufferStep, RawBuffer.writeByte, hraw, canWrite_raw, if_neg hc, if_neg hc, ← hraw]
    rfl

theorem tracks_getByte (h : w.Tracks n b) :
    ∃ w' b', bufferStep w .getByte = .ok w' ∧ w'.Tracks n b' := by
  by_cases hc : b.canRead = true
  · obtain ⟨hraw, hlim, horder, hdrained⟩ := h
    have hlt : b.read < b.write := of_decide_eq_true hc
    have hdata : b.read < b.data.length := by
      have h1 := b.size_eq
      have h2 := b.write_le
      omega
    have hpending : b.pending = b.data[b.read] :: b.pending.drop 1 := by
      rw [Buffer.pending, List.drop_eq_getElem_cons hdata]
      obtain ⟨k, hk⟩ : ∃ k, b.write - b.read = k + 1 := ⟨b.write - b.read - 1, by omega⟩
      rw [hk, List.take_succ_cons, List.drop_succ_cons, List.drop_zero]
    have hone : 1 ≤ b.pending.length := by
      rw [hpending]
      exact Nat.le_add_left ..
    refine ⟨{ w with raw := (b.readAdv 1).raw, taken := w.taken ++ [b.data[b.read]] },
      b.readAdv 1, ?_, rfl, ?_, ?_, drained_readAdv 1⟩
    · have hget : b.raw.data[b.raw.read]? = some b.data[b.read] := List.getElem?_eq_getElem hdata
      have hadv : b.raw.readAdv 1 = .ok (b.readAdv 1).raw := readAdv_raw b hone
      rw [bufferStep, RawBuffer.readByte, hraw, canRead_raw, if_pos hc, hget, hadv]
      dsimp only [Except.map]
      rw [if_pos hc]
    · rw [Buffer.limit_readAdv, hlim]
    · rw [Buffer.pending_readAdv, List.append_assoc, List.singleton_append, ← hpending, horder]
  · obtain ⟨hraw, hlim, horder, hdrained⟩ := h
    refine ⟨w, b, ?_, hraw, hlim, horder, hdrained⟩
    rw [bufferStep, RawBuffer.readByte, hraw, canRead_raw, if_neg hc]
    dsimp only [Except.map]
    rw [if_neg hc, ← hraw]

theorem tracks_compact (h : w.Tracks n b) :
    ∃ w', bufferStep w .compact = .ok w' ∧ w'.Tracks n b.compact := by
  obtain ⟨hraw, hlim, horder, hdrained⟩ := h
  refine ⟨{ w with raw := b.compact.raw }, ?_, rfl, ?_, ?_, drained_compact⟩
  · rw [bufferStep, hraw, compact_raw]
  · rw [Buffer.limit_compact, hlim]
  · rw [Buffer.pending_compact]
    exact horder

theorem tracks_reset (h : w.Tracks n b) :
    ∃ w' b', bufferStep w .reset = .ok w' ∧ w'.Tracks n b' := by
  obtain ⟨hraw, hlim, horder, hdrained⟩ := h
  have hsize := b.size_eq
  refine ⟨_, ⟨b.data, b.limit, 0, 0, hsize, Nat.le_refl 0, Nat.zero_le _⟩, rfl, ?_, hlim, ?_, ?_⟩
  · rw [hraw]
    rfl
  · rw [Buffer.pending, Nat.sub_self, List.take_zero, List.append_nil]
  · exact fun _ => rfl

/-- A call that asks for too much meets an assertion, or stores a byte outside of the block. -/
theorem exists_error (h : w.Tracks n b) {c : BufferCall} (hc : w.Exceeds c) :
    ∃ f, bufferStep w c = .error f := by
  have hraw := h.1
  cases c with
  | put bs =>
    have hlt : b.space < bs.length := hc _ (by rw [hraw, writePtr_raw])
    refine ⟨.outOfBlock, ?_⟩
    rw [bufferStep, RawBuffer.store, hraw, writePtr_raw]
    dsimp only
    rw [if_neg (by omega)]
    rfl
  | take bytes =>
    have hlt : (b.pending.length : ℤ) < bytes := hc _ (by rw [hraw, readPtr_raw])
    have hle := b.read_le
    rw [Buffer.length_pending] at hlt
    refine ⟨.assertion, ?_⟩
    rw [bufferStep, RawBuffer.readAdv, hraw, if_pos (by omega)]
    show Except.map _ (if b.read + bytes.toNat ≤ b.write then _ else _) = _
    rw [if_neg (by omega)]
    rfl
  | putByte => exact hc.elim
  | getByte => exact hc.elim
  | compact => exact hc.elim
  | reset => exact hc.elim

/-- Any other call leaves a buffer that `Buffer` describes. -/
theorem exists_tracks (h : w.Tracks n b) {c : BufferCall} (hc : ¬w.Exceeds c) :
    ∃ w' b', bufferStep w c = .ok w' ∧ w'.Tracks n b' := by
  have hraw := h.1
  cases c with
  | put bs =>
    have hle : bs.length ≤ b.space := by
      by_contra hlt
      refine hc fun nbyte hn => ?_
      rw [hraw, writePtr_raw] at hn
      cases hn
      omega
    obtain ⟨w', hw'⟩ := tracks_put h hle
    exact ⟨w', _, hw'⟩
  | take bytes =>
    have hle : bytes ≤ b.pending.length := by
      by_contra hlt
      refine hc fun nbyte hn => ?_
      rw [hraw, readPtr_raw] at hn
      cases hn
      omega
    by_cases hneg : bytes < 0
    · obtain ⟨w', hw'⟩ := tracks_take_neg h hneg
      exact ⟨w', _, hw'⟩
    · have hcast : (bytes.toNat : ℤ) = bytes := Int.toNat_of_nonneg (by omega)
      obtain ⟨w', hw'⟩ := tracks_take (k := bytes.toNat) h (by omega)
      rw [hcast] at hw'
      exact ⟨w', _, hw'⟩
  | putByte c => exact tracks_putByte c h
  | getByte => exact tracks_getByte h
  | compact =>
    obtain ⟨w', hw'⟩ := tracks_compact h
    exact ⟨w', _, hw'⟩
  | reset => exact tracks_reset h

theorem BufferUse.Tracks.isQueue (h : w.Tracks n b) : w.IsQueue n where
  shape := by
    rw [h.1]
    exact ⟨b.read_le, b.write_le, h.2.1, b.size_eq.trans h.2.1⟩
  order := by
    rw [h.1]
    exact h.2.2.1
  drained := by
    intro hnil
    rw [h.1, pending_raw, ← List.length_eq_zero_iff, Buffer.length_pending] at hnil
    have hle := b.read_le
    have hzero := h.2.2.2 (by omega)
    rw [h.1, writePtr_raw, Buffer.space, h.2.1]
    congr 1
    omega
  room := by
    rw [h.1, compact_raw, writePtr_raw, Buffer.space_compact, h.2.1, pending_raw]
  faults := by
    intro c
    refine ⟨?_, exists_error h⟩
    rintro ⟨f, hf⟩
    by_contra hc
    obtain ⟨w', b', hstep, -⟩ := exists_tracks h hc
    rw [hf] at hstep
    cases hstep

end Tracks

/-- **The buffer is a queue**, on whatever block of memory and under whatever calls. -/
theorem buffer_is_queue (data : Bytes) (calls : List BufferCall) :
    Visits bufferStep (BufferUse.IsQueue data.length) ⟨.init data, [], []⟩ calls := by
  refine visits_of_reaches (fun w hw => ?_) calls
  obtain ⟨b, hb⟩ : ∃ b, w.Tracks data.length b := by
    refine hw.inv (I := fun w => ∃ b, w.Tracks data.length b) ?_ ?_
    · refine ⟨⟨data, data.length, 0, 0, rfl, Nat.le_refl 0, Nat.zero_le _⟩, rfl, rfl, ?_, ?_⟩
      · rw [Buffer.pending, Nat.sub_self]
        rfl
      · exact fun _ => rfl
    · rintro w c w' ⟨b, hb⟩ hstep
      by_cases hc : w.Exceeds c
      · obtain ⟨f, hf⟩ := exists_error hb hc
        rw [hf] at hstep
        cases hstep
      · obtain ⟨w'', b', hstep', hb'⟩ := exists_tracks hb hc
        rw [hstep] at hstep'
        cases hstep'
        exact ⟨b', hb'⟩
  exact hb.isQueue

end SocksProxy
