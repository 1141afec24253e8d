import SocksProxy.Shared.Selector
import Mathlib.Algebra.Group.Int.Defs
import Mathlib.Algebra.Group.Nat.Defs

/-!
# The table of the selector

`selector.c` keeps one entry for each descriptor, at the index that is its number, in an array that
grows on demand.  Here the array is a list, and every access to `s->fds[fd]` is a lookup that can
fail: a lookup outside the array is the fault `outOfRange`.

Three things are not in the source.  A registration carries a serial number, so that two
registrations of one descriptor can be told apart; `registrations` counts them; and `moved` counts
how often the array was reallocated, since a pointer into it is good only until then.  What
`epoll_ctl` does is kept as the list of the descriptors the instance watches.  An `EPOLL_CTL_ADD`
that fails is ignored by the program and only means that there are fewer events.
-/

set_option autoImplicit false

namespace SocksProxy

namespace Selector

/-- `selector_status`. -/
inductive SelectorStatus where
  | success
  | enomem
  | maxfd
  | iargs
  | fdinuse
  | io
  deriving DecidableEq

/-- `fd_handler`: its address, and which of the callbacks of `handle_iteration` and
`selector_unregister_fd` are not NULL. -/
structure FdHandler where
  addr : ℕ
  handleRead : Bool
  handleWrite : Bool
  handleClose : Bool
  deriving DecidableEq

/-- `struct item`. -/
structure Entry where
  fd : ℤ
  interest : FdInterest
  /-- NULL in an entry that was never registered. -/
  handler : Option FdHandler
  data : ℕ
  /-- The number of the registration. -/
  serial : ℕ
  deriving DecidableEq

/-- `FD_UNUSED`. -/
def fdUnused : ℤ := -1

/-- `ITEM_USED`. -/
def Entry.used (e : Entry) : Bool := e.fd != fdUnused

/-- `item_init`. -/
def Entry.init (e : Entry) : Entry := { e with fd := fdUnused }

/-- Zeroed memory. -/
def Entry.zero : Entry := ⟨0, opNoop, none, 0, 0⟩

/-- `struct fdselector`. -/
structure FdSelector where
  /-- NULL before the first allocation. -/
  fds : Option (List Entry)
  fdSize : ℕ
  /-- What the epoll instance watches. -/
  watched : List ℤ
  eventFd : ℤ
  registrations : ℕ
  moved : ℕ

/-- What can go wrong in the selector. -/
inductive SelectorFault where
  /-- An access to `fds` outside the array. -/
  | outOfRange
  /-- An access through a pointer into an array that was reallocated. -/
  | dangling
  /-- A call through a NULL `fd_handler`. -/
  | nullHandler
  /-- A failed assertion. -/
  | assertFailed
  deriving DecidableEq

/-- `s->fds[fd]`. -/
def FdSelector.at (s : FdSelector) (fd : ℤ) : Option Entry :=
  if fd < 0 then none else s.fds.bind fun fds => fds[fd.toNat]?

/-- An assignment to `s->fds[fd]`. -/
def FdSelector.put (s : FdSelector) (fd : ℤ) (e : Entry) : FdSelector :=
  { s with fds := s.fds.map fun fds => fds.set fd.toNat e }

/-! ## Growing -/

/-- `SIZE_MAX`. -/
def sizeMax : ℕ := 2 ^ 64 - 1

/-- `sizeof(struct item)`. -/
def itemSize : ℕ := 24

/-- The loop of `next_capacity`: how often a number is halved until nothing is left of it.  A
`size_t` takes at most 64 rounds. -/
def bitCount : ℕ → ℕ → ℕ
  | 0, _ => 0
  | rounds + 1, tmp => if tmp = 0 then 0 else bitCount rounds (tmp / 2) + 1

/-- `next_capacity`. -/
def nextCapacity (n : ℕ) : ℕ :=
  let tmp := 2 ^ bitCount 64 n
  (if tmp > selectorItemsMaxSize then selectorItemsMaxSize else tmp) + 1

/-- `items_init`. -/
def itemsInit (fds : List Entry) (last : ℕ) : List Entry :=
  fds.take last ++ (fds.drop last).map Entry.init

/-- `realloc` of the array.  The new part holds anything; of an entry only `fd` is read before it is
registered, and `items_init` sets it. -/
def reallocFds (fds : List Entry) (newSize : ℕ) : List Entry :=
  fds.take newSize ++ List.replicate (newSize - fds.length) .zero

/-- `ensure_capacity`; `alloc` says whether the allocation it may need succeeds. -/
def ensureCapacity (s : FdSelector) (n : ℕ) (alloc : Bool) : FdSelector × SelectorStatus :=
  if n < s.fdSize then (s, .success)
  else if n > selectorItemsMaxSize then (s, .maxfd)
  else match s.fds with
    | none =>
      if alloc then
        ({ s with
            fds := some (itemsInit (List.replicate (nextCapacity n) .zero) 0)
            fdSize := nextCapacity n }, .success)
      else (s, .enomem)
    | some fds =>
      if nextCapacity n > sizeMax / itemSize then (s, .enomem)
      else if alloc then
        ({ s with
            fds := some (itemsInit (reallocFds fds (nextCapacity n)) s.fdSize)
            fdSize := nextCapacity n
            moved := s.moved + 1 }, .success)
      else (s, .enomem)

/-- How the calls of `selector_new` turn out. -/
structure SelectorSetup where
  malloc : Bool
  epollCreate : Bool
  /-- The descriptor `eventfd` returns. -/
  eventFd : Option ℤ
  events : Bool
  epollCtl : Bool
  table : Bool
  deriving DecidableEq

/-- `selector_new`. -/
def selectorNew (initialElements : ℕ) (o : SelectorSetup) : Option FdSelector :=
  if ¬ o.malloc ∨ ¬ o.epollCreate then none
  else match o.eventFd with
    | none => none
    | some eventFd =>
      if ¬ o.events ∨ ¬ o.epollCtl then none
      else match ensureCapacity ⟨none, 0, [eventFd], eventFd, 0, 0⟩ initialElements o.table with
        | (s, .success) => some s
        | _ => none

/-! ## Registering -/

/-- `INVALID_FD`. -/
def invalidFd (fd : ℤ) : Bool := fd < 0 || fd ≥ selectorItemsMaxSize

/-- `selector_register`. -/
def selectorRegister (s : FdSelector) (fd : ℤ) (handler : Option FdHandler)
    (interest : FdInterest) (data : ℕ) (alloc : Bool) :
    Except SelectorFault (FdSelector × SelectorStatus) :=
  if invalidFd fd ∨ handler = none then .ok (s, .iargs)
  else
    let room := if fd.toNat > s.fdSize then ensureCapacity s fd.toNat alloc else (s, .success)
    if room.2 ≠ .success then .ok room
    else match room.1.at fd with
      | none => .error .outOfRange
      | some item =>
        if item.used then .ok (room.1, .fdinuse)
        else
          .ok ({ room.1.put fd ⟨fd, interest, handler, data, room.1.registrations⟩ with
            watched := fd :: room.1.watched
            registrations := room.1.registrations + 1 }, .success)

/-- `selector_set_interest`. -/
def selectorSetInterest (s : FdSelector) (fd : ℤ) (interest : FdInterest) :
    Except SelectorFault (FdSelector × SelectorStatus) :=
  if invalidFd fd then .ok (s, .iargs)
  else match s.at fd with
    | none => .error .outOfRange
    | some item =>
      if item.used then .ok (s.put fd { item with interest := interest }, .success)
      else .ok (s, .iargs)

/-- The end of `selector_unregister_fd`. -/
def FdSelector.clear (s : FdSelector) (fd : ℤ) : FdSelector := s.put fd Entry.zero.init

/-! ## Entries -/

section Entries

variable {s s' : FdSelector} {fd fd' : ℤ} {e : Entry}

/-- The array has the size that is on record. -/
def FdSelector.Sized (s : FdSelector) : Prop := ∃ fds, s.fds = some fds ∧ fds.length = s.fdSize

/-- The entry is inside the array. -/
def FdSelector.InTable (s : FdSelector) (fd : ℤ) : Prop := 0 ≤ fd ∧ fd.toNat < s.fdSize

theorem FdSelector.Sized.at_isSome_iff (h : s.Sized) : (s.at fd).isSome = true ↔ s.InTable fd := by
  obtain ⟨fds, hfds, hlen⟩ := h
  rw [FdSelector.at, FdSelector.InTable, ← hlen]
  split
  · next hneg => simp only [Option.isSome_none, Bool.false_eq_true, false_iff]; omega
  · next hneg =>
    rw [hfds, Option.bind_some, isSome_getElem?]
    show fd.toNat < fds.length ↔ _
    omega

theorem FdSelector.Sized.at_eq_none_iff (h : s.Sized) : s.at fd = none ↔ ¬ s.InTable fd := by
  rw [← h.at_isSome_iff, Bool.not_eq_true, Option.isSome_eq_false_iff, Option.isNone_iff_eq_none]

theorem FdSelector.Sized.exists_at (h : s.Sized) (hfd : s.InTable fd) : ∃ e, s.at fd = some e :=
  Option.isSome_iff_exists.1 (h.at_isSome_iff.2 hfd)

theorem FdSelector.Sized.inTable (h : s.Sized) (he : s.at fd = some e) : s.InTable fd :=
  h.at_isSome_iff.1 (by rw [he]; rfl)

theorem FdSelector.Sized.put (h : s.Sized) (fd : ℤ) (e : Entry) : (s.put fd e).Sized := by
  obtain ⟨fds, hfds, hlen⟩ := h
  exact ⟨fds.set fd.toNat e, by rw [FdSelector.put, hfds]; rfl, by rw [List.length_set]; exact hlen⟩

theorem FdSelector.Sized.at_put_self (h : s.Sized) (hfd : s.InTable fd) (e : Entry) :
    (s.put fd e).at fd = some e := by
  obtain ⟨fds, hfds, hlen⟩ := h
  rw [FdSelector.at, if_neg (by have := hfd.1; omega), FdSelector.put, hfds, Option.map_some,
    Option.bind_some, List.getElem?_set_self (by rw [hlen]; exact hfd.2)]

theorem FdSelector.at_put_ne (s : FdSelector) (hne : fd' ≠ fd) (hfd : 0 ≤ fd) (e : Entry) :
    (s.put fd e).at fd' = s.at fd' := by
  rw [FdSelector.at, FdSelector.at, FdSelector.put]
  split
  · rfl
  · cases s.fds with
    | none => rfl
    | some fds =>
      rw [Option.map_some, Option.bind_some, Option.bind_some, List.getElem?_set_ne]
      omega

end Entries

/-! ## Growing keeps the entries -/

section Growing

variable {s : FdSelector} {n : ℕ}

theorem lt_two_pow_bitCount {rounds n : ℕ} (h : n < 2 ^ rounds) : n < 2 ^ bitCount rounds n := by
  induction rounds generalizing n with
  | zero => exact h
  | succ rounds ih =>
    rw [bitCount]
    split
    · next hz =>
      rw [hz]
      exact Nat.one_pos
    · rw [Nat.pow_succ] at h ⊢
      have := ih (n := n / 2) (by omega)
      omega

theorem lt_nextCapacity (h : n ≤ selectorItemsMaxSize) : n < nextCapacity n := by
  have hpow : n < 2 ^ bitCount 64 n :=
    lt_two_pow_bitCount (Nat.lt_of_le_of_lt h (by decide))
  rw [nextCapacity]
  split <;> omega

/-- What growing leaves as it was. -/
structure Grown (s s' : FdSelector) : Prop where
  sized : s'.Sized
  size : s.fdSize ≤ s'.fdSize
  /-- Every entry is kept. -/
  kept : ∀ fd e, s.at fd = some e → s'.at fd = some e
  /-- Every new entry is unused. -/
  unused : ∀ fd e, s.at fd = none → s'.at fd = some e → e.used = false ∧ e.interest = opNoop
  watched : s'.watched = s.watched
  eventFd : s'.eventFd = s.eventFd
  registrations : s'.registrations = s.registrations

theorem Grown.refl (h : s.Sized) : Grown s s :=
  ⟨h, Nat.le_refl _, fun _ _ he => he, fun _ _ hn he => (by rw [hn] at he; cases he), rfl, rfl, rfl⟩

theorem itemsInit_reallocFds {fds : List Entry} {newSize : ℕ} (h : fds.length ≤ newSize) :
    itemsInit (reallocFds fds newSize) fds.length =
      fds ++ List.replicate (newSize - fds.length) Entry.zero.init := by
  rw [itemsInit, reallocFds, List.take_of_length_le h, List.take_left, List.drop_left,
    List.map_replicate]

/-- **`ensure_capacity` keeps every entry, adds unused ones and makes room, or changes nothing.** -/
theorem ensureCapacity_spec (h : s.Sized) (n : ℕ) (alloc : Bool) :
    Grown s (ensureCapacity s n alloc).1 ∧
      ((ensureCapacity s n alloc).2 = .success → n < (ensureCapacity s n alloc).1.fdSize) := by
  obtain ⟨fds, hfds, hlen⟩ := h
  rw [ensureCapacity]
  split
  · next hlt => exact ⟨.refl ⟨fds, hfds, hlen⟩, fun _ => hlt⟩
  · split
    · exact ⟨.refl ⟨fds, hfds, hlen⟩, nofun⟩
    · next hge hmax =>
      rw [hfds]
      dsimp only
      split
      · exact ⟨.refl ⟨fds, hfds, hlen⟩, nofun⟩
      · split
        · have hnew := lt_nextCapacity (n := n) (by omega)
          have hinit : itemsInit (reallocFds fds (nextCapacity n)) fds.length =
              fds ++ List.replicate (nextCapacity n - fds.length) Entry.zero.init :=
            itemsInit_reallocFds (by omega)
          rw [hlen] at hinit
          refine ⟨⟨⟨_, rfl, ?_⟩, by show s.fdSize ≤ nextCapacity n; omega, ?_, ?_, rfl, rfl, rfl⟩,
            fun _ => hnew⟩
          · rw [hinit, List.length_append, List.length_replicate]
            show _ = nextCapacity n
            omega
          · intro fd e he
            rw [FdSelector.at] at he ⊢
            split at he
            · cases he
            · next hneg =>
              rw [hfds, Option.bind_some] at he
              rw [if_neg hneg, Option.bind_some, hinit,
                List.getElem?_append_left (List.getElem?_eq_some_iff.1 he).1]
              exact he
          · intro fd e hnone he
            rw [FdSelector.at] at he hnone
            split at he
            · cases he
            · next hneg =>
              rw [if_neg hneg, hfds, Option.bind_some] at hnone
              rw [Option.bind_some, hinit,
                List.getElem?_append_right (List.getElem?_eq_none_iff.1 hnone)] at he
              rw [(List.mem_replicate.1 (List.mem_of_getElem? he)).2]
              exact ⟨rfl, rfl⟩
        · exact ⟨.refl ⟨fds, hfds, hlen⟩, nofun⟩

/-- A new selector. -/
theorem selectorNew_spec {o : SelectorSetup} {s : FdSelector} (h : selectorNew n o = some s) :
    s.Sized ∧ s.watched = [s.eventFd] ∧ s.registrations = 0 ∧
      ∀ fd e, s.at fd = some e → e.used = false ∧ e.interest = opNoop := by
  rw [selectorNew] at h
  split at h
  · cases h
  · split at h
    · cases h
    · next eventFd _ =>
      split at h
      · cases h
      · split at h
        · next s' hens =>
          cases h
          rw [ensureCapacity] at hens
          split at hens
          · next hlt => exact absurd hlt (Nat.not_lt_zero _)
          · split at hens
            · cases hens
            · dsimp only at hens
              split at hens
              · cases hens
                refine ⟨⟨_, rfl, ?_⟩, rfl, rfl, fun fd e he => ?_⟩
                · rw [itemsInit, List.take_zero, List.drop_zero, List.nil_append, List.length_map,
                    List.length_replicate]
                · rw [FdSelector.at] at he
                  split at he
                  · cases he
                  · rw [Option.bind_some, itemsInit, List.take_zero, List.drop_zero,
                      List.nil_append, List.map_replicate] at he
                    rw [(List.mem_replicate.1 (List.mem_of_getElem? he)).2]
                    exact ⟨rfl, rfl⟩
              · cases hens
        · cases h

end Growing

/-! ## Registering a descriptor -/

section Registering

variable {s : FdSelector} {fd : ℤ} {handler : Option FdHandler} {interest : FdInterest} {data : ℕ}

/-- The selector once an unused entry is registered. -/
def FdSelector.registered (s : FdSelector) (fd : ℤ) (handler : Option FdHandler)
    (interest : FdInterest) (data : ℕ) : FdSelector :=
  { s.put fd ⟨fd, interest, handler, data, s.registrations⟩ with
    watched := fd :: s.watched
    registrations := s.registrations + 1 }

/-- `selector_register` fails and at most grows the table, or it fills an unused entry, or it goes
outside the array, which happens at one descriptor only. -/
theorem selectorRegister_cases (h : s.Sized) (fd : ℤ) (handler : Option FdHandler)
    (interest : FdInterest) (data : ℕ) (alloc : Bool) :
    (∃ s' ret, selectorRegister s fd handler interest data alloc = .ok (s', ret) ∧
      ret ≠ .success ∧ Grown s s' ∧
      (invalidFd fd = true ∨ handler = none ∨ fd.toNat ≠ s.fdSize)) ∨
    (∃ s' item, selectorRegister s fd handler interest data alloc =
        .ok (s'.registered fd handler interest data, .success) ∧ Grown s s' ∧ 0 ≤ fd ∧
      s'.at fd = some item ∧ item.used = false ∧ handler ≠ none ∧ fd.toNat ≠ s.fdSize) ∨
    (selectorRegister s fd handler interest data alloc = .error .outOfRange ∧
      invalidFd fd = false ∧ handler ≠ none ∧ fd.toNat = s.fdSize) := by
  rw [selectorRegister]
  by_cases hargs : invalidFd fd = true ∨ handler = none
  · rw [if_pos hargs]
    exact .inl ⟨s, .iargs, rfl, by decide, .refl h, hargs.imp_right .inl⟩
  · rw [if_neg hargs]
    obtain ⟨hfd, hh⟩ : invalidFd fd = false ∧ handler ≠ none := by
      rw [not_or, Bool.not_eq_true] at hargs
      exact hargs
    have hneg : 0 ≤ fd := by
      rw [invalidFd, Bool.or_eq_false_iff, decide_eq_false_iff_not] at hfd
      omega
    -- the table with room for the descriptor, if it can be had
    have hroom : Grown s (if fd.toNat > s.fdSize then ensureCapacity s fd.toNat alloc
          else (s, .success)).1 ∧
        ((if fd.toNat > s.fdSize then ensureCapacity s fd.toNat alloc
          else (s, .success)).2 = .success → fd.toNat ≠ s.fdSize →
          fd.toNat < (if fd.toNat > s.fdSize then ensureCapacity s fd.toNat alloc
            else (s, .success)).1.fdSize) ∧
        (fd.toNat = s.fdSize → (if fd.toNat > s.fdSize then ensureCapacity s fd.toNat alloc
          else (s, .success)) = (s, .success)) := by
      split
      · obtain ⟨hg, hlt⟩ := ensureCapacity_spec h fd.toNat alloc
        exact ⟨hg, fun hok _ => hlt hok, fun _ => by omega⟩
      · exact ⟨.refl h, fun _ _ => by show fd.toNat < s.fdSize; omega, fun _ => rfl⟩
    generalize (if fd.toNat > s.fdSize then ensureCapacity s fd.toNat alloc
      else (s, .success)) = room at hroom
    obtain ⟨s', ret⟩ := room
    obtain ⟨hg, hlt, hedge⟩ := hroom
    dsimp only at hg hlt hedge ⊢
    split
    · next hret =>
      refine .inl ⟨s', ret, rfl, hret, hg, .inr (.inr fun heq => hret ?_)⟩
      exact congrArg Prod.snd (hedge heq)
    · next hret =>
      rw [not_not] at hret
      by_cases heq : fd.toNat = s.fdSize
      · obtain ⟨rfl, -⟩ := Prod.mk.inj (hedge heq)
        have hnone : s'.at fd = none := h.at_eq_none_iff.2 fun hin => by
          have := hin.2
          omega
        rw [hnone]
        exact .inr (.inr ⟨rfl, hfd, hh, heq⟩)
      · obtain ⟨item, hitem⟩ := hg.sized.exists_at ⟨hneg, hlt hret heq⟩
        rw [hitem]
        dsimp only
        cases hu : item.used with
        | true => exact .inl ⟨s', .fdinuse, rfl, by decide, hg, .inr (.inr heq)⟩
        | false => exact .inr (.inl ⟨s', item, rfl, hg, hneg, hitem, hu, hh, heq⟩)

end Registering

end Selector

end SocksProxy
