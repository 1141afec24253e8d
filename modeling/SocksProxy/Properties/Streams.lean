import SocksProxy.Socks.Handshake
import SocksProxy.Socks.Machine
import SocksProxy.Shared.InetText

/-!
# The bytes of a session

Four streams cross the sockets of a session, and its history has them all: what was read from the
client and from the origin, and what was written to each.  Two buffers sit between them.  What is
written to the origin is what the client sent after its CONNECT request, in order and from the first
byte, and what is written to the client is what the server answered followed by what the origin
sent; `c2o` and `o2c` hold exactly what is missing (`Slot.UpOk`, `Slot.DownOk`).

An orderly end of file closes both sockets at once, whatever the buffers hold.  So a stream is
delivered in full exactly when its buffer happens to be empty, and the history tells when this is:
the last thing that happened to the buffer is a `write()` that took all of it.
-/

set_option autoImplicit false

namespace SocksProxy

/-! ## The streams of a history -/

/-- What was read from the client. -/
def clientIn (t : List Obs) : Bytes :=
  t.flatMap fun | .recv bs => bs | _ => []

/-- What was written to the client. -/
def clientOut (t : List Obs) : Bytes :=
  t.flatMap fun | .sent bs _ => bs | _ => []

/-- What was read from the origin. -/
def originIn (t : List Obs) : Bytes :=
  t.flatMap fun | .fetched bs => bs | _ => []

/-- What was written to the origin. -/
def originOut (t : List Obs) : Bytes :=
  t.flatMap fun | .forwarded _ bs _ => bs | _ => []

/-- What the server itself answered. -/
def replies (t : List Obs) : Bytes :=
  t.flatMap fun | .reply bs => bs | _ => []

/-- The traffic through `o2c`. -/
def Obs.isDown : Obs → Bool
  | .sent .. => true
  | .fetched _ => true
  | .reply _ => true
  | _ => false

/-- The traffic through `c2o`. -/
def Obs.isUp : Obs → Bool
  | .recv _ => true
  | .forwarded .. => true
  | _ => false

/-- A `write()` that took all it was offered. -/
def Obs.complete : Obs → Bool
  | .sent bs asked => decide (bs.length = asked)
  | .forwarded _ bs asked => decide (bs.length = asked)
  | _ => false

section Streams

variable (t t' : List Obs)

@[simp] theorem clientIn_append : clientIn (t ++ t') = clientIn t ++ clientIn t' :=
  List.flatMap_append

@[simp] theorem clientOut_append : clientOut (t ++ t') = clientOut t ++ clientOut t' :=
  List.flatMap_append

@[simp] theorem originIn_append : originIn (t ++ t') = originIn t ++ originIn t' :=
  List.flatMap_append

@[simp] theorem originOut_append : originOut (t ++ t') = originOut t ++ originOut t' :=
  List.flatMap_append

@[simp] theorem replies_append : replies (t ++ t') = replies t ++ replies t' :=
  List.flatMap_append

/-- A stream only sees the observations that carry its bytes. -/
theorem flatMap_filter {f : Obs → Bytes} {p : Obs → Bool} (hf : ∀ o, p o = false → f o = [])
    (t : List Obs) : (t.filter p).flatMap f = t.flatMap f := by
  induction t with
  | nil => rfl
  | cons o t ih =>
    cases hp : p o with
    | true => rw [List.filter_cons_of_pos hp, List.flatMap_cons, List.flatMap_cons, ih]
    | false =>
      rw [List.filter_cons_of_neg (by simp [hp]), List.flatMap_cons, ih, hf o hp, List.nil_append]

theorem clientIn_up : clientIn (t.filter Obs.isUp) = clientIn t :=
  flatMap_filter (fun o h => by cases o <;> first | rfl | cases h) t

theorem originOut_up : originOut (t.filter Obs.isUp) = originOut t :=
  flatMap_filter (fun o h => by cases o <;> first | rfl | cases h) t

theorem clientOut_down : clientOut (t.filter Obs.isDown) = clientOut t :=
  flatMap_filter (fun o h => by cases o <;> first | rfl | cases h) t

theorem originIn_down : originIn (t.filter Obs.isDown) = originIn t :=
  flatMap_filter (fun o h => by cases o <;> first | rfl | cases h) t

theorem replies_down : replies (t.filter Obs.isDown) = replies t :=
  flatMap_filter (fun o h => by cases o <;> first | rfl | cases h) t

end Streams

/-! ## Towards the client -/

/-- The traffic `d` through `o2c` has left `pend` in it. -/
structure Down (d : List Obs) (pend : Bytes) : Prop where
  moments : ∀ t, t <+: d → clientOut t <+: replies t ++ originIn t
  balance : clientOut d ++ pend = replies d ++ originIn d
  settled : pend = [] ↔ d.getLast?.all Obs.complete = true

namespace Down

variable {d : List Obs} {pend : Bytes}

theorem nil : Down [] [] where
  moments := by
    intro t ht
    rw [List.prefix_nil.1 ht]
    exact List.prefix_rfl
  balance := rfl
  settled := by simp

/-- One more observation. -/
theorem concat {o : Obs} {pend' : Bytes} (h : Down d pend)
    (hb : clientOut (d ++ [o]) ++ pend' = replies (d ++ [o]) ++ originIn (d ++ [o]))
    (hs : pend' = [] ↔ o.complete = true) : Down (d ++ [o]) pend' where
  moments := by
    intro t ht
    rcases List.prefix_concat_iff.1 ht with rfl | ht
    · exact ⟨pend', hb⟩
    · exact h.moments t ht
  balance := hb
  settled := by simpa using hs

theorem reply {bs : Bytes} (h : Down d pend) (hno : originIn d = []) (hne : bs ≠ []) :
    Down (d ++ [.reply bs]) (pend ++ bs) := by
  have hb := h.balance
  rw [hno, List.append_nil] at hb
  refine h.concat ?_ (by simp [hne, Obs.complete])
  simp [clientOut, replies, originIn] at hb hno ⊢
  rw [← List.append_assoc, hb]
  simpa using hno

theorem fetch {bs : Bytes} (h : Down d pend) (hne : bs ≠ []) :
    Down (d ++ [.fetched bs]) (pend ++ bs) := by
  have hb := h.balance
  refine h.concat ?_ (by simp [hne, Obs.complete])
  simp only [clientOut_append, replies_append, originIn_append]
  simp only [clientOut, replies, originIn, List.flatMap_cons, List.flatMap_nil,
    List.append_nil] at hb ⊢
  rw [← List.append_assoc, hb, List.append_assoc]

theorem send (h : Down d pend) (n : ℕ) :
    Down (d ++ [.sent (pend.take n) pend.length]) (pend.drop n) := by
  have hb := h.balance
  refine h.concat ?_ ?_
  · simp only [clientOut_append, replies_append, originIn_append]
    simp only [clientOut, replies, originIn, List.flatMap_cons, List.flatMap_nil,
      List.append_nil] at hb ⊢
    rw [List.append_assoc, List.take_append_drop, hb]
  · rw [Obs.complete, decide_eq_true_iff, List.length_take, List.drop_eq_nil_iff]
    omega

end Down

/-- `o2c` is what the client is still to get. -/
structure Slot.DownOk (sl : Slot) : Prop where
  moments : ∀ t, t <+: sl.hist.filter Obs.isDown → clientOut t <+: replies t ++ originIn t
  down : ∀ s, sl.sess = some s → Down (sl.hist.filter Obs.isDown) s.o2c.pending
  /-- The server does not answer once the origin was heard. -/
  heard : ∀ s, sl.sess = some s → originIn (sl.hist.filter Obs.isDown) ≠ [] →
    (stmState s).isPast = true ∧ (stmState s = .done → sl.idle = false)

namespace Slot.DownOk

variable {sl sl' : Slot} {s s' : SocksSession}

theorem of_down (hs : sl.sess = some s) (hd : Down (sl.hist.filter Obs.isDown) s.o2c.pending)
    (hh : originIn (sl.hist.filter Obs.isDown) ≠ [] →
      (stmState s).isPast = true ∧ (stmState s = .done → sl.idle = false)) : sl.DownOk where
  moments := hd.moments
  down := fun s' hs' => by rw [hs] at hs'; cases hs'; exact hd
  heard := fun s' hs' => by rw [hs] at hs'; cases hs'; exact hh

theorem of_closed (hs : sl.sess = none)
    (hm : ∀ t, t <+: sl.hist.filter Obs.isDown → clientOut t <+: replies t ++ originIn t) :
    sl.DownOk where
  moments := hm
  down := fun s hs' => by rw [hs] at hs'; cases hs'
  heard := fun s hs' => by rw [hs] at hs'; cases hs'

theorem unheard (h : sl.DownOk) (hs : sl.sess = some s) (hst : (stmState s).isPast = false) :
    originIn (sl.hist.filter Obs.isDown) = [] := by
  by_contra hne
  rw [(h.heard s hs hne).1] at hst
  cases hst

/-- A step that leaves `o2c` alone. -/
theorem same (h : sl.DownOk) (hs : sl.sess = some s) (hs' : sl'.sess = some s')
    (hb : s'.o2c = s.o2c) (hd : sl'.hist.filter Obs.isDown = sl.hist.filter Obs.isDown)
    (hst : (stmState s).isPast = true → stmState s' = stmState s) (hi : sl'.idle = sl.idle) :
    sl'.DownOk := by
  refine .of_down hs' ?_ ?_
  · rw [hd, hb]
    exact h.down s hs
  · rw [hd, hi]
    intro hne
    have hh := h.heard s hs hne
    rw [hst hh.1]
    exact hh

/-- A `write()` to the client. -/
theorem write (h : sl.DownOk) (hs : sl.sess = some s) (hs' : sl'.sess = some s')
    (hst : stmState s' = stmState s) (hi : sl'.idle = sl.idle) (n : ℕ)
    (hb : s'.o2c.pending = s.o2c.pending.drop n)
    (hd : sl'.hist.filter Obs.isDown = sl.hist.filter Obs.isDown ++
      [.sent (s.o2c.pending.take n) s.o2c.pending.length]) : sl'.DownOk := by
  refine .of_down hs' ?_ ?_
  · rw [hd, hb]
    exact (h.down s hs).send n
  · rw [hd, hst, hi, originIn_append]
    intro hne
    exact h.heard s hs (by simpa [originIn] using hne)

/-- The server answers. -/
theorem reply {bs : Bytes} (h : sl.DownOk) (hs : sl.sess = some s) (hs' : sl'.sess = some s')
    (hno : originIn (sl.hist.filter Obs.isDown) = []) (hfits : bs.length ≤ s.o2c.space)
    (hne : bs ≠ []) (hb : s'.o2c = s.o2c.append bs)
    (hd : sl'.hist.filter Obs.isDown = sl.hist.filter Obs.isDown ++ [.reply bs]) : sl'.DownOk := by
  refine .of_down hs' ?_ fun hne => absurd ?_ hne
  · rw [hd, hb, Buffer.pending_append _ hfits]
    exact (h.down s hs).reply hno hne
  · rw [hd, originIn_append, hno]
    rfl

/-- An answer to a session that has not passed the handshake. -/
theorem answer {bs : Bytes} (h : sl.DownOk) (hok : sl.Ok) (hs : sl.sess = some s)
    (hs' : sl'.sess = some s') (hst : (stmState s).isPast = false) (hlen : bs.length ≤ 10)
    (hne : bs ≠ []) (hb : s'.o2c = s.o2c.append bs)
    (hd : sl'.hist.filter Obs.isDown = sl.hist.filter Obs.isDown ++ [.reply bs]) : sl'.DownOk :=
  h.reply hs hs' (h.unheard hs hst) ((hok.session s hs).room hst (by omega)) hne hb hd

end Slot.DownOk

theorem isDown_not_probe (o : Obs) (h : o.isDown = true) : o.isProbe = false := by
  cases o <;> first | rfl | cases h

theorem SessionStep.downOk [Inet] {mode : Mode} {sl sl' : Slot} (h : SessionStep mode sl sl')
    (hok : sl.Ok) (hd : sl.DownOk) : sl'.DownOk := by
  cases h with
  | accept fresh =>
    have hnil : sl.hist.filter Obs.isDown = [] := by rw [hok.fresh fresh]; rfl
    refine .of_down rfl ?_ fun hne => absurd ?_ hne
    · show Down (sl.hist.filter Obs.isDown) (Buffer.init _).pending
      rw [hnil, Buffer.pending_init]
      exact .nil
    · show originIn (sl.hist.filter Obs.isDown) = []
      rw [hnil]
      rfl
  | discard => exact ⟨hd.moments, hd.down, hd.heard⟩
  | book sess stm_eq =>
    refine hd.same sess rfl rfl rfl (fun _ => ?_) rfl
    rcases stm_eq with rfl | rfl <;> rfl
  | recv sess | greetMore sess | authMore sess | requestMore sess | forward sess | resolved sess =>
    exact hd.same sess rfl rfl (by simp [Obs.isDown]) (fun _ => rfl) rfl
  | forwardBlocked sess | armClient sess | armOrigin sess | block _ _ sess =>
    exact hd.same sess sess rfl (by simp [Obs.isDown]) (fun _ => rfl) rfl
  | lookup sess st =>
    exact hd.same sess rfl rfl (by simp [Obs.isDown]) (fun hp => by rw [st] at hp; cases hp) rfl
  | dial sess deciding allowed =>
    refine hd.same sess rfl deciding.o2c_eq ?_ (fun hp => ?_) rfl
    · rw [List.filter_append, filter_probes isDown_not_probe allowed.isProbe]
      exact List.append_nil _
    · rw [deciding.isPast_eq] at hp
      cases hp
  | greetAccept sess st | greetReject sess st | authAccept sess st | authReject sess st =>
    exact hd.answer hok sess rfl (by rw [st]; rfl) (by simp) (by simp) rfl
      (by simp [List.filter_cons, Obs.isDown])
  | connected sess st =>
    exact hd.answer hok sess rfl (by rw [st]; rfl) (by simp [connectReply]) (by simp [connectReply])
      rfl (by simp [Obs.isDown])
  | refuse sess deciding refusal =>
    refine hd.answer hok sess rfl deciding.isPast_eq ?_ ?_ (by rw [deciding.o2c_eq]) ?_
    · simp [connectReply]
    · simp [connectReply]
    · simp [List.filter_append, filter_probes isDown_not_probe refusal.isProbe, Obs.isDown]
  | expire sess idle st =>
    refine hd.reply sess rfl ?_ ((hok.session _ sess).room_of_idle idle st (by simp [connectReply]))
      (by simp [connectReply]) rfl (by simp [Obs.isDown])
    by_contra hne
    obtain ⟨hp, hdone⟩ := hd.heard _ sess hne
    rw [hdone (SocksState.eq_done_of_isPast hp st)] at idle
    cases idle
  | @send s n sess ne =>
    refine hd.write sess rfl rfl rfl n ?_ (by simp [Obs.isDown])
    rw [Buffer.pending_compact, Buffer.pending_readAdv]
    exact List.drop_eq_drop_iff.2 (by omega)
  | sendBlocked sess ne => exact hd.write sess sess rfl rfl 0 rfl (by simp [Obs.isDown])
  | fetch sess armed read served ne fits =>
    have hs := hok.session _ sess
    have hp := hs.reading _ armed read
    refine .of_down rfl ?_ fun _ => ⟨hp, fun hdone => ?_⟩
    · show Down (List.filter _ _) (Buffer.append _ _).pending
      rw [Buffer.pending_append _ fits, List.filter_append]
      exact (hd.down _ sess).fetch ne
    · by_contra hi
      have := (hs.boundDone (by simpa using hi) hdone).2
      rw [armed] at this
      cases this
  | close sess ending =>
    refine .of_closed rfl fun t ht => ?_
    have hend : t <+: sl.hist.filter Obs.isDown ∨
        t = sl.hist.filter Obs.isDown ++ [.fetched []] := by
      cases ending with
      | originEof =>
        rw [← List.prefix_concat_iff.trans Or.comm]
        simpa [List.filter_cons, Obs.isDown] using ht
      | plain | clientEof | expired =>
        exact .inl (by simpa [List.filter_cons, Obs.isDown] using ht)
    rcases hend with ht | rfl
    · exact hd.moments t ht
    · simpa [clientOut, replies, originIn] using hd.moments _ List.prefix_rfl

/-! ## Towards the origin -/

/-- Whether the client's bytes still go to a parser. -/
def SocksState.isHandshake : SocksState → Bool
  | .authGreeting => true
  | .authUserpass => true
  | .request => true
  | _ => false

/-- What the client's stream has after its CONNECT request, if `out` of it was sent to the origin
and `bs` of it was neither parsed nor sent. -/
def SocksSession.toCome (s : SocksSession) (out bs : Bytes) : Option Bytes :=
  if (stmState s).isHandshake then (s.parse (fun _ => true) bs).map fun r => r.2.2
  else some (out ++ bs)

/-- `c2o` is what the parsers or the origin are still to get.  A session that was refused without an
origin has no use for it. -/
structure Slot.UpOk (sl : Slot) : Prop where
  moments : ∀ t, t <+: sl.hist.filter Obs.isUp →
    originOut t <+: (afterConnect (clientIn t)).getD []
  stream : ∀ s, sl.sess = some s → stmState s ≠ .done ∨ s.originFd ≠ none → ∀ late,
    afterConnect (clientIn (sl.hist.filter Obs.isUp) ++ late) =
      s.toCome (originOut (sl.hist.filter Obs.isUp)) (s.c2o.pending ++ late)
  early : ∀ s, sl.sess = some s → (stmState s).isHandshake = true →
    originOut (sl.hist.filter Obs.isUp) = []
  settled : ∀ s, sl.sess = some s →
    ((sl.hist.filter Obs.isUp).getLast?.any Obs.complete = true → s.c2o.pending = []) ∧
      (s.c2o.pending = [] → (sl.hist.filter Obs.isUp).getLast?.any Obs.complete = true ∨
        originOut (sl.hist.filter Obs.isUp) = [])

namespace Slot.UpOk

variable {sl sl' : Slot} {s s' : SocksSession}

theorem of_closed (hs : sl.sess = none) (hm : ∀ t, t <+: sl.hist.filter Obs.isUp →
    originOut t <+: (afterConnect (clientIn t)).getD []) : sl.UpOk where
  moments := hm
  stream := fun s hs' => by rw [hs] at hs'; cases hs'
  early := fun s hs' => by rw [hs] at hs'; cases hs'
  settled := fun s hs' => by rw [hs] at hs'; cases hs'

/-- A step that leaves `c2o` alone. -/
theorem same (h : sl.UpOk) (hs : sl.sess = some s) (hs' : sl'.sess = some s')
    (hb : s'.c2o = s.c2o) (hu : sl'.hist.filter Obs.isUp = sl.hist.filter Obs.isUp)
    (hhand : (stmState s').isHandshake = true → (stmState s).isHandshake = true)
    (hcome : stmState s' ≠ .done ∨ s'.originFd ≠ none →
      (stmState s ≠ .done ∨ s.originFd ≠ none) ∧ ∀ out bs, s'.toCome out bs = s.toCome out bs) :
    sl'.UpOk where
  moments := by rw [hu]; exact h.moments
  stream := by
    rw [hu, hs']
    rintro _ ⟨⟩ hlive late
    obtain ⟨hlive', heq⟩ := hcome hlive
    rw [heq, hb]
    exact h.stream s hs hlive' late
  early := by
    rw [hu, hs']
    rintro _ ⟨⟩ hst
    exact h.early s hs (hhand hst)
  settled := by
    rw [hu, hs']
    rintro _ ⟨⟩
    rw [hb]
    exact h.settled s hs

/-- A parser takes a byte. -/
theorem consume {byte : UInt8} {rest : Bytes} (h : sl.UpOk) (hs : sl.sess = some s)
    (hs' : sl'.sess = some s') (hst : (stmState s).isHandshake = true)
    (hpend : s.c2o.pending = byte :: rest) (hb : s'.c2o = s.c2o.readAdv 1)
    (hu : sl'.hist.filter Obs.isUp = sl.hist.filter Obs.isUp)
    (hcome : stmState s' ≠ .done ∨ s'.originFd ≠ none →
      ∀ bs, s.toCome [] (byte :: bs) = s'.toCome [] bs) : sl'.UpOk := by
  have hout := h.early s hs hst
  have hb' : s'.c2o.pending = rest := by rw [hb, Buffer.pending_readAdv, hpend]; rfl
  refine ⟨?_, ?_, ?_, ?_⟩
  · rw [hu]
    exact h.moments
  · rw [hu, hs', hout]
    rintro _ ⟨⟩ hlive late
    have hne : stmState s ≠ .done := fun hd => by rw [hd] at hst; cases hst
    have hstream := h.stream s hs (.inl hne) late
    rw [hstream, hout, hpend, hb']
    exact hcome hlive _
  · rw [hu]
    exact fun _ _ _ => hout
  · rw [hu, hs']
    rintro _ ⟨⟩
    refine ⟨fun hc => ?_, fun _ => .inr hout⟩
    rw [(h.settled s hs).1 hc] at hpend
    cases hpend

/-- A `write()` to the origin. -/
theorem write (h : sl.UpOk) (hs : sl.sess = some s) (hs' : sl'.sess = some s')
    (hst : stmState s' = stmState s) (hlive : s.originFd ≠ none)
    (hhand : (stmState s).isHandshake = false) (n : ℕ)
    (hb : s'.c2o.pending = s.c2o.pending.drop n)
    (hu : sl'.hist.filter Obs.isUp = sl.hist.filter Obs.isUp ++
      [.forwarded (stmState s) (s.c2o.pending.take n) s.c2o.pending.length]) : sl'.UpOk := by
  have hin : clientIn (sl'.hist.filter Obs.isUp) = clientIn (sl.hist.filter Obs.isUp) := by
    rw [hu, clientIn_append]
    exact List.append_nil _
  have hout : originOut (sl'.hist.filter Obs.isUp) =
      originOut (sl.hist.filter Obs.isUp) ++ s.c2o.pending.take n := by
    rw [hu, originOut_append]
    exact congrArg _ (List.append_nil _)
  have hstream : ∀ late, afterConnect (clientIn (sl'.hist.filter Obs.isUp) ++ late) =
      some (originOut (sl'.hist.filter Obs.isUp) ++ (s.c2o.pending.drop n ++ late)) := by
    intro late
    rw [hin, h.stream s hs (.inr hlive) late, SocksSession.toCome, hhand, hout, List.append_assoc,
      ← List.append_assoc (s.c2o.pending.take n), List.take_append_drop]
    rfl
  refine ⟨fun t ht => ?_, ?_, ?_, ?_⟩
  · rw [hu] at ht
    rcases List.prefix_concat_iff.1 ht with rfl | ht
    · have := hstream []
      rw [hu, List.append_nil] at this
      rw [this, Option.getD_some]
      exact List.prefix_append ..
    · exact h.moments t ht
  · rw [hs']
    rintro _ ⟨⟩ - late
    rw [hstream, SocksSession.toCome, hst, hhand, hb]
    simp
  · rw [hs']
    rintro _ ⟨⟩ hst'
    rw [hst, hhand] at hst'
    cases hst'
  · rw [hs', hu, List.getLast?_concat, Option.any_some, Obs.complete, decide_eq_true_iff]
    rintro _ ⟨⟩
    rw [hb, List.length_take, List.drop_eq_nil_iff]
    exact ⟨fun hle => by omega, fun hle => .inl (by omega)⟩

/-- A `read()` from the client. -/
theorem got {bs : Bytes} (h : sl.UpOk) (hs : sl.sess = some s) (hs' : sl'.sess = some s')
    (hst : stmState s' = stmState s) (ho : s'.originFd = s.originFd)
    (hcome : ∀ out bs, s'.toCome out bs = s.toCome out bs) (hne : bs ≠ [])
    (hb : s'.c2o.pending = s.c2o.pending ++ bs)
    (hu : sl'.hist.filter Obs.isUp = sl.hist.filter Obs.isUp ++ [.recv bs]) : sl'.UpOk := by
  have hin : clientIn (sl'.hist.filter Obs.isUp) = clientIn (sl.hist.filter Obs.isUp) ++ bs := by
    rw [hu, clientIn_append]
    exact congrArg _ (List.append_nil _)
  have hout : originOut (sl'.hist.filter Obs.isUp) = originOut (sl.hist.filter Obs.isUp) := by
    rw [hu, originOut_append]
    exact List.append_nil _
  refine ⟨fun t ht => ?_, ?_, ?_, ?_⟩
  · rw [hu] at ht
    rcases List.prefix_concat_iff.1 ht with rfl | ht
    · rw [← hu, hout, hin]
      have hm := h.moments _ List.prefix_rfl
      cases hc : afterConnect (clientIn (sl.hist.filter Obs.isUp)) with
      | none =>
        rw [hc] at hm
        rw [List.prefix_nil.1 hm]
        exact List.nil_prefix
      | some rest =>
        rw [hc] at hm
        rw [afterConnect_append hc]
        exact hm.trans (List.prefix_append ..)
    · exact h.moments t ht
  · rw [hs', hin, hout]
    rintro _ ⟨⟩ hlive late
    rw [hst, ho] at hlive
    rw [List.append_assoc, h.stream s hs hlive, hcome, hb, List.append_assoc]
  · rw [hs', hout]
    rintro _ ⟨⟩ hst'
    rw [hst] at hst'
    exact h.early s hs hst'
  · rw [hs', hu, List.getLast?_concat]
    rintro _ ⟨⟩
    simp [Obs.complete, hb, hne]

end Slot.UpOk

section

variable {s s' : SocksSession}

theorem toCome_of_handshake (hst : (stmState s).isHandshake = true) (out bs : Bytes) :
    s.toCome out bs = (s.parse (fun _ => true) bs).map fun r => r.2.2 := by
  rw [SocksSession.toCome, if_pos hst]

theorem toCome_of_not_handshake (hst : (stmState s).isHandshake = false) (out bs : Bytes) :
    s.toCome out bs = some (out ++ bs) := by
  rw [SocksSession.toCome, if_neg (by simp [hst])]

/-- Only the state and the parsers matter. -/
theorem toCome_congr (hst : stmState s' = stmState s) (hg : s'.greeting = s.greeting)
    (ha : s'.auth = s.auth) (hr : s'.request = s.request) (out bs : Bytes) :
    s'.toCome out bs = s.toCome out bs := by
  rw [SocksSession.toCome, SocksSession.toCome, hst, parse_congr hst hg ha hr]

/-- A parsing state that goes on to another. -/
theorem toCome_of_parse {byte : UInt8} (hst : (stmState s).isHandshake = true)
    (hst' : (stmState s').isHandshake = true)
    (hp : ∀ bs, s.parse (fun _ => true) (byte :: bs) = s'.parse (fun _ => true) bs) (bs : Bytes) :
    s.toCome [] (byte :: bs) = s'.toCome [] bs := by
  rw [toCome_of_handshake hst, toCome_of_handshake hst', hp]

/-- The request is over. -/
theorem toCome_of_request {byte : UInt8} {p : RequestParser} {status : RequestStatus}
    (hst : stmState s = .request) (hst' : (stmState s').isHandshake = false)
    (h : requestParserFeed s.request byte = (p, status)) (hd : status ≠ .needMore) (bs : Bytes) :
    s.toCome [] (byte :: bs) = s'.toCome [] bs := by
  rw [toCome_of_handshake (by rw [hst]; rfl), toCome_of_not_handshake hst',
    parse_requestDone hst h hd]
  rfl

end

theorem Served.not_handshake {mode : Mode} {s : SocksSession} (h : Served mode s) :
    (stmState s).isHandshake = false := by
  rcases h with h | ⟨-, h⟩ <;> rw [h] <;> rfl

theorem isUp_not_probe (o : Obs) (h : o.isUp = true) : o.isProbe = false := by
  cases o <;> first | rfl | cases h

namespace Slot.UpOk

variable {sl sl' : Slot} {s s₁ s' : SocksSession}

/-- A step that leaves the state and all that is the client's alone. -/
theorem idle (h : sl.UpOk) (hs : sl.sess = some s) (hs' : sl'.sess = some s')
    (hb : s'.c2o = s.c2o) (hu : sl'.hist.filter Obs.isUp = sl.hist.filter Obs.isUp)
    (hst : stmState s' = stmState s) (ho : s'.originFd = s.originFd)
    (hg : s'.greeting = s.greeting) (ha : s'.auth = s.auth) (hr : s'.request = s.request) :
    sl'.UpOk := by
  refine h.same hs hs' hb hu (fun hh => hst ▸ hh) fun hl => ⟨?_, toCome_congr hst hg ha hr⟩
  rwa [hst, ho] at hl

/-- A request is answered. -/
theorem decide (h : sl.UpOk) (hs : sl.sess = some s) (hdec : Deciding s s₁)
    (hs' : sl'.sess = some s') (hb : s'.c2o = s₁.c2o)
    (hu : sl'.hist.filter Obs.isUp = sl.hist.filter Obs.isUp)
    (hst : (stmState s').isHandshake = false) : sl'.UpOk := by
  have hhand : (stmState s').isHandshake = true → (stmState s).isHandshake = true := by
    rw [hst]
    exact fun hh => by cases hh
  have hcome : (stmState s).isHandshake = false → stmState s ≠ .done →
      stmState s' ≠ .done ∨ s'.originFd ≠ none → (stmState s ≠ .done ∨ s.originFd ≠ none) ∧
        ∀ out bs, s'.toCome out bs = s.toCome out bs := by
    intro hst₀ hne _
    refine ⟨.inl hne, fun out bs => ?_⟩
    rw [toCome_of_not_handshake hst, toCome_of_not_handshake hst₀]
  cases hdec with
  | request st pending feed done =>
    exact h.consume hs hs' (by rw [st]; rfl) pending hb hu fun _ =>
      toCome_of_request st hst feed done
  | resolving st => exact h.same hs hs' hb hu hhand (hcome (by rw [st]; rfl) (by simp [st]))
  | connecting st => exact h.same hs hs' hb hu hhand (hcome (by rw [st]; rfl) (by simp [st]))

end Slot.UpOk

theorem SessionStep.upOk [Inet] {mode : Mode} {sl sl' : Slot} (h : SessionStep mode sl sl')
    (hok : sl.Ok) (hu : sl.UpOk) : sl'.UpOk := by
  cases h with
  | accept fresh =>
    have hnil : sl.hist.filter Obs.isUp = [] := by rw [hok.fresh fresh]; rfl
    refine ⟨hu.moments, ?_, ?_, ?_⟩
    · rintro s ⟨⟩ - late
      show afterConnect (clientIn (sl.hist.filter Obs.isUp) ++ late) =
        SocksSession.toCome _ _ ((Buffer.init _).pending ++ late)
      rw [hnil, Buffer.pending_init]
      rfl
    · rintro s ⟨⟩ -
      show originOut (sl.hist.filter Obs.isUp) = []
      rw [hnil]
      rfl
    · rintro s ⟨⟩
      show (Option.any _ (sl.hist.filter Obs.isUp).getLast? = true → (Buffer.init _).pending = []) ∧
        ((Buffer.init _).pending = [] → _ ∨ originOut (sl.hist.filter Obs.isUp) = [])
      rw [hnil, Buffer.pending_init]
      exact ⟨fun _ => rfl, fun _ => .inr rfl⟩
  | discard => exact ⟨hu.moments, hu.stream, hu.early, hu.settled⟩
  | book sess stm_eq =>
    refine hu.idle sess rfl rfl rfl ?_ rfl rfl rfl rfl
    rcases stm_eq with rfl | rfl <;> rfl
  | recv sess ne fits =>
    exact hu.got sess rfl rfl rfl (toCome_congr rfl rfl rfl rfl) ne (Buffer.pending_append _ fits)
      (by simp [Obs.isUp])
  | greetMore sess st pending feed =>
    have hst := congrArg SocksState.isHandshake st
    exact hu.consume sess rfl hst pending rfl rfl fun _ =>
      toCome_of_parse hst hst fun bs => parse_greetMore st st rfl rfl rfl feed
  | greetAccept sess st pending feed =>
    have hst := congrArg SocksState.isHandshake st
    refine hu.consume sess rfl hst pending rfl (by simp [Obs.isUp]) fun _ =>
      toCome_of_parse hst ?_ fun bs => parse_greetAccept st rfl rfl rfl feed
    show SocksState.isHandshake (if _ then _ else _) = true
    split <;> rfl
  | authMore sess st pending feed =>
    have hst := congrArg SocksState.isHandshake st
    exact hu.consume sess rfl hst pending rfl rfl fun _ =>
      toCome_of_parse hst hst fun bs => parse_authMore st st rfl rfl feed
  | authAccept sess st pending feed valid =>
    have hst := congrArg SocksState.isHandshake st
    exact hu.consume sess rfl hst pending rfl (by simp [Obs.isUp]) fun _ =>
      toCome_of_parse hst rfl fun bs => parse_authAccept st rfl rfl feed rfl
  | requestMore sess st pending feed =>
    have hst := congrArg SocksState.isHandshake st
    exact hu.consume sess rfl hst pending rfl rfl fun _ =>
      toCome_of_parse hst hst fun bs => parse_requestMore st st rfl feed
  | greetReject sess st pending | authReject sess st pending =>
    have ho := (hok.session _ sess).originFd_eq_none (by rw [st]; rfl)
    refine hu.consume sess rfl (congrArg SocksState.isHandshake st) pending rfl
      (by simp [Obs.isUp]) fun hlive => ?_
    exact hlive.elim (absurd rfl) (absurd ho)
  | refuse sess deciding refusal =>
    refine hu.decide sess deciding rfl rfl ?_ rfl
    rw [List.filter_append, List.filter_append, filter_probes isUp_not_probe refusal.isProbe]
    simp [Obs.isUp]
  | lookup sess st pending feed =>
    exact hu.decide sess (.request st pending feed (by simp)) rfl rfl (by simp [Obs.isUp]) rfl
  | dial sess deciding allowed =>
    refine hu.decide sess deciding rfl rfl ?_ rfl
    rw [List.filter_append, filter_probes isUp_not_probe allowed.isProbe]
    exact List.append_nil _
  | connected sess st =>
    refine hu.same sess rfl rfl (by simp [Obs.isUp]) (fun hh => by cases hh) fun _ =>
      ⟨.inl (by simp [st]), fun out bs => ?_⟩
    rw [toCome_of_not_handshake rfl, toCome_of_not_handshake (congrArg SocksState.isHandshake st)]
  | send sess | fetch sess | resolved sess =>
    exact hu.idle sess rfl rfl (by simp [Obs.isUp]) rfl rfl rfl rfl rfl
  | sendBlocked sess | armClient sess | armOrigin sess | block _ _ sess =>
    exact hu.idle sess sess rfl (by simp [Obs.isUp]) rfl rfl rfl rfl rfl
  | @forward s n sess origin served =>
    refine hu.write sess rfl rfl origin served.not_handshake n ?_ (by simp [Obs.isUp])
    rw [Buffer.pending_compact, Buffer.pending_readAdv]
    exact List.drop_eq_drop_iff.2 (by omega)
  | forwardBlocked sess origin served =>
    exact hu.write sess sess rfl origin served.not_handshake 0 rfl (by simp [Obs.isUp])
  | @expire s sess idle st =>
    refine hu.same sess rfl rfl (by simp [Obs.isUp]) (fun hh => by cases hh) fun hlive => ?_
    have ho : s.originFd ≠ none := hlive.elim (absurd rfl) id
    have hst : (stmState s).isHandshake = false := by
      by_contra hh
      refine ho ((hok.session _ sess).originFd_eq_none ?_)
      cases hs : stmState s <;> simp_all [SocksState.isHandshake, SocksState.hasOrigin]
    refine ⟨.inr ho, fun out bs => ?_⟩
    rw [toCome_of_not_handshake rfl, toCome_of_not_handshake hst]
  | close sess ending =>
    refine .of_closed rfl fun t ht => ?_
    have hend : t <+: sl.hist.filter Obs.isUp ∨ t = sl.hist.filter Obs.isUp ++ [.recv []] := by
      cases ending with
      | clientEof =>
        rw [← List.prefix_concat_iff.trans Or.comm]
        simpa [List.filter_cons, Obs.isUp] using ht
      | plain | originEof | expired =>
        exact .inl (by simpa [List.filter_cons, Obs.isUp] using ht)
    rcases hend with ht | rfl
    · exact hu.moments t ht
    · simpa [clientIn, originOut] using hu.moments _ List.prefix_rfl

/-! ## In order, and nothing in between -/

/-- At every moment of its history, each socket of a session was sent a prefix of what it is due. -/
def World.StreamsInOrder (w : World) : Prop :=
  ∀ sid t, t <+: w.hist sid →
    originOut t <+: (afterConnect (clientIn t)).getD [] ∧ clientOut t <+: replies t ++ originIn t

section Order

variable [Inet] {w : World} {listenFd monitorFd : Fd}

omit [Inet] in
theorem Slot.DownOk.unused : Slot.unused.DownOk := .of_closed rfl Down.nil.moments

omit [Inet] in
theorem Slot.UpOk.unused : Slot.unused.UpOk := by
  refine .of_closed rfl fun t ht => ?_
  rw [List.prefix_nil.1 ht]
  exact List.nil_prefix

theorem reaches_downOk (h : Reaches step (World.boot listenFd monitorFd) w) (sid : Sid) :
    (slot w sid).DownOk := by
  exact slots_of_reaches (fun hstep hok hd => hstep.downOk hok hd) .unused h sid

theorem reaches_upOk (h : Reaches step (World.boot listenFd monitorFd) w) (sid : Sid) :
    (slot w sid).UpOk := by
  exact slots_of_reaches (fun hstep hok hu => hstep.upOk hok hu) .unused h sid

end Order

/-- **Nothing is lost in the middle, duplicated or reordered.**  In every world of every run, and at
every moment in between, what was written to the origin is a prefix of what the client sent after
its CONNECT request, and what was written to the client is a prefix of the server's replies followed
by what the origin sent. -/
theorem streams_in_order [Inet] (listenFd monitorFd : Fd) (es : List Event) :
    Visits step World.StreamsInOrder (World.boot listenFd monitorFd) es := by
  refine visits_of_reaches (fun w hw sid t ht => ⟨?_, ?_⟩) es
  · have hm := (reaches_upOk hw sid).moments (t.filter Obs.isUp) (ht.filter _)
    rwa [originOut_up, clientIn_up] at hm
  · have hm := (reaches_downOk hw sid).moments (t.filter Obs.isDown) (ht.filter _)
    rwa [clientOut_down, replies_down, originIn_down] at hm

end SocksProxy
