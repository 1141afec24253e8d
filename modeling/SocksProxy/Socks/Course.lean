import SocksProxy.Socks.Turns
import SocksProxy.Socks.Trials

/-!
# The course of a resolved request

Once `getaddrinfo` has returned a list, a session is either waiting for the connection to one of its
addresses or is past all this, its reply given (`Course`).  Three callbacks move it along:
`socks_client_block` takes up the list, `socks_origin_write` learns what became of the connection
under way, and `socks_server_expire_idle` ends the session with `SOCKS_REP_TTL_EXPIRED` wherever it
finds it (`Lapses`).  Everything else leaves it where it is (`Stays`).

The record these callbacks add to is the one of `Trials.lean`; what `socks_begin_origin_connect`
does to a session is taken from `Dials`.
-/

set_option autoImplicit false

namespace SocksProxy

/-! ## Replies -/

/-- The client was sent the CONNECT reply `rep`. -/
def Replied (t : List Obs) (rep : UInt8) : Prop := Obs.reply (connectReply rep) ∈ t

section Replied

variable {t t' : List Obs} {o : Obs} {rep rep' : UInt8}

theorem connectReply_inj (h : connectReply rep = connectReply rep') : rep = rep' := by
  rw [connectReply, connectReply] at h
  simpa using h

theorem replied_append : Replied (t ++ t') rep ↔ Replied t rep ∨ Replied t' rep := List.mem_append

theorem replied_concat_reply :
    Replied (t ++ [.reply (connectReply rep')]) rep ↔ Replied t rep ∨ rep = rep' := by
  rw [replied_append, Replied, Replied, List.mem_singleton, Obs.reply.injEq]
  exact or_congr_right ⟨connectReply_inj, fun h => by rw [h]⟩

/-- A search for an origin tells the client nothing. -/
theorem not_replied_of_isProbe (h : ∀ o ∈ t, o.isProbe = true) : ¬ Replied t rep := fun hm => by
  cases h _ hm

end Replied

/-- Whether an observation is neither told to the client nor part of the search. -/
def Obs.isIdle : Obs → Bool
  | .reply _ => false
  | .attempt .. => false
  | .connect .. => false
  | _ => true

/-- Nothing is told to the client, and nothing is tried. -/
def Idles (t t' : List Obs) : Prop := ∃ obs, t' = t ++ obs ∧ ∀ o ∈ obs, o.isIdle = true

section Idles

variable {t t' t'' : List Obs} {o : Obs} {rep : UInt8}

theorem Idles.refl : Idles t t := ⟨[], (List.append_nil t).symm, nofun⟩

theorem Idles.trans (h : Idles t t') (h' : Idles t' t'') : Idles t t'' := by
  obtain ⟨obs, rfl, hobs⟩ := h
  obtain ⟨obs', rfl, hobs'⟩ := h'
  refine ⟨obs ++ obs', List.append_assoc .., fun o ho => ?_⟩
  exact (List.mem_append.1 ho).elim (hobs o) (hobs' o)

theorem Idles.concat (h : Idles t t') (ho : o.isIdle = true) : Idles t (t' ++ [o]) :=
  h.trans ⟨[o], rfl, fun o' ho' => by rw [List.mem_singleton.1 ho']; exact ho⟩

theorem Idles.replied (h : Idles t t') (hr : Replied t' rep) : Replied t rep := by
  obtain ⟨obs, rfl, hobs⟩ := h
  refine (replied_append.1 hr).resolve_right fun hr => ?_
  cases hobs _ hr

theorem Idles.attempted_eq (h : Idles t t') : attempted t' = attempted t := by
  obtain ⟨obs, rfl, hobs⟩ := h
  have hnil : attempted obs = [] := by
    refine List.filterMap_eq_nil_iff.2 fun o ho => ?_
    have := hobs o ho
    cases o <;> first | rfl | cases this
  rw [attempted_append, hnil, List.append_nil]

end Idles

/-- What expiry records before the tunnel. -/
theorem replied_expired {t : List Obs} {st : SocksState} {rep : UInt8}
    (hr : Replied (t ++ [.expired st, .reply (connectReply socksRepTtlExpired)]) rep) :
    rep = socksRepTtlExpired ∨ Replied t rep := by
  rcases replied_append.1 hr with hr | hr
  · exact .inr hr
  · rcases List.mem_cons.1 hr with h | h
    · cases h
    · exact .inl (connectReply_inj (Obs.reply.inj (List.mem_singleton.1 h)))

theorem attempted_expired {t : List Obs} {st : SocksState} :
    attempted (t ++ [.expired st, .reply (connectReply socksRepTtlExpired)]) = attempted t :=
  (attempted_append ..).trans (List.append_nil _)

/-- The client was not told anything yet, and these addresses were taken up. -/
structure Searching (t : List Obs) (addrs : List SockAddr) : Prop where
  silent : ∀ rep, ¬ Replied t rep
  attempted : attempted t = addrs

theorem Searching.idles {t t' : List Obs} {addrs : List SockAddr} (h : Searching t addrs)
    (hi : Idles t t') : Searching t' addrs :=
  ⟨fun rep hr => h.silent rep (hi.replied hr), hi.attempted_eq.trans h.attempted⟩

/-- The search goes on. -/
theorem Searching.probes {t obs : List Obs} {addrs : List SockAddr} (h : Searching t addrs)
    (hobs : ∀ o ∈ obs, o.isProbe = true) :
    Searching (t ++ obs) (addrs ++ SocksProxy.attempted obs) where
  silent := fun rep hr =>
    (replied_append.1 hr).elim (h.silent rep) (not_replied_of_isProbe hobs)
  attempted := by rw [attempted_append, h.attempted]

/-- The client is told, once. -/
theorem Searching.reply {t : List Obs} {addrs : List SockAddr} (h : Searching t addrs)
    (rep : UInt8) :
    (∀ rep', Replied (t ++ [.reply (connectReply rep)]) rep' → rep' = rep) ∧
      SocksProxy.attempted (t ++ [.reply (connectReply rep)]) = addrs := by
  refine ⟨fun rep' hr => (replied_concat_reply.1 hr).resolve_left (h.silent rep'), ?_⟩
  rw [attempted_append, h.attempted]
  exact List.append_nil _

/-! ## What leaves a session where it is -/

/-- The client is told nothing, and the session stays where it is or is gone. -/
structure Stays (sl sl' : Slot) : Prop where
  idles : Idles sl.hist sl'.hist
  sess : ∀ s', sl'.sess = some s' →
    ∃ s, sl.sess = some s ∧ stmState s' = stmState s ∧ s'.dnsCursor = s.dnsCursor

/-- The session stays where it is, or is told that it expired. -/
inductive Lapses (sl sl' : Slot) : Prop
  | stays (stays : Stays sl sl')
  | told (said : ∀ rep, Replied sl'.hist rep → rep = socksRepTtlExpired ∨ Replied sl.hist rep)
      (attempted : attempted sl'.hist = attempted sl.hist)
      (sess : ∀ s', sl'.sess = some s' → stmState s' = .done)

section Stays

variable {H : Set Fd} {sid : Sid} {E : Fault → Prop} {sl sl' sl'' : Slot} {v v' : View}
  {s s' : SocksSession}

theorem Stays.refl : Stays sl sl := ⟨.refl, fun s hs => ⟨s, hs, rfl, rfl⟩⟩

theorem Stays.trans (h : Stays sl sl') (h' : Stays sl' sl'') : Stays sl sl'' where
  idles := h.idles.trans h'.idles
  sess := fun s'' hs'' => by
    obtain ⟨s', hs', hst', hcur'⟩ := h'.sess s'' hs''
    obtain ⟨s, hs, hst, hcur⟩ := h.sess s' hs'
    exact ⟨s, hs, hst'.trans hst, hcur'.trans hcur⟩

/-- Only the session is different, in fields that do not matter. -/
theorem Stays.of_sess (hs : sl.sess = some s) (hs' : sl'.sess = some s')
    (hh : sl'.hist = sl.hist) (hst : stmState s' = stmState s)
    (hcur : s'.dnsCursor = s.dnsCursor) : Stays sl sl' where
  idles := hh ▸ .refl
  sess := fun s'' hs'' => by
    obtain rfl := Option.some.inj (hs'.symm.trans hs'')
    exact ⟨s, hs, hst, hcur⟩

theorem Lapses.trans (h : Lapses sl sl') (h' : Lapses sl' sl'') : Lapses sl sl'' := by
  cases h with
  | stays h =>
    cases h' with
    | stays h' => exact .stays (h.trans h')
    | told said tries sess =>
      exact .told (fun rep hr => (said rep hr).imp id h.idles.replied)
        (tries.trans h.idles.attempted_eq) sess
  | told said tries sess =>
    cases h' with
    | stays h' =>
      refine .told (fun rep hr => said rep (h'.idles.replied hr))
        (h'.idles.attempted_eq.trans tries) fun s'' hs'' => ?_
      obtain ⟨s', hs', hst, -⟩ := h'.sess s'' hs''
      exact hst.trans (sess s' hs')
    | told said' tries' sess' =>
      exact .told (fun rep hr => (said' rep hr).elim .inl (said rep)) (tries'.trans tries) sess'

theorem stays_closed : Stays v.toSlot (v.closed s).toSlot :=
  ⟨Idles.refl.concat rfl, fun _ h => by cases h⟩

theorem stays_emit {o : Obs} (ho : o.isIdle = true) :
    Stays sl { sl with hist := sl.hist ++ [o] } :=
  ⟨Idles.refl.concat ho, fun s hs => ⟨s, hs, rfl, rfl⟩⟩

theorem stays_armed {i : FdInterest} : Stays sl { sl with client := some i } :=
  ⟨.refl, fun s hs => ⟨s, hs, rfl, rfl⟩⟩

theorem Flushed.stays {b : Bool} (h : Flushed v s b v') (hs : v.sess = some s) :
    Stays v.toSlot v'.toSlot := by
  have hblocked : Stays v.toSlot (v.sentNone s).toSlot := stays_emit rfl
  cases h with
  | nothing => exact .refl
  | blocked => exact hblocked
  | wrote =>
    refine ⟨Idles.refl.concat rfl, ?_⟩
    rintro _ ⟨⟩
    exact ⟨s, hs, rfl, rfl⟩
  | dead => exact hblocked.trans stays_closed

theorem Settled.stays (h : Settled v s v') : Stays v.toSlot v'.toSlot := by
  cases h with
  | closed => exact stays_closed
  | armed => exact stays_armed

theorem Failed.stays {rep : UInt8} (h : Failed v s rep v') :
    Stays (v.refused s rep).toSlot v'.toSlot := by
  cases h with
  | dead flushed => exact flushed.stays rfl
  | alive flushed =>
    exact (flushed.stays rfl).trans stays_armed

/-- The tail of `socks_client_write` and `socks_client_block`. -/
theorem does_flushSettle_stays (hv : v.Has s) (hread : s.o2c.read = 0) :
    Does H sid (do if ← socksFlushClient sid then settle ⟨s.clientFd, sid⟩) v
      (fun _ v' => Stays v.toSlot v'.toSlot) E := by
  refine does_bind ((does_flushClient hv).mono (fun b v₁ h => ?_) fun _ hf => hf)
  have hstays := h.stays hv.sess
  cases b with
  | false =>
    rw [if_neg (by simp)]
    exact does_pure hstays
  | true =>
    rw [if_pos rfl]
    obtain ⟨s₁, hv₁, hfd, -⟩ := h.serviced hv hread
    rw [← hfd]
    exact (does_settle hv₁).mono (fun _ v' h' => hstays.trans h'.stays) fun _ hf => hf

/-- `socks_client_read` once it has read something, while a connection is under way. -/
theorem does_clientGot_stays [Inet] (hv : v.Has s) (hread : s.o2c.read = 0)
    (hst : stmState s = .originConnecting) :
    Does H sid (
      if stmState s = .relay then
        match s.originFd with
        | none => settle ⟨s.clientFd, sid⟩
        | some fd => do
          if ← socksFlushOrigin sid then
            let s' ← deref sid
            selectorSetInterest fd (socksOriginInterest s')
            settle ⟨s.clientFd, sid⟩
      else do
        drainLoop ⟨s.clientFd, sid⟩ s.c2o.pending.length
        let s' ← deref sid
        if s'.o2c.canRead then
          if ← socksFlushClient sid then settle ⟨s.clientFd, sid⟩
        else settle ⟨s.clientFd, sid⟩) v (fun _ v' => Stays v.toSlot v'.toSlot) E := by
  rw [if_neg (by simp [hst])]
  refine does_bind (does_drainLoop_past hv.sess (by simp [hst]) (by simp [hst]) (by simp [hst]) ?_)
  refine does_bind (does_deref hv.sess ?_)
  by_cases hc : s.o2c.canRead = true
  · rw [if_pos hc]
    exact does_flushSettle_stays hv hread
  · rw [if_neg hc]
    exact (does_settle hv).mono (fun _ _ h => h.stays) fun _ hf => hf

/-- What comes from the client while a connection is under way is kept for later. -/
theorem does_clientRead_stays [Inet] (hok : v.toSlot.Ok) (hs : v.sess = some s)
    (hst : stmState s = .originConnecting) :
    Does H sid (socksClientRead ⟨s.clientFd, sid⟩) v (fun _ v' => Stays v.toSlot v'.toSlot)
      E := by
  have hv := hok.has hs
  rw [socksClientRead]
  refine does_bind (does_deref hs ?_)
  by_cases hspace : s.c2o.space = 0
  · rw [if_pos hspace]
    exact hv.does_armClient stays_armed
  rw [if_neg hspace]
  have hv' : v.didRead.Has s := ⟨hv.sess, hv.client, hv.origin⟩
  refine does_bind (does_sysRead (fun bs hans hlen => ?_) (fun hans => ?_) fun hans => ?_)
  · have hrecv : Idles v.hist (v.hist ++ [.recv bs]) := Idles.refl.concat rfl
    by_cases hbs : bs = []
    · dsimp only
      rw [if_pos hbs]
      have hv'' : View.Has { v.didRead with hist := v.hist ++ [.recv bs] } s :=
        ⟨hv.sess, hv.client, hv.origin⟩
      exact hv''.does_close ⟨hrecv.concat rfl, fun _ h => by cases h⟩
    · dsimp only
      rw [if_neg hbs]
      refine does_bind (does_assign (by exact hs) rfl rfl (does_bind (does_touch rfl ?_)))
      refine does_bind (does_deref rfl ?_)
      have hgot : Stays v.toSlot (v.got s bs).toSlot := by
        refine ⟨hrecv, ?_⟩
        rintro _ ⟨⟩
        exact ⟨s, hs, rfl, rfl⟩
      have hv₁ : (v.got s bs).Has (s.got bs v.clock) := ⟨rfl, hv.client, hv.origin⟩
      exact (does_clientGot_stays hv₁ (hok.session s hs).o2cRead hst).mono
        (fun _ _ h => hgot.trans h) fun _ hf => hf
  · exact does_bind (does_deref hv'.sess (hv'.does_armClient stays_armed))
  · exact hv'.does_close (stays_closed (v := v.didRead))

end Stays

/-! ## On the way down the list -/

/-- The session is past the search for an origin, or gone. -/
def Slot.Over (sl : Slot) : Prop := ∀ s, sl.sess = some s → (stmState s).isPast = true

/-- Where a session is whose name was resolved to `addrs`, given what was tried since. -/
inductive Course (addrs : List SockAddr) (ts : List Trial) (sl : Slot) : Prop
  /-- A connection is under way, after those before it have failed. -/
  | trying {s : SocksSession} {as rest : List SockAddr} {ts' : List Trial} {addr : SockAddr}
      (sess : sl.sess = some s) (st : stmState s = .originConnecting) (gave : Gave as ts')
      (record : ts = ts' ++ [.underway addr]) (left : addrs = as ++ addr :: rest)
      (cursor : s.dnsCursor = addr :: rest) (searching : Searching sl.hist (begun ts))
  /-- The search is over, and whatever the client was told is true. -/
  | settled (past : sl.Over) (order : InOrder addrs ts)
      (attempted : attempted sl.hist = begun ts)
      (warrants : ∀ rep, Replied sl.hist rep → Warrants addrs ts rep)

section Course

variable {H : Set Fd} {sid : Sid} {E : Fault → Prop} {sl sl' : Slot} {v v' : View}
  {s s' : SocksSession} {addrs as rest : List SockAddr} {ts ts' : List Trial} {addr : SockAddr}

theorem Course.order (h : Course addrs ts sl) : InOrder addrs ts := by
  cases h with
  | trying _ _ gave record left => exact record ▸ gave.inOrder left rfl (.inl rfl)
  | settled _ order => exact order

theorem Course.warrants (h : Course addrs ts sl) {rep : UInt8} (hr : Replied sl.hist rep) :
    Warrants addrs ts rep := by
  cases h with
  | trying _ _ _ _ _ _ searching => exact absurd hr (searching.silent rep)
  | settled _ _ _ warrants => exact warrants rep hr

theorem Course.attempted_eq (h : Course addrs ts sl) : attempted sl.hist = begun ts := by
  cases h with
  | trying _ _ _ _ _ _ searching => exact searching.attempted
  | settled _ _ attempted => exact attempted

/-- An expiry is told without anything being tried. -/
theorem warrants_ttlExpired : Warrants addrs ts socksRepTtlExpired :=
  ⟨fun h => absurd h (by decide), fun _ _ h => absurd rfl h⟩

theorem Course.stays (h : Course addrs ts sl) (hst : Stays sl sl') : Course addrs ts sl' := by
  have horder := h.order
  have hwarrants : ∀ rep, Replied sl'.hist rep → Warrants addrs ts rep :=
    fun rep hr => h.warrants (hst.idles.replied hr)
  have htries : attempted sl'.hist = begun ts := hst.idles.attempted_eq.trans h.attempted_eq
  cases h with
  | trying sess st gave record left cursor searching =>
    cases hs' : sl'.sess with
    | none => exact .settled (fun s hs => by rw [hs'] at hs; cases hs) horder htries hwarrants
    | some s' =>
      obtain ⟨s, hs, hst', hcur⟩ := hst.sess s' hs'
      obtain rfl := Option.some.inj (sess.symm.trans hs)
      exact .trying hs' (hst'.trans st) gave record left (hcur.trans cursor)
        (searching.idles hst.idles)
  | settled past =>
    refine .settled (fun s' hs' => ?_) horder htries hwarrants
    obtain ⟨s, hs, hst', -⟩ := hst.sess s' hs'
    rw [hst']
    exact past s hs

/-- A session that expires is told so, and nothing else. -/
theorem Course.lapses (h : Course addrs ts sl) (hl : Lapses sl sl') : Course addrs ts sl' := by
  cases hl with
  | stays hst => exact h.stays hst
  | told said tries sess =>
    refine .settled (fun s' hs' => by rw [sess s' hs']; rfl) h.order (tries.trans h.attempted_eq)
      fun rep hr => ?_
    rcases said rep hr with rfl | hr
    · exact warrants_ttlExpired
    · exact h.warrants hr

/-- The request is refused, and the record warrants it. -/
theorem Course.of_refused {rep : UInt8} (hsearch : Searching v.hist (begun ts))
    (horder : InOrder addrs ts) (hw : Warrants addrs ts rep) :
    Course addrs ts (v.refused s rep).toSlot := by
  obtain ⟨honly, htries⟩ := hsearch.reply rep
  refine .settled ?_ horder htries fun rep' hr => ?_
  · rintro _ ⟨⟩
    rfl
  · rw [honly rep' hr]
    exact hw

/-! ### Dialling -/

variable [Inet]

/-- `socks_begin_origin_connect`, and the jump to the state it returns. -/
theorem does_dialCourse (hv : v.Has s) (ho : s.originFd = none) (hroom : 10 ≤ s.o2c.space)
    {fd : Fd} (hcur : s.dnsCursor = addr :: rest) (hg : Gave as ts)
    (haddrs : addrs = as ++ addr :: rest) (hsearch : Searching v.hist (begun ts)) :
    Does H sid (do let ret ← socksBeginOriginConnect ⟨fd, sid⟩; jump sid ret) v
      (fun _ v' => Course addrs (ts ++ v.dialTrials addr rest) v'.toSlot) fun _ => True := by
  have haddr : s.connectAddr = some addr := by rw [SocksSession.connectAddr, hcur]
  have hends : DialEnds addrs (ts ++ v.dialTrials addr rest) (v.dial addr rest) :=
    dialTrials_ends hg haddrs
  have hprobes : (∀ o ∈ (v.dial addr rest).obs, o.isProbe = true) →
      Searching (v.hist ++ (v.dial addr rest).obs) (begun (ts ++ v.dialTrials addr rest)) := by
    intro hobs
    have := hsearch.probes hobs
    rw [View.dial, attempted_dial, ← begun_append] at this
    exact this
  refine does_bind ((does_dials hv ho hroom).mono (fun ret v' h => ?_) fun _ hf => hf)
  cases h with
  | nowhere hnone =>
    rw [haddr] at hnone
    cases hnone
  | @refused v' addr' rep haddr' hout failed =>
    obtain rfl := Option.some.inj (haddr.symm.trans haddr')
    rw [hcur] at hout failed
    have hcourse : Course addrs (ts ++ v.dialTrials addr rest) v'.toSlot := by
      cases hends with
      | underway hok =>
        rw [show (v.dial addr rest).outcome = _ from hout] at hok
        cases hok
      | refused herr horder hw =>
        obtain rfl := Except.error.inj (hout.symm.trans herr)
        have hsearch' := hprobes (dial_error hout).2.isProbe
        exact (Course.of_refused hsearch' horder hw).stays failed.stays
    -- `socks_fail_request` may have closed the session that is jumped with
    cases hs' : v'.sess with
    | none => exact does_assign_freed hs' trivial
    | some s' =>
      obtain ⟨s₁, hs₁, hst, -⟩ := failed.stays.sess s' hs'
      cases hs₁
      exact does_assign hs' rfl rfl (hcourse.stays (.of_sess hs' rfl rfl hst.symm rfl))
  | @underway addr' fd' haddr' hout =>
    obtain rfl := Option.some.inj (haddr.symm.trans haddr')
    rw [hcur] at hout
    cases hends with
    | refused herr =>
      rw [show (v.dial addr rest).outcome = _ from hout] at herr
      cases herr
    | underway hok hg' hleft hrec =>
      refine does_assign rfl rfl rfl (.trying rfl rfl hg' hrec hleft ?_ ?_)
      · show s.cursorAfter _ _ = _
        rw [SocksSession.cursorAfter, if_neg (by simp [hcur]), hcur]
        rfl
      · rw [hcur]
        exact hprobes (dial_ok hout).isProbe

/-! ### The callbacks -/

/-- `socks_client_block` takes up the list that `getaddrinfo` returned. -/
theorem does_clientBlock_course (hok : v.toSlot.Ok) (hs : v.sess = some s)
    (hst : stmState s = .resolving) (hsearch : Searching v.hist [])
    (hrec : v.resolvedTrials s = .listed addrs :: ts) :
    Does H sid (socksClientBlock ⟨s.clientFd, sid⟩) v (fun _ v' => Course addrs ts v'.toSlot)
      fun _ => True := by
  rw [View.resolvedTrials] at hrec
  split at hrec
  case isFalse => cases hrec
  next hd =>
  obtain ⟨hdns, hrc⟩ := hd
  cases hres : s.dnsResult with
  | nil =>
    rw [hres] at hrec
    cases hrec
  | cons addr rest =>
    rw [hres] at hrec
    obtain ⟨rfl, rfl⟩ : addr :: rest = addrs ∧ v.dialTrials addr rest = ts := by simpa using hrec
    have hsok := hok.session s hs
    have ho : s.originFd = none := hsok.originFd_eq_none (by rw [hst]; rfl)
    have hroom : 10 ≤ s.o2c.space := hsok.room (by rw [hst]; rfl) (by omega)
    have hblock : Does H sid (stmHandlerBlock ⟨s.clientFd, sid⟩) v
        (fun _ v' => Course (addr :: rest) (v.dialTrials addr rest) v'.toSlot) fun _ => True := by
      rw [stmHandlerBlock, handleFirst]
      refine does_bind (does_assign hs rfl rfl (does_bind (does_deref rfl ?_)))
      rw [if_pos (by exact hst), socksOnBlockResolving, bind_assoc]
      refine does_bind (does_deref rfl ?_)
      rw [if_neg (by simp [hdns]), if_neg (by simp [hrc, hres]), bind_assoc]
      refine does_bind (does_assign rfl rfl rfl ?_)
      have hv' : View.Has { v with sess := some { s with
          stm := some (stmState s), dnsCursor := s.dnsResult } }
          { s with stm := some (stmState s), dnsCursor := s.dnsResult } :=
        ⟨rfl, hsok.client, hsok.origin⟩
      exact does_dialCourse hv' ho hroom hres .nil rfl hsearch
    rw [socksClientBlock]
    refine does_bind ((hblock.and (does_stmHandlerBlock hok hs)).mono (fun _ v₁ h => ?_)
      fun _ _ => trivial)
    obtain ⟨hcourse, -, ⟨s₁, hsteps, hs₁, hfd, -⟩, -⟩ := h
    have hok₁ := hsteps.ok hok
    rw [← hfd]
    exact (does_flushSettle_stays (hok₁.has hs₁) (hok₁.session s₁ hs₁).o2cRead).mono
      (fun _ _ h => hcourse.stays h) fun _ hf => hf

omit [Inet] in
/-- The connection under way has failed, and there is no other address. -/
theorem does_lastFailed (hv : v.Has s) (hroom : 10 ≤ s.o2c.space) {fd : Fd} {err : Errno}
    (hg : Gave addrs ts) (hsearch : Searching v.hist (begun ts)) :
    Does H sid (do
      socksFailRequest ⟨fd, sid⟩ (socksErrnoToRep err)
      let _ ← socksCloseIfFlushed sid) v (fun _ v' => Course addrs ts v'.toSlot)
      fun _ => True := by
  refine does_bind ((does_failRequest hv hroom).mono (fun _ v₁ hf => ?_) fun _ hf => hf)
  have hw : Warrants addrs ts (socksErrnoToRep err) :=
    ⟨fun h => absurd h (socksErrnoToRep_ne err), fun _ _ _ => .inl hg.gaveUp_eq⟩
  have hcourse : Course addrs ts v₁.toSlot :=
    (Course.of_refused hsearch (hg.inOrder_self List.prefix_rfl) hw).stays hf.stays
  rcases hf.cases hroom with ⟨hn, -⟩ | ⟨s', hs'⟩
  · rw [socksCloseIfFlushed]
    exact does_bind (does_bind (does_deref_freed hn trivial))
  · refine does_bind (does_closeIfFlushed hs'.has (fun _ => does_pure ?_) fun _ => does_pure ?_)
    · exact hcourse.stays stays_closed
    · exact hcourse

/-- The connection under way is up. -/
theorem does_connected_course (hv : v.Has s) (hroom : 10 ≤ s.o2c.space)
    (hread : s.o2c.read = 0) {fd ofd : Fd} (hofd : s.originFd = some ofd) (hg : Gave as ts')
    (haddrs : addrs = as ++ addr :: rest)
    (hsearch : Searching v.hist (begun (ts' ++ [.underway addr]))) :
    Does H sid (do
      if ← socksSendConnectReply sid socksRepSucceeded then
        socksSessionRecordDest sid
        jump sid .relay
        if ← socksFlushClient sid then
          let s ← deref sid
          match s.originFd with
          | some fd => selectorSetInterest fd (socksOriginInterest s)
          | none => pure ()
          selectorSetInterest s.clientFd (socksClientInterest s)
      else selectorUnregisterFd fd) v
      (fun _ v' => Course addrs (ts' ++ [.underway addr] ++ [.connected addr]) v'.toSlot) E := by
  refine does_bind (does_o2cAppend hv.sess (by exact hroom) ?_)
  rw [if_pos rfl]
  refine does_bind (does_recordDest rfl fun d => does_bind (does_assign rfl rfl rfl ?_))
  have hsame : begun (ts' ++ [.underway addr] ++ [.connected addr]) =
      begun (ts' ++ [.underway addr]) := by
    rw [begun_append]
    exact List.append_nil _
  obtain ⟨honly, htries⟩ := hsearch.reply socksRepSucceeded
  have hcourse : Course addrs (ts' ++ [.underway addr] ++ [.connected addr]) { v.toSlot with
      sess := some { s with
        o2c := s.o2c.append (connectReply socksRepSucceeded)
        destRecorded := d, stm := some .relay }
      hist := v.hist ++ [.reply (connectReply socksRepSucceeded)] } := by
    refine .settled ?_ (inOrder_connected (hg.inOrder haddrs rfl (.inl rfl))) ?_ fun rep hr => ?_
    · rintro _ ⟨⟩
      rfl
    · rw [hsame]
      exact htries
    · rw [honly rep hr]
      refine ⟨fun _ => ⟨_, addr, rfl, ?_⟩, fun h => absurd rfl h⟩
      rw [hsame, hg.begun_concat rfl, List.getLast?_append_cons, List.getLast?_singleton]
  have hv₁ : View.Has { v with
      sess := some { s with
        o2c := s.o2c.append (connectReply socksRepSucceeded)
        destRecorded := d, stm := some .relay }
      hist := v.hist ++ [.reply (connectReply socksRepSucceeded)]
      store := destStore v.clock
        { s with o2c := s.o2c.append (connectReply socksRepSucceeded) } v.store
      acts := v.acts ++ destActs v.clock
        { s with o2c := s.o2c.append (connectReply socksRepSucceeded) } }
      { s with
        o2c := s.o2c.append (connectReply socksRepSucceeded)
        destRecorded := d, stm := some .relay } :=
    ⟨rfl, hv.client, hv.origin⟩
  refine does_bind ((does_flushClient hv₁).mono (fun b v₂ h => ?_) fun _ hf => hf)
  have hcourse₂ := hcourse.stays (h.stays rfl)
  cases b with
  | false =>
    rw [if_neg (by simp)]
    exact does_pure hcourse₂
  | true =>
    rw [if_pos rfl]
    obtain ⟨s₂, hv₂, -, -, -, -, -, -, hofd₂, -⟩ := h.serviced hv₁ hread
    refine does_bind (does_deref hv₂.sess ?_)
    rw [hofd₂.trans hofd]
    refine does_bind (hv₂.does_armOrigin (hofd₂.trans hofd) ?_)
    have hv₃ : View.Has { v₂ with origin := some (socksOriginInterest s₂) } s₂ :=
      ⟨hv₂.sess, hv₂.client, by simp [hofd₂.trans hofd]⟩
    exact hv₃.does_armClient (hcourse₂.stays (.of_sess hv₂.sess hv₂.sess rfl rfl rfl))

/-- `socks_origin_write` while a connection is under way. -/
theorem does_originWrite_course (hok : v.toSlot.Ok) (hs : v.sess = some s) {fd : Fd}
    (hst : stmState s = .originConnecting) (hg : Gave as ts') (haddrs : addrs = as ++ addr :: rest)
    (hcur : s.dnsCursor = addr :: rest)
    (hsearch : Searching v.hist (begun (ts' ++ [.underway addr]))) :
    Does H sid (socksOriginWrite ⟨fd, sid⟩) v
      (fun _ v' => Course addrs (ts' ++ [.underway addr] ++ v.completedTrials s) v'.toSlot)
      fun _ => True := by
  have hsok := hok.session s hs
  have hroom : 10 ≤ s.o2c.space := hsok.room (by rw [hst]; rfl) (by omega)
  rw [socksOriginWrite]
  refine does_bind (does_deref hs ?_)
  rw [if_pos hst, socksOriginConnectComplete]
  refine does_bind (does_sysSoError ?_)
  rw [View.completedTrials, hcur]
  cases herr : v.env.soError.headD none with
  | none =>
    obtain ⟨ofd, hofd⟩ := Option.ne_none_iff_exists'.1 fun h =>
      hsok.needsOrigin (.inl hst) (hsok.origin.1 h)
    have hv' : View.Has { v with env := { v.env with soError := v.env.soError.tail } } s :=
      ⟨hs, hsok.client, hsok.origin⟩
    exact does_connected_course hv' hroom hsok.o2cRead hofd hg haddrs hsearch
  | some err =>
    refine does_bind (does_destroyOrigin (by exact hs) ?_ (does_bind (does_deref rfl ?_)))
    · exact (hok.has hs).origin_ne
    have hg' : Gave (as ++ [addr]) (ts' ++ [.underway addr] ++ [.failed addr err]) := hg.failed
    have hsame : begun (ts' ++ [.underway addr] ++ [.failed addr err]) =
        begun (ts' ++ [.underway addr]) := by
      rw [begun_append]
      exact List.append_nil _
    rw [← hsame] at hsearch
    rw [hcur]
    cases rest with
    | nil =>
      have hv' : View.Has (v.connectFailed s) { s with originFd := none } :=
        ⟨rfl, hsok.client, iff_of_true rfl rfl⟩
      rw [← haddrs] at hg'
      exact does_lastFailed hv' hroom hg' hsearch
    | cons next rest =>
      have hv' : View.Has { v.connectFailed s with
          sess := some { s with originFd := none, dnsCursor := next :: rest } }
          { s with originFd := none, dnsCursor := next :: rest } :=
        ⟨rfl, hsok.client, iff_of_true rfl rfl⟩
      have hleft : addrs = as ++ [addr] ++ next :: rest := by rw [haddrs]; simp
      refine does_bind (does_assign rfl rfl rfl ?_)
      refine (does_dialCourse hv' rfl hroom rfl hg' hleft hsearch).mono (fun _ _ h => ?_)
        fun _ hf => hf
      rw [List.append_assoc _ [Trial.failed addr err]] at h
      exact h

end Course

/-! ## Expiry -/

section Expire

variable [Inet] {H : Set Fd} {sid : Sid} {E : Fault → Prop} {v : View} {s : SocksSession}

omit [Inet] in
theorem lapses_expired : Lapses v.toSlot (v.expired s).toSlot := by
  refine .told (fun rep hr => replied_expired hr) attempted_expired ?_
  rintro _ ⟨⟩
  rfl

/-- One turn of `socks_server_expire_idle` tells a client that it expired, at most. -/
theorem does_expireOne_lapses (hok : v.toSlot.Ok) (hs : v.sess = some s) (hidle : v.idle = true) :
    Does H sid (do
      assign sid fun s => { s with ttlExpired := true }
      idleListRemove sid
      emit sid (.expired (stmState s))
      if stmState s = .relay then selectorUnregisterFd s.clientFd
      else socksExpireSessionPreRelay sid) v (fun _ v' => Lapses v.toSlot v'.toSlot) E := by
  have hv := hok.has hs
  have hsok := hok.session s hs
  refine does_bind (does_assign hs rfl rfl (does_bind (does_idleListRemove ?_)))
  refine does_bind (does_emit ?_)
  by_cases hst : stmState s = .relay
  · rw [if_pos hst]
    have hv₁ : View.Has { v with
        sess := some { s with ttlExpired := true }, idle := false
        hist := v.hist ++ [.expired (stmState s)] } { s with ttlExpired := true } :=
      ⟨rfl, hv.client, hv.origin⟩
    exact hv₁.does_close (.stays ⟨(Idles.refl.concat rfl).concat rfl, fun _ h => by cases h⟩)
  · rw [if_neg hst, socksExpireSessionPreRelay]
    have hroom : 10 ≤ s.o2c.space := hsok.room_of_idle hidle hst (by omega)
    refine does_bind (does_o2cAppend rfl (by exact hroom) ?_)
    rw [if_pos rfl]
    refine does_bind (does_assign rfl rfl rfl ?_)
    have hstep : SessionStep .plain v.toSlot (v.expired s).toSlot := .expire hs hidle hst
    have hok₁ := hstep.ok hok
    have hv₁ := hok₁.has (v := v.expired s) rfl
    have hview : v.expired s = { v with
        sess := some { s with
          ttlExpired := true, o2c := s.o2c.append (connectReply socksRepTtlExpired)
          closeAfterFlush := true, stm := some .done }
        idle := false
        hist := v.hist ++ [.expired (stmState s)] ++
          [.reply (connectReply socksRepTtlExpired)] } := by
      rw [View.expired, List.append_assoc]
      rfl
    rw [← hview]
    refine does_bind ((does_flushClient hv₁).mono (fun b v₂ h => ?_) fun _ hf => hf)
    have hlapses : Lapses v.toSlot v₂.toSlot := lapses_expired.trans (.stays (h.stays rfl))
    cases b with
    | false =>
      rw [if_neg (by simp)]
      exact does_pure hlapses
    | true =>
      rw [if_pos rfl]
      obtain ⟨s₂, hv₂, -⟩ := h.serviced hv₁ hsok.o2cRead
      refine does_bind (does_closeIfFlushed hv₂ (fun _ => ?_) fun _ => ?_)
      · rw [if_neg (by simp)]
        exact does_pure (hlapses.trans (.stays stays_closed))
      · rw [if_pos rfl]
        refine does_bind (does_deref hv₂.sess (hv₂.does_armClient (hlapses.trans (.stays ?_))))
        exact .of_sess hv₂.sess hv₂.sess rfl rfl rfl

end Expire

/-! ## Every other step of a session -/

/-- A session that is not past the search was told nothing, and before it nothing was tried. -/
def Slot.Hushed (sl : Slot) : Prop :=
  ∀ s, sl.sess = some s → (stmState s).isPast = false → (∀ rep, ¬ Replied sl.hist rep) ∧
    (stmState s ≠ .originConnecting → attempted sl.hist = [])

/-- A connection is under way. -/
def Slot.Connecting (sl : Slot) : Prop :=
  ∃ s, sl.sess = some s ∧ stmState s = .originConnecting

/-- What a step can do to a session, as far as the search goes. -/
inductive Moves (sl sl' : Slot) : Prop
  | fresh (fresh : sl.used = false) (silent : sl'.hist = [])
  | lapses (lapses : Lapses sl sl')
  /-- The handshake goes on. -/
  | onward {s : SocksSession} (sess : sl.sess = some s) (st : (stmState s).isPast = false)
      (st_ne : stmState s ≠ .originConnecting)
      (silent : ∀ rep, Replied sl'.hist rep → Replied sl.hist rep)
      (tries : attempted sl'.hist = attempted sl.hist)
  /-- The search goes on. -/
  | search {s : SocksSession} {obs : List Obs} (sess : sl.sess = some s)
      (st : (stmState s).isPast = false) (hist : sl'.hist = sl.hist ++ obs)
      (probes : ∀ o ∈ obs, o.isProbe = true) (connecting : sl'.Connecting)
  /-- The session gets past the search. -/
  | answered {s : SocksSession} (sess : sl.sess = some s) (st : (stmState s).isPast = false)
      (past : sl'.Over)

section Steps

variable [Inet] {mode : Mode} {sl sl' : Slot} {addrs : List SockAddr} {ts : List Trial}

theorem SessionStep.moves (h : SessionStep mode sl sl') (hok : sl.Ok) : Moves sl sl' := by
  -- most steps change neither the state nor the cursor, and tell the client nothing
  have hstays : ∀ {s s' : SocksSession} {obs : List Obs}, sl.sess = some s → sl'.sess = some s' →
      sl'.hist = sl.hist ++ obs → (∀ o ∈ obs, o.isIdle = true) → stmState s' = stmState s →
      s'.dnsCursor = s.dnsCursor → Moves sl sl' := by
    intro s s' obs hs hs' hh hobs hst hcur
    refine .lapses (.stays ⟨⟨obs, hh, hobs⟩, fun s'' hs'' => ?_⟩)
    obtain rfl := Option.some.inj (hs'.symm.trans hs'')
    exact ⟨s, hs, hst, hcur⟩
  have hsame : ∀ {s s' : SocksSession}, sl.sess = some s → sl'.sess = some s' →
      sl'.hist = sl.hist → stmState s' = stmState s → s'.dnsCursor = s.dnsCursor →
      Moves sl sl' := fun hs hs' hh hst hcur =>
    .lapses (.stays (.of_sess hs hs' hh hst hcur))
  cases h with
  | accept fresh | discard fresh => exact .fresh fresh (hok.fresh fresh)
  | book sess stm_eq =>
    refine hsame sess rfl rfl ?_ rfl
    rcases stm_eq with rfl | rfl <;> rfl
  | greetMore sess | authMore sess | requestMore sess | resolved sess =>
    exact hsame sess rfl rfl rfl rfl
  | armClient sess | armOrigin sess => exact hsame sess sess rfl rfl rfl
  | recv sess | send sess | forward sess | fetch sess =>
    exact hstays sess rfl rfl (by simp [Obs.isIdle]) rfl rfl
  | sendBlocked sess | forwardBlocked sess | block owner _ sess =>
    exact hstays sess sess rfl (by simp [Obs.isIdle]) rfl rfl
  | greetAccept sess st | authAccept sess st | lookup sess st =>
    refine .onward sess (by rw [st]; rfl) (by simp [st])
      (fun rep hr => (replied_append.1 hr).resolve_right ?_) ?_
    · simp [Replied, connectReply]
    · exact (attempted_append ..).trans (List.append_nil _)
  | greetReject sess st | authReject sess st =>
    refine .answered sess (by rw [st]; rfl) ?_
    rintro _ ⟨⟩
    rfl
  | refuse sess deciding =>
    refine .answered sess deciding.isPast_eq ?_
    rintro _ ⟨⟩
    rfl
  | dial sess deciding allowed =>
    exact .search sess deciding.isPast_eq rfl allowed.isProbe ⟨_, rfl, rfl⟩
  | connected sess st =>
    refine .answered sess (by rw [st]; rfl) ?_
    rintro _ ⟨⟩
    rfl
  | expire sess idle st =>
    refine .lapses (.told (fun rep hr => replied_expired hr) attempted_expired ?_)
    rintro _ ⟨⟩
    rfl
  | @close s why sess ending =>
    have hidle : ∀ o ∈ why, o.isIdle = true := by cases ending <;> simp [Obs.isIdle]
    have hwhy : Idles sl.hist (sl.hist ++ why) := ⟨why, rfl, hidle⟩
    exact .lapses (.stays ⟨hwhy.concat rfl, fun _ h => by cases h⟩)

theorem SessionStep.hushed (h : SessionStep mode sl sl') (hok : sl.Ok) (hh : sl.Hushed) :
    sl'.Hushed := by
  intro s' hs' hpast
  cases h.moves hok with
  | fresh _ silent =>
    rw [silent]
    exact ⟨nofun, fun _ => rfl⟩
  | lapses hl =>
    cases hl with
    | stays hst =>
      obtain ⟨s, hs, heq, -⟩ := hst.sess s' hs'
      obtain ⟨hsilent, htries⟩ := hh s hs (heq ▸ hpast)
      refine ⟨fun rep hr => hsilent rep (hst.idles.replied hr), fun hne => ?_⟩
      rw [hst.idles.attempted_eq]
      exact htries (heq ▸ hne)
    | told _ _ sess =>
      rw [sess s' hs'] at hpast
      cases hpast
  | onward sess st st_ne silent tries =>
    obtain ⟨hsilent, htries⟩ := hh _ sess st
    exact ⟨fun rep hr => hsilent rep (silent rep hr), fun _ => tries.trans (htries st_ne)⟩
  | search sess st hist probes connecting =>
    obtain ⟨hsilent, -⟩ := hh _ sess st
    obtain ⟨s₁, hs₁, hst₁⟩ := connecting
    obtain rfl := Option.some.inj (hs₁.symm.trans hs')
    refine ⟨fun rep hr => ?_, fun hne => absurd hst₁ hne⟩
    rw [hist] at hr
    exact (replied_append.1 hr).elim (hsilent rep) (not_replied_of_isProbe probes)
  | answered _ _ past =>
    rw [past s' hs'] at hpast
    cases hpast

/-- A session that is past the search stays past it, and is told nothing new but its expiry. -/
theorem SessionSteps.course_over (h : SessionSteps mode sl sl') (hok : sl.Ok)
    (hu : sl.used = true) (hover : sl.Over) (hc : Course addrs ts sl) : Course addrs ts sl' := by
  have hall : sl'.Ok ∧ sl'.used = true ∧ sl'.Over ∧ Course addrs ts sl' := by
    induction h with
    | refl => exact ⟨hok, hu, hover, hc⟩
    | tail _ hstep ih =>
      obtain ⟨hok₁, hu₁, hover₁, hc₁⟩ := ih
      refine ⟨hstep.ok hok₁, (hstep.persists hu₁).used, ?_⟩
      cases hstep.moves hok₁ with
      | fresh fresh => rw [hu₁] at fresh; cases fresh
      | lapses hl =>
        refine ⟨fun s' hs' => ?_, hc₁.lapses hl⟩
        cases hl with
        | stays hst =>
          obtain ⟨s, hs, heq, -⟩ := hst.sess s' hs'
          rw [heq]
          exact hover₁ s hs
        | told _ _ sess =>
          rw [sess s' hs']
          rfl
      | onward sess st | search sess st | answered sess st =>
        rw [hover₁ _ sess] at st
        cases st
  exact hall.2.2.2

end Steps

end SocksProxy
