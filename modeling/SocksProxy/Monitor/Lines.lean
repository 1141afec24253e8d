import SocksProxy.Monitor.Replies

/-!
# The protocol without its buffer

What a byte of the client does has two parts that do not depend on each other.  `frame` is the
first: it adds the byte to the line gathered so far and says whether a line is handed on, and it
looks at nothing else.  `Core.input` is the second: what becomes of the store and of the session,
which the free space of `wb` has no influence on.  A console is a `Core` together with the buffer
its lines are offered to.
-/

set_option autoImplicit false

namespace SocksProxy

/-- What the client sends: bytes, and the end of file. -/
inductive MonitorInput where
  | byte (ch : UInt8)
  | eof
  deriving DecidableEq

/-- What is handed on. -/
inductive Framed where
  | nothing
  /-- A line for `dispatch_line`. -/
  | line (bs : Bytes)
  /-- The line gathered so far is refused. -/
  | tooLong
  deriving DecidableEq

/-- The line gathered after an input, and what is handed on. -/
def frame (line : Bytes) : MonitorInput → Bytes × Framed
  | .byte ch =>
    if line.length ≥ monitorLineMax then ([], .tooLong)
    else if ch = 10 then ([], if line = [] then .nothing else .line (stripCr line))
    else (line ++ [ch], .nothing)
  | .eof => ([], if line = [] then .nothing else .line line)

/-- The line gathered after some inputs. -/
def gather (line : Bytes) (is : List MonitorInput) : Bytes :=
  is.foldl (fun line i => (frame line i).1) line

/-- What some inputs hand on. -/
def framed (line : Bytes) : List MonitorInput → List Framed
  | [] => []
  | i :: is => (frame line i).2 :: framed (frame line i).1 is

theorem gather_append (line : Bytes) (is js : List MonitorInput) :
    gather line (is ++ js) = gather (gather line is) js := List.foldl_append

theorem framed_append (line : Bytes) (is js : List MonitorInput) :
    framed line (is ++ js) = framed line is ++ framed (gather line is) js := by
  induction is generalizing line with
  | nil => rfl
  | cons i is ih =>
    rw [List.cons_append, framed, framed, ih]
    rfl

/-- A blank line, or none. -/
def Framed.blank : Framed → Bool
  | .nothing => true
  | .line bs => (splitLine bs).cmd == []
  | .tooLong => false

section

variable [Inet]

/-- What is done about it. -/
def Reply.framed (r : Reply) : Framed → Reply
  | .nothing => r
  | .line bs => r.line bs
  | .tooLong => (r.tell "-ERR line too long\n").tell ".\n"

/-- A console without `wb`. -/
structure Core where
  line : Bytes
  state : MonitorCommandsState
  store : MonitorStore
  realloc : List Bool
  quit : Bool

namespace Core

variable (k : Core)

omit [Inet] in
/-- A reply that has done nothing yet. -/
def idle : Reply := ⟨[], k.store, k.realloc, k.state, k.quit⟩

/-- The reply to an input. -/
def answer (i : MonitorInput) : Reply := k.idle.framed (frame k.line i).2

/-- What an input leaves. -/
def input (i : MonitorInput) : Core :=
  let r := k.answer i
  ⟨(frame k.line i).1, r.state, r.store, r.realloc, r.quit⟩

/-- What some inputs leave. -/
def run (is : List MonitorInput) : Core := is.foldl input k

/-- The lines some inputs are answered with. -/
def output : Core → List MonitorInput → List Bytes
  | _, [] => []
  | k, i :: is => (k.answer i).lines ++ output (k.input i) is

theorem run_append (is js : List MonitorInput) : k.run (is ++ js) = (k.run is).run js :=
  List.foldl_append

theorem output_append (is js : List MonitorInput) :
    k.output (is ++ js) = k.output is ++ (k.run is).output js := by
  induction is generalizing k with
  | nil => rfl
  | cons i is ih =>
    rw [List.cons_append, output, output, ih, List.append_assoc]
    rfl

theorem line_run (is : List MonitorInput) : (k.run is).line = gather k.line is := by
  induction is generalizing k with
  | nil => rfl
  | cons i is ih => exact ih (k.input i)

/-- A blank line is not answered and leaves everything as it is. -/
theorem answer_of_blank {i : MonitorInput} (h : (frame k.line i).2.blank = true) :
    k.answer i = k.idle := by
  rw [answer]
  cases hf : (frame k.line i).2 with
  | nothing => rfl
  | line bs =>
    rw [hf] at h
    rw [Reply.framed, Reply.line, if_pos (by simpa [Framed.blank] using h)]
  | tooLong =>
    rw [hf] at h
    cases h

theorem run_of_blank {is : List MonitorInput} (h : ∀ f ∈ framed k.line is, f.blank = true) :
    k.run is = { k with line := gather k.line is } ∧ k.output is = [] := by
  induction is generalizing k with
  | nil => exact ⟨rfl, rfl⟩
  | cons i is ih =>
    have hi := k.answer_of_blank (h _ (List.mem_cons_self ..))
    have hk : k.input i = { k with line := (frame k.line i).1 } := by
      rw [input, hi]
      rfl
    obtain ⟨hrun, hout⟩ := ih (k.input i) (fun f hf => h f (List.mem_cons_of_mem _ (by
      rw [hk] at hf
      exact hf)))
    constructor
    · refine hrun.trans ?_
      rw [hk]
      rfl
    · rw [output, hout, hi]
      rfl

end Core

/-! ## A console is a core with a buffer -/

namespace Console

variable (c : Console)

omit [Inet] in
/-- The console without `wb`. -/
def core : Core :=
  ⟨c.session.line, c.session.state, c.store, c.realloc, c.session.closeAfterFlush⟩

/-- One input of the client. -/
def input : MonitorInput → Console
  | .byte ch => processByte c ch
  | .eof => monitorCommandsFlushOnEof c

omit [Inet] in
/-- What is recorded about an input. -/
def observed (i : MonitorInput) : List MonitorObs :=
  match (frame c.session.line i).2 with
  | .nothing => []
  | .line bs => [.line bs c.store]
  | .tooLong => [.tooLong]

/-- An input has moved the console. -/
structure Moved (i : MonitorInput) (c' : Console) : Prop where
  core : c'.core = c.core.input i
  wb : c'.session.wb = c.session.wb.offer (c.core.answer i).lines
  hist : c'.hist = c.hist ++ c.observed i

/-- A line is handed on, and nothing of it is kept. -/
theorem moved_dispatch {i : MonitorInput} {bs : Bytes}
    (h : frame c.session.line i = ([], .line bs)) :
    c.Moved i { dispatchRecorded c bs with
      session := (dispatchRecorded c bs).session.resetLine } := by
  have hr : c.core.answer i = c.idle.line bs := by
    rw [Core.answer, show (frame c.core.line i).2 = .line bs from congrArg Prod.snd h]
    rfl
  have hd : dispatchRecorded c bs
      = { c with hist := c.hist ++ [.line bs c.store] : Console }.obey (c.idle.line bs) :=
    dispatchLine_eq _ bs
  rw [hd]
  refine ⟨?_, ?_, ?_⟩
  · rw [Core.input, hr]
    simp only [core, MonitorCommandsSession.resetLine, obey_state, obey_store, obey_realloc,
      obey_close, h]
  · rw [hr]
    exact obey_wb _ _
  · rw [observed, h]
    exact obey_hist _ _

/-- Nothing is handed on. -/
theorem moved_quiet {i : MonitorInput} {line : Bytes}
    (h : frame c.session.line i = (line, .nothing))
    {c' : Console} (hline : c'.session.line = line)
    (hsame : { c' with session := { c'.session with line := [], line_le := Nat.zero_le _ } }
      = { c with session := { c.session with line := [], line_le := Nat.zero_le _ } }) :
    c.Moved i c' := by
  have hr : c.core.answer i = c.core.idle := by
    rw [Core.answer, show (frame c.core.line i).2 = .nothing from congrArg Prod.snd h]
    rfl
  simp only [mk.injEq, MonitorCommandsSession.mk.injEq, true_and] at hsame
  obtain ⟨⟨hstate, hwb, hclose⟩, hstore, hrealloc, hhist⟩ := hsame
  refine ⟨?_, ?_, ?_⟩
  · rw [Core.input, hr]
    simp only [core, Core.idle, h, hline, hstate, hstore, hrealloc, hclose]
  · rw [hr]
    exact hwb
  · rw [observed, h, hhist]
    exact (List.append_nil _).symm

/-- **One input**: the console moves as its core does, and its buffer is offered the lines. -/
theorem input_moved (i : MonitorInput) : c.Moved i (c.input i) := by
  cases i with
  | byte ch =>
    by_cases hfull : c.session.line.length ≥ monitorLineMax
    · have hf : frame c.session.line (.byte ch) = ([], .tooLong) := by rw [frame, if_pos hfull]
      have hr : c.core.answer (.byte ch)
          = (c.idle.tell "-ERR line too long\n").tell ".\n" := by
        rw [Core.answer, show (frame c.core.line (.byte ch)).2 = .tooLong from congrArg Prod.snd hf]
        rfl
      -- the line is dropped before the refusal is said
      have hp : processByte c ch = { c with
          session := c.session.resetLine, hist := c.hist ++ [.tooLong] : Console }.obey
            ((c.idle.tell "-ERR line too long\n").tell ".\n") := by
        rw [processByte, dif_pos hfull, obey_tell _ _ _ (by decide),
          obey_tell _ _ _ (by decide)]
        rfl
      refine ⟨?_, ?_, ?_⟩
      · rw [Core.input, hr, input, hp]
        simp only [core, obey_line, obey_state, obey_store, obey_realloc, obey_close, hf]
        rfl
      · rw [hr, input, hp]
        exact obey_wb _ _
      · rw [input, hp, obey_hist, observed, hf]
    · by_cases hnl : ch = 10
      · by_cases hline : c.session.line = []
        · have hf : frame c.session.line (.byte ch) = ([], .nothing) := by
            rw [frame, if_neg hfull, if_pos hnl, if_pos hline]
          have hp : c.input (.byte ch) = { c with session := c.session.resetLine } := by
            rw [input, processByte, dif_neg hfull, if_pos hnl]
            dsimp only
            rw [if_neg (by rw [hline]; exact Nat.lt_irrefl 0)]
          rw [hp]
          exact c.moved_quiet hf rfl rfl
        · have hf : frame c.session.line (.byte ch) = ([], .line (stripCr c.session.line)) := by
            rw [frame, if_neg hfull, if_pos hnl, if_neg hline]
          have hp : c.input (.byte ch) = { dispatchRecorded c (stripCr c.session.line) with
              session := (dispatchRecorded c (stripCr c.session.line)).session.resetLine } := by
            rw [input, processByte, dif_neg hfull, if_pos hnl]
            dsimp only
            rw [if_pos (List.length_pos_iff.2 hline)]
          rw [hp]
          exact c.moved_dispatch hf
      · have hf : frame c.session.line (.byte ch) = (c.session.line ++ [ch], .nothing) := by
          rw [frame, if_neg hfull, if_neg hnl]
        rw [input, processByte, dif_neg hfull, if_neg hnl]
        exact c.moved_quiet hf rfl rfl
  | eof =>
    by_cases hline : c.session.line = []
    · have hf : frame c.session.line .eof = ([], .nothing) := by rw [frame, if_pos hline]
      rw [input, monitorCommandsFlushOnEof, if_neg (by rw [hline]; exact Nat.lt_irrefl 0)]
      exact c.moved_quiet hf hline rfl
    · have hf : frame c.session.line .eof = ([], .line c.session.line) := by
        rw [frame, if_neg hline]
      have hp : c.input .eof = { dispatchRecorded c c.session.line with
          session := (dispatchRecorded c c.session.line).session.resetLine } := by
        rw [input, monitorCommandsFlushOnEof, if_pos (List.length_pos_iff.2 hline)]
      rw [hp]
      exact c.moved_dispatch hf

/-- Some inputs of the client. -/
def inputs (is : List MonitorInput) : Console := is.foldl input c

theorem inputs_append (is js : List MonitorInput) :
    c.inputs (is ++ js) = (c.inputs is).inputs js := List.foldl_append

theorem monitorCommandsFeed_eq (data : Bytes) :
    monitorCommandsFeed c data = c.inputs (data.map .byte) := by
  rw [inputs, List.foldl_map]
  rfl

theorem inputs_core (is : List MonitorInput) : (c.inputs is).core = c.core.run is := by
  induction is generalizing c with
  | nil => rfl
  | cons i is ih =>
    refine (ih (c.input i)).trans ?_
    rw [(c.input_moved i).core]
    rfl

/-- Nothing leaves the buffer while the inputs are worked through. -/
theorem inputs_wb (is : List MonitorInput) :
    (c.inputs is).session.wb = c.session.wb.offer (c.core.output is) := by
  induction is generalizing c with
  | nil => rfl
  | cons i is ih =>
    refine (ih (c.input i)).trans ?_
    rw [(c.input_moved i).wb, (c.input_moved i).core, Core.output, Buffer.offer_append]

end Console

end

end SocksProxy
