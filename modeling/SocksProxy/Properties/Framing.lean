import SocksProxy.Shared.InetText
import SocksProxy.Monitor.Lines

/-!
# Which bytes become a line

The comment over `process_byte` refuses a line longer than `MONITOR_LINE_MAX` and drops what was
gathered of it.  The code looks at the length before it looks at the byte, so a line of exactly that
length is refused when its newline arrives, and after a refusal the rest of the same line is
gathered as if a new one had begun.

`framing` says what the newlines of a stream call for, and `framing_iff` when the code does it:
every terminated line is shorter than `MONITOR_LINE_MAX`, or goes over it by so little that nothing
of it is left after the refusal.
-/

set_option autoImplicit false

namespace SocksProxy

/-- The newline-terminated segments of a stream and what follows the last newline. -/
def segments : Bytes → List Bytes × Bytes
  | [] => ([], [])
  | b :: bs =>
    let (segs, rest) := segments bs
    if b = 10 then ([] :: segs, rest)
    else match segs with
      | [] => ([], b :: rest)
      | seg :: segs => ((b :: seg) :: segs, rest)

/-- An empty line has no effect. -/
def Framed.audible : Framed → Bool
  | .nothing => false
  | .line bs => !bs.isEmpty
  | .tooLong => true

/-- What a terminated segment calls for. -/
def framingSegment (seg : Bytes) : List Framed :=
  if seg.length ≤ monitorLineMax then [Framed.line (stripCr seg)].filter (·.audible) else [.tooLong]

/-- What is called for so far by a segment that is not terminated yet. -/
def framingRest (rest : Bytes) : List Framed :=
  if rest.length ≤ monitorLineMax then [] else [.tooLong]

/-- What a stream calls for. -/
def framing (bs : Bytes) : List Framed :=
  (segments bs).1.flatMap framingSegment ++ framingRest (segments bs).2

/-- A terminated segment is short, or nothing is left of it after the refusal. -/
def Kept (seg : Bytes) : Prop :=
  seg.length < monitorLineMax ∨ seg.length = monitorLineMax + 1 ∨
    seg.length = monitorLineMax + 2 ∧ seg.getLast? = some 13

/-- The streams the code frames as it should. -/
structure WellFramed (bs : Bytes) : Prop where
  segment : ∀ seg ∈ (segments bs).1, Kept seg
  rest : (segments bs).2.length < 2 * (monitorLineMax + 1)

/-- What a record says was handed on. -/
def MonitorObs.framed : MonitorObs → Framed
  | .line bs _ => .line bs
  | .tooLong => .tooLong

/-- What the console handed on, as far as it has an effect. -/
def Console.heard (c : Console) : List Framed := (c.hist.map (·.framed)).filter (·.audible)

/-! ## Segments -/

theorem segments_spec (bs : Bytes) :
    bs = ((segments bs).1.map (· ++ [10])).flatten ++ (segments bs).2 ∧
      (∀ seg ∈ (segments bs).1, 10 ∉ seg) ∧ 10 ∉ (segments bs).2 := by
  induction bs with
  | nil => exact ⟨rfl, fun _ h => (by cases h), List.not_mem_nil⟩
  | cons b bs ih =>
    obtain ⟨heq, hsegs, hrest⟩ := ih
    rw [segments]
    rcases hs : segments bs with ⟨segs, rest⟩
    rw [hs] at heq hsegs hrest
    dsimp only at heq hsegs hrest ⊢
    by_cases hb : b = 10
    · rw [if_pos hb]
      refine ⟨?_, ?_, hrest⟩
      · rw [heq, hb]
        rfl
      · intro seg hseg
        rcases List.mem_cons.1 hseg with rfl | hseg
        · exact List.not_mem_nil
        · exact hsegs seg hseg
    · rw [if_neg hb]
      cases segs with
      | nil =>
        refine ⟨by rw [heq]; rfl, fun _ h => (by cases h), ?_⟩
        rw [List.mem_cons]
        rintro (h | h)
        · exact hb h.symm
        · exact hrest h
      | cons seg segs =>
        refine ⟨by rw [heq]; rfl, ?_, hrest⟩
        intro seg' hseg'
        rcases List.mem_cons.1 hseg' with rfl | hseg'
        · rw [List.mem_cons]
          rintro (h | h)
          · exact hb h.symm
          · exact hsegs seg (List.mem_cons_self ..) h
        · exact hsegs seg' (List.mem_cons_of_mem _ hseg')

/-! ## What the code hands on -/

/-- What some bytes hand on, as far as it has an effect. -/
def heard (line bs : Bytes) : List Framed := (framed line (bs.map .byte)).filter (·.audible)

theorem heard_append (line as bs : Bytes) :
    heard line (as ++ bs) = heard line as ++ heard (gather line (as.map .byte)) bs := by
  rw [heard, List.map_append, framed_append, List.filter_append]
  rfl

/-- Below the limit bytes are gathered. -/
theorem heard_of_room (line : Bytes) {bs : Bytes} (hbs : 10 ∉ bs)
    (hlen : line.length + bs.length ≤ monitorLineMax) :
    gather line (bs.map .byte) = line ++ bs ∧ heard line bs = [] := by
  induction bs generalizing line with
  | nil => exact ⟨(List.append_nil _).symm, rfl⟩
  | cons b bs ih =>
    rw [List.length_cons] at hlen
    rw [List.mem_cons, not_or] at hbs
    have hf : frame line (.byte b) = (line ++ [b], .nothing) := by
      rw [frame, if_neg (by omega), if_neg (Ne.symm hbs.1)]
    obtain ⟨hg, hh⟩ := ih (line ++ [b]) hbs.2 (by
      rw [List.length_append, List.length_singleton]
      omega)
    constructor
    · show gather (frame line (.byte b)).1 (bs.map .byte) = _
      rw [hf, hg, List.append_assoc]
      rfl
    · rw [heard, List.map_cons, framed, hf, List.filter_cons_of_neg Bool.false_ne_true]
      exact hh

/-- The byte after a full line refuses it, whatever the byte is. -/
theorem heard_overflow {line bs : Bytes} {b : UInt8} (hline : 10 ∉ line)
    (hlen : line.length = monitorLineMax) :
    heard [] (line ++ b :: bs) = .tooLong :: heard [] bs := by
  obtain ⟨hg, hh⟩ := heard_of_room [] hline (by
    rw [List.length_nil, hlen, Nat.zero_add])
  rw [heard_append, hh, hg, List.nil_append, List.nil_append, heard, List.map_cons, framed, frame,
    if_pos (Nat.le_of_eq hlen.symm), List.filter_cons_of_pos rfl]
  rfl

variable {seg : Bytes}

/-- A short line is handed on. -/
theorem heard_short (hseg : 10 ∉ seg) (hlen : seg.length < monitorLineMax) :
    heard [] (seg ++ [10]) = [Framed.line (stripCr seg)].filter (·.audible) := by
  obtain ⟨hg, hh⟩ := heard_of_room [] hseg (by
    rw [List.length_nil, Nat.zero_add]
    omega)
  rw [heard_append, hh, hg, List.nil_append, List.nil_append, heard, List.map_cons, List.map_nil,
    framed, framed, frame, if_neg (by omega), if_pos rfl]
  by_cases hnil : seg = []
  · rw [if_pos hnil, hnil]
    decide
  · rw [if_neg hnil]

/-- Of a line that is too long, what lies beyond the refusal is taken for a line. -/
theorem heard_long (hseg : 10 ∉ seg) (hlen : monitorLineMax < seg.length) (tail : Bytes) :
    heard [] (seg ++ tail) = .tooLong :: heard [] (seg.drop (monitorLineMax + 1) ++ tail) := by
  have hsplit : seg = seg.take monitorLineMax ++ seg[monitorLineMax] ::
      seg.drop (monitorLineMax + 1) := by
    rw [← List.drop_eq_getElem_cons hlen, List.take_append_drop]
  conv_lhs => rw [hsplit, List.append_assoc, List.cons_append]
  exact heard_overflow (fun h => hseg (List.mem_of_mem_take h))
    (by rw [List.length_take]; omega)

theorem heard_full (hseg : 10 ∉ seg) (hlen : seg.length = monitorLineMax) :
    heard [] (seg ++ [10]) = [.tooLong] := heard_overflow hseg hlen

/-! ## Code and purpose compared

Handing on is weighed, a refusal more than a line: the code never hands on less than it should, and
more wherever it goes wrong.  So no deviation can make up for another. -/

/-- The weight of what is handed on. -/
def Framed.weight : Framed → ℕ
  | .nothing => 0
  | .line _ => 1
  | .tooLong => 2

/-- The weight of all that is handed on. -/
def weight (fs : List Framed) : ℕ := (fs.map Framed.weight).sum

@[simp] theorem weight_nil : weight [] = 0 := rfl

@[simp] theorem weight_cons (f : Framed) (fs : List Framed) :
    weight (f :: fs) = f.weight + weight fs := rfl

@[simp] theorem weight_append (fs gs : List Framed) :
    weight (fs ++ gs) = weight fs + weight gs := by
  rw [weight, List.map_append, List.sum_append]
  rfl

theorem stripCr_ne_nil (h : 2 ≤ seg.length) : stripCr seg ≠ [] := by
  rw [stripCr, ← List.length_pos_iff]
  split
  · rw [List.length_dropLast]
    omega
  · omega

theorem filter_line_of_ne_nil {bs : Bytes} (h : bs ≠ []) :
    [Framed.line bs].filter (·.audible) = [.line bs] := by
  cases bs with
  | nil => exact absurd rfl h
  | cons b bs => rfl

/-- Something of two bytes or more is always handed on. -/
theorem weight_heard_pos (hseg : 10 ∉ seg) (hlen : 2 ≤ seg.length) :
    0 < weight (heard [] (seg ++ [10])) := by
  rcases Nat.lt_trichotomy seg.length monitorLineMax with h | h | h
  · rw [heard_short hseg h, filter_line_of_ne_nil (stripCr_ne_nil hlen)]
    exact Nat.one_pos
  · rw [heard_full hseg h]
    decide
  · rw [heard_long hseg h, weight_cons]
    exact Nat.add_pos_left (by decide) _

theorem heard_of_kept (hseg : 10 ∉ seg) (h : Kept seg) :
    heard [] (seg ++ [10]) = framingSegment seg := by
  rw [framingSegment]
  rcases h with h | h | ⟨h, hcr⟩
  · rw [heard_short hseg h, if_pos (Nat.le_of_lt h)]
  · rw [heard_long hseg (by omega), if_neg (by omega),
      List.drop_of_length_le (Nat.le_of_eq h)]
    rfl
  · -- a single carriage return is left, and it is stripped
    have hdrop : seg.drop (monitorLineMax + 1) = [13] := by
      rw [List.drop_eq_getElem_cons (by omega), List.drop_of_length_le (by omega)]
      rw [List.getLast?_eq_getElem?, List.getElem?_eq_some_iff] at hcr
      obtain ⟨hlt, hval⟩ := hcr
      congr 1
      rw [← hval]
      congr 1
      omega
    rw [heard_long hseg (by omega), if_neg (by omega), hdrop]
    rfl

theorem weight_of_not_kept (hseg : 10 ∉ seg) (h : ¬ Kept seg) :
    weight (framingSegment seg) < weight (heard [] (seg ++ [10])) := by
  simp only [Kept, not_or, not_and] at h
  obtain ⟨h1, h2, h3⟩ := h
  rw [framingSegment]
  rcases Nat.eq_or_lt_of_le (Nat.le_of_not_lt h1) with heq | hlt
  · rw [heard_full hseg heq.symm, if_pos (Nat.le_of_eq heq.symm),
      filter_line_of_ne_nil (stripCr_ne_nil (by rw [← heq]; decide))]
    exact Nat.one_lt_two
  · rw [heard_long hseg hlt, if_neg (by omega), weight_cons, weight_cons, weight_nil]
    refine Nat.add_lt_add_left ?_ _
    have hdrop : 10 ∉ seg.drop (monitorLineMax + 1) := fun hm => hseg (List.mem_of_mem_drop hm)
    by_cases hone : seg.length = monitorLineMax + 2
    · -- one byte is left, and it is not a carriage return
      obtain ⟨b, hb⟩ : ∃ b, seg.drop (monitorLineMax + 1) = [b] :=
        List.length_eq_one_iff.1 (by rw [List.length_drop]; omega)
      have hlast : seg.getLast? = some b := by
        rw [← List.take_append_drop (monitorLineMax + 1) seg, hb, List.getLast?_append]
        rfl
      have hne : b ≠ 13 := fun h => h3 hone (by rw [hlast, h])
      rw [heard_short hdrop (by rw [hb, List.length_singleton]; decide), hb, stripCr,
        if_neg (by simpa using hne)]
      exact Nat.one_pos
    · exact weight_heard_pos hdrop (by rw [List.length_drop]; omega)

theorem weight_framingSegment_le (hseg : 10 ∉ seg) :
    weight (framingSegment seg) ≤ weight (heard [] (seg ++ [10])) := by
  by_cases h : Kept seg
  · rw [heard_of_kept hseg h]
  · exact Nat.le_of_lt (weight_of_not_kept hseg h)

/-- What is not terminated is weighed in the same way. -/
theorem heard_rest_iff {rest : Bytes} (hrest : 10 ∉ rest) :
    weight (framingRest rest) ≤ weight (heard [] rest) ∧
      (rest.length < 2 * (monitorLineMax + 1) → heard [] rest = framingRest rest) ∧
      (¬ rest.length < 2 * (monitorLineMax + 1) →
        weight (framingRest rest) < weight (heard [] rest)) := by
  rw [framingRest]
  by_cases hshort : rest.length ≤ monitorLineMax
  · have hh := (heard_of_room [] hrest (by rw [List.length_nil]; omega)).2
    rw [if_pos hshort, hh]
    exact ⟨Nat.le_refl _, fun _ => rfl, fun h => absurd (by omega) h⟩
  · have hlong := heard_long hrest (Nat.lt_of_not_le hshort) []
    rw [List.append_nil, List.append_nil] at hlong
    rw [if_neg hshort, hlong, weight_cons, weight_cons, weight_nil]
    have hdrop : 10 ∉ rest.drop (monitorLineMax + 1) := fun hm => hrest (List.mem_of_mem_drop hm)
    refine ⟨Nat.le_add_right _ _, fun h => ?_, fun h => ?_⟩
    · rw [(heard_of_room [] hdrop (by
        rw [List.length_nil, List.length_drop]
        omega)).2]
    · have hagain := heard_long hdrop (by rw [List.length_drop]; omega) []
      rw [List.append_nil] at hagain
      rw [hagain, weight_cons]
      exact Nat.add_lt_add_left (Nat.add_pos_left (by decide) _) _

/-- A newline always starts a new line. -/
theorem gather_newline (line bs : Bytes) : gather line ((bs ++ [10]).map .byte) = [] := by
  rw [List.map_append, gather_append]
  show (frame (gather line (bs.map .byte)) (.byte 10)).1 = []
  rw [frame]
  split
  · rfl
  · rfl

theorem heard_segments (segs : List Bytes) (rest : Bytes) :
    heard [] ((segs.map (· ++ [10])).flatten ++ rest)
      = segs.flatMap (fun seg => heard [] (seg ++ [10])) ++ heard [] rest := by
  induction segs with
  | nil => rfl
  | cons seg segs ih =>
    rw [List.map_cons, List.flatten_cons, List.append_assoc, heard_append, gather_newline, ih,
      List.flatMap_cons, List.append_assoc]

theorem weight_segments {segs : List Bytes} (hsegs : ∀ seg ∈ segs, 10 ∉ seg) :
    weight (segs.flatMap framingSegment)
        ≤ weight (segs.flatMap fun seg => heard [] (seg ++ [10])) ∧
      (weight (segs.flatMap framingSegment)
        = weight (segs.flatMap fun seg => heard [] (seg ++ [10])) → ∀ seg ∈ segs, Kept seg) := by
  induction segs with
  | nil => exact ⟨Nat.le_refl _, fun _ _ h => (by cases h)⟩
  | cons seg segs ih =>
    obtain ⟨hle, hkept⟩ := ih fun s hs => hsegs s (List.mem_cons_of_mem _ hs)
    have hseg := hsegs seg (List.mem_cons_self ..)
    have h1 := weight_framingSegment_le hseg
    rw [List.flatMap_cons, List.flatMap_cons, weight_append, weight_append]
    refine ⟨Nat.add_le_add h1 hle, fun heq s hs => ?_⟩
    rcases List.mem_cons.1 hs with rfl | hs
    · by_contra hnot
      have := weight_of_not_kept hseg hnot
      omega
    · exact hkept (by omega) s hs

/-- From an empty line, the code frames a stream as it should exactly when it is well framed. -/
theorem heard_iff (bs : Bytes) : heard [] bs = framing bs ↔ WellFramed bs := by
  obtain ⟨heq, hsegs, hrest⟩ := segments_spec bs
  have hcode := heard_segments (segments bs).1 (segments bs).2
  rw [← heq] at hcode
  obtain ⟨hle, hkept⟩ := weight_segments hsegs
  obtain ⟨hrle, hrkept, hrnot⟩ := heard_rest_iff hrest
  rw [hcode, framing]
  constructor
  · intro h
    have hw := congrArg weight h
    rw [weight_append, weight_append] at hw
    refine ⟨hkept (by omega), ?_⟩
    by_contra hnot
    have := hrnot hnot
    omega
  · intro h
    rw [hrkept h.rest]
    congr 1
    rw [List.flatMap_def, List.flatMap_def]
    congr 1
    exact List.map_congr_left fun seg hm => heard_of_kept (hsegs seg hm) (h.segment seg hm)

/-! ## Runs -/

section

variable [Inet]

theorem Console.heard_inputs (c : Console) (is : List MonitorInput) :
    (c.inputs is).heard = c.heard ++ (SocksProxy.framed c.session.line is).filter (·.audible) := by
  induction is generalizing c with
  | nil => exact (List.append_nil _).symm
  | cons i is ih =>
    have hm := c.input_moved i
    have hline : (c.input i).session.line = (frame c.session.line i).1 := congrArg Core.line hm.core
    refine (ih (c.input i)).trans ?_
    rw [hline, SocksProxy.framed, List.filter_cons, Console.heard, Console.heard, hm.hist,
      List.map_append, List.filter_append, List.append_assoc]
    congr 1
    rw [Console.observed]
    cases (frame c.session.line i).2 with
    | nothing => rfl
    | tooLong => rfl
    | line bs => cases bs <;> rfl

theorem Console.feed_flatten (c : Console) (chunks : List Bytes) :
    chunks.foldl monitorCommandsFeed c = c.inputs (chunks.flatten.map .byte) := by
  induction chunks generalizing c with
  | nil => rfl
  | cons chunk chunks ih =>
    rw [List.foldl_cons, ih, monitorCommandsFeed_eq, List.flatten_cons, List.map_append,
      inputs_append]

theorem Console.heard_feed (c : Console) (hline : c.session.line = []) (hhist : c.hist = [])
    (chunks : List Bytes) :
    (chunks.foldl monitorCommandsFeed c).heard = SocksProxy.heard [] chunks.flatten := by
  rw [feed_flatten, heard_inputs, hline, Console.heard, hhist]
  rfl

end

/-- **What becomes a line depends on the newlines alone, as long as no line is too long by a few
bytes.**  Whatever the session and the store, and however the stream is cut into chunks: what is
handed to `dispatch_line` and what is refused is what the newlines of the stream call for, if and
only if every terminated segment is shorter than `MONITOR_LINE_MAX`, or one byte longer, or two
bytes longer with a carriage return at its end, and the rest has overflowed once at most. -/
theorem framing_iff [Inet] (s : MonitorCommandsSession) (st : MonitorStore) (rs : List Bool)
    (hs : s.line = []) (chunks : List Bytes) :
    (chunks.foldl monitorCommandsFeed (Console.mk s st rs [])).heard = framing chunks.flatten ↔
      WellFramed chunks.flatten := by
  rw [Console.heard_feed (Console.mk s st rs []) hs rfl]
  exact heard_iff chunks.flatten

section Runs

attribute [local instance] InetText.inet

/-- A short line, in two chunks, is handed on. -/
theorem framing_stats :
    ([ascii "ST", ascii "ATS\r\n"].foldl monitorCommandsFeed
      (Console.mk .init storeCreate [] [])).heard = framing (ascii "STATS\r\n") := by
  refine (framing_iff .init storeCreate [] rfl [ascii "ST", ascii "ATS\r\n"]).2 ⟨?_, ?_⟩
  · intro seg hseg
    have hshort : ∀ seg ∈ (segments (ascii "STATS\r\n")).1, seg.length < monitorLineMax := by
      decide +kernel
    exact .inl (hshort seg hseg)
  · decide +kernel

/-- A line of 518 bytes: after the refusal its last five are executed. -/
theorem framing_not_kept_tail :
    ¬ ∀ (s : MonitorCommandsSession) (st : MonitorStore) (rs : List Bool) (chunks : List Bytes),
      s.line = [] →
        (chunks.foldl monitorCommandsFeed (Console.mk s st rs [])).heard
          = framing chunks.flatten := by
  intro h
  have heq := h .init storeCreate [] [List.replicate 513 65 ++ ascii "STATS\n"] rfl
  have hcode : ([List.replicate 513 65 ++ ascii "STATS\n"].foldl monitorCommandsFeed
      (Console.mk .init storeCreate [] [])).heard = [.tooLong, .line (ascii "STATS")] := by
    decide +kernel
  have hdue : framing [List.replicate 513 65 ++ ascii "STATS\n"].flatten = [.tooLong] := by
    decide +kernel
  rw [hcode, hdue] at heq
  cases heq

end Runs

end SocksProxy
