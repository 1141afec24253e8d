import SocksProxy.Monitor.Commands

/-!
# The command line

`flags.c` runs `getopt` over the arguments once and keeps what it finds in three arrays under the
letter of the flag: the last value, the number of occurrences, and the values of the first
`MAX_FLAG_REPEATS` of them.  `getopt` is that of the C library, which takes options from anywhere
before `--`.
-/

set_option autoImplicit false

namespace SocksProxy

/-- `MAX_FLAG_REPEATS` -/
def maxFlagRepeats : ℕ := 256

/-- `'?'`, for an option there is not or one whose argument is missing. -/
def unknownFlag : UInt8 := 63

/-- What stands for the option `c` in a string of option letters: nothing, or whether a `:` comes
behind it. -/
def findFlag (c : UInt8) : Bytes → Option Bool
  | [] => none
  | d :: ids => if d = c then some (ids.head? == some 58) else findFlag c ids

/-- The options of one word, behind its `-`, and whether the last one has taken the word that comes
`next`. -/
def optionsOf (flagIds : Bytes) (next : Option Bytes) : Bytes → List (UInt8 × Bytes) × Bool
  | [] => ([], false)
  | c :: cs =>
    let others := optionsOf flagIds next cs
    match if c = 58 then none else findFlag c flagIds with
    | none => ((unknownFlag, []) :: others.1, others.2)
    | some false => ((c, []) :: others.1, others.2)
    | some true =>
      if cs ≠ [] then ([(c, cs)], false)
      else match next with
        | some arg => ([(c, arg)], true)
        | none => ([(unknownFlag, [])], false)

/-- `getopt(argc, argv, flag_ids)` until it returns -1: the options and their `optarg`.  The first
word is passed over if an option has `taken` it. -/
def getopt (flagIds : Bytes) : Bool → List Bytes → List (UInt8 × Bytes)
  | _, [] => []
  | true, _ :: words => getopt flagIds false words
  | false, word :: words =>
    if word = [45, 45] then []
    else match word with
      | 45 :: c :: cs =>
        let options := optionsOf flagIds words.head? (c :: cs)
        options.1 ++ getopt flagIds options.2 words
      | _ => getopt flagIds false words

/-- `values`, `flag_counts` and `flag_values`. -/
structure Flags where
  values : UInt8 → Option Bytes
  counts : UInt8 → ℕ
  occurrences : UInt8 → List Bytes

namespace Flags

/-- Before `setup_flags`. -/
def none : Flags := ⟨fun _ => Option.none, fun _ => 0, fun _ => []⟩

/-- One round of the loop of `setup_flags`. -/
def record (flagIds : Bytes) (flags : Flags) (o : UInt8 × Bytes) : Flags :=
  if o.1 = unknownFlag ∨ o.1 = 58 then flags
  else
    let value := if findFlag o.1 flagIds = some true then o.2 else []
    { values := Function.update flags.values o.1 (some value)
      counts := Function.update flags.counts o.1 (flags.counts o.1 + 1)
      occurrences := if flags.counts o.1 < maxFlagRepeats then
        Function.update flags.occurrences o.1 (flags.occurrences o.1 ++ [value])
        else flags.occurrences }

/-- `setup_flags`, the first time it is called; the first word of `argv` is the program. -/
def setupFlags (argv : List Bytes) (flagIds : Bytes) : Flags :=
  (getopt flagIds false argv.tail).foldl (record flagIds) none

variable (flags : Flags) (flag : UInt8)

/-- `get_flag_str` -/
def getFlagStr : Option Bytes := flags.values flag

/-- `get_flag_long` -/
def getFlagLong : ℤ :=
  match flags.values flag with
  | Option.none => 0
  | some value => (strtol value).1

/-- `get_flag_str_nth` -/
def getFlagStrNth (n : ℕ) : Option Bytes :=
  if flags.counts flag ≤ n ∨ maxFlagRepeats ≤ n then Option.none else (flags.occurrences flag)[n]?

/-- `has_flag` -/
def hasFlag : Bool := (flags.getFlagStr flag).isSome

/-- `get_flag_count` -/
def getFlagCount : ℕ := flags.counts flag

end Flags

/-! ## What the arrays hold -/

/-- The values given to a flag, in order. -/
def flagValues (flagIds : Bytes) (flag : UInt8) (options : List (UInt8 × Bytes)) : List Bytes :=
  options.filterMap fun o =>
    if o.1 = flag then some (if findFlag o.1 flagIds = some true then o.2 else []) else none

namespace Flags

variable {flagIds : Bytes} {flag : UInt8} {flags : Flags}

/-- What the arrays hold of a flag that was given these values. -/
structure Holds (flags : Flags) (flag : UInt8) (given : List Bytes) : Prop where
  values : flags.values flag = given.getLast?
  counts : flags.counts flag = given.length
  occurrences : flags.occurrences flag = given.take maxFlagRepeats

theorem Holds.record {given : List Bytes} (h : flags.Holds flag given) (flagIds : Bytes)
    (hflag : flag ≠ unknownFlag ∧ flag ≠ 58) (o : UInt8 × Bytes) :
    (flags.record flagIds o).Holds flag (given ++ flagValues flagIds flag [o]) := by
  rw [Flags.record, flagValues, List.filterMap_cons, List.filterMap_nil]
  by_cases ho : o.1 = flag
  · subst ho
    rw [if_neg (not_or.2 hflag), if_pos rfl]
    refine ⟨?_, ?_, ?_⟩
    · simp
    · simp [h.counts]
    · dsimp only
      rw [h.counts]
      split
      · next hlt =>
        rw [Function.update_self, h.occurrences, List.take_of_length_le hlt.le,
          List.take_of_length_le (by simpa using Nat.succ_le_of_lt hlt)]
      · next hle =>
        rw [h.occurrences, List.take_append_of_le_length (Nat.le_of_not_lt hle)]
  · rw [if_neg ho, List.append_nil]
    split
    · exact h
    · refine ⟨?_, ?_, ?_⟩
      · exact (Function.update_of_ne (Ne.symm ho) ..).trans h.values
      · exact (Function.update_of_ne (Ne.symm ho) ..).trans h.counts
      · refine Eq.trans ?_ h.occurrences
        dsimp only
        split
        · exact Function.update_of_ne (Ne.symm ho) ..
        · rfl

/-- **The arrays hold the values of every flag.** -/
theorem holds_setupFlags (hflag : flag ≠ unknownFlag ∧ flag ≠ 58) (argv : List Bytes) :
    (setupFlags argv flagIds).Holds flag
      (flagValues flagIds flag (getopt flagIds false argv.tail)) := by
  have hfold : ∀ (options : List (UInt8 × Bytes)) {flags : Flags} {given : List Bytes},
      flags.Holds flag given → (options.foldl (Flags.record flagIds) flags).Holds flag
        (given ++ flagValues flagIds flag options) := by
    intro options
    induction options with
    | nil =>
      intro flags given h
      simpa [flagValues] using h
    | cons o options ih =>
      intro flags given h
      have := ih (h.record flagIds hflag o)
      rwa [List.append_assoc, flagValues, flagValues, ← List.filterMap_append,
        List.singleton_append] at this
  have hnone : none.Holds flag [] := ⟨rfl, rfl, List.take_nil.symm⟩
  exact hfold _ hnone

variable {given : List Bytes}

theorem Holds.hasFlag (h : flags.Holds flag given) : flags.hasFlag flag = !given.isEmpty := by
  rw [Flags.hasFlag, getFlagStr, h.values]
  cases given with
  | nil => rfl
  | cons v given => simp [List.getLast?_cons]

theorem Holds.getFlagCount (h : flags.Holds flag given) :
    flags.getFlagCount flag = given.length := h.counts

theorem Holds.getFlagLong (h : flags.Holds flag given) :
    flags.getFlagLong flag = (given.getLast?.elim 0 fun value => (strtol value).1) := by
  rw [Flags.getFlagLong, h.values]
  cases given.getLast? <;> rfl

theorem Holds.getFlagStrNth (h : flags.Holds flag given) (n : ℕ) :
    flags.getFlagStrNth flag n = if n < maxFlagRepeats then given[n]? else Option.none := by
  rw [Flags.getFlagStrNth, h.counts, h.occurrences]
  by_cases hn : n < maxFlagRepeats
  · rw [if_pos hn]
    split
    · next hge => exact (List.getElem?_eq_none (hge.resolve_right (Nat.not_le.2 hn))).symm
    · exact List.getElem?_take_of_lt hn
  · rw [if_pos (.inr (Nat.le_of_not_lt hn)), if_neg hn]

end Flags

end SocksProxy
