import SocksProxy.Properties.AuthCodec
import SocksProxy.Socks.Handshake

/-!
# The credentials of a client

A client sends its name and password with their lengths, and the parser keeps them so: whatever the
bytes are, the two fields it hands over are the ones on the wire.  `socks_auth_validate` then copies
them into C strings, which end at the first zero byte, so a client is let in with anything that
agrees with a stored name and password up to a zero byte.

The two readings differ exactly when a field holds a zero byte and what stands before it is a stored
pair.
-/

set_option autoImplicit false

namespace SocksProxy

/-- What the proxy answers a client that sends this message and nothing else. -/
def authenticates (st : MonitorStore) (U P : Bytes) : Bool :=
  match parseAuth authParserInit (authMessage U P) with
  | some (p, .parsed, _) => socksAuthValidate p st
  | _ => false

/-- Every used slot holds C strings. -/
def MonitorStore.CStrings (st : MonitorStore) : Prop :=
  ∀ u ∈ st.users, u.used = true → 0 ∉ u.username ∧ 0 ∉ u.password

/-! ## What the proxy answers -/

variable {st : MonitorStore} {U P : Bytes}

/-- The parser hands over the fields of the message. -/
theorem parseAuth_message (hU : AuthField U) (hP : AuthField P) :
    ∃ p, parseAuth authParserInit (authMessage U P) = some (p, .parsed, []) ∧ p.Holds (U, P) := by
  obtain ⟨p, status, hs, rfl, hholds⟩ :=
    authParser_recognises.accepts (v := (U, P)) ⟨hU, hP⟩ []
  rw [List.append_nil] at hs
  exact ⟨p, hs, hholds⟩

theorem authenticates_eq (st : MonitorStore) (hU : 1 ≤ U.length ∧ U.length ≤ socksAuthMaxLen)
    (hP : 1 ≤ P.length ∧ P.length ≤ socksAuthMaxLen) :
    authenticates st U P = storeUserValidate st (cstr U) (cstr P) := by
  obtain ⟨p, hparse, hu, hname, hp, hpass⟩ := parseAuth_message hU hP
  have hu0 : p.unameLen ≠ 0 := by
    rintro h0
    rw [h0] at hu
    exact absurd hU.1 (by rw [← hu]; decide)
  have hp0 : p.passwdLen ≠ 0 := by
    rintro h0
    rw [h0] at hp
    exact absurd hP.1 (by rw [← hp]; decide)
  rw [authenticates, hparse]
  dsimp only
  rw [socksAuthValidate, hname, hpass]
  simp [hu0, hp0]

theorem storeUserValidate_iff {u p : Bytes} : storeUserValidate st u p = true ↔
    ∃ w ∈ st.users, w.used = true ∧ w.username = u ∧ w.password = p := by
  simp only [storeUserValidate, List.any_eq_true, Bool.and_eq_true, beq_iff_eq, and_assoc]

/-- **A client is let in with exactly the stored credentials, unless a field holds a zero byte and a
stored pair ends where it stands.** -/
theorem auth_exact_iff (st : MonitorStore) (hst : st.CStrings) (U P : Bytes)
    (hU : 1 ≤ U.length ∧ U.length ≤ socksAuthMaxLen)
    (hP : 1 ≤ P.length ∧ P.length ≤ socksAuthMaxLen) :
    (authenticates st U P = true ↔
        ∃ w ∈ st.users, w.used = true ∧ w.username = U ∧ w.password = P) ↔
      (0 ∉ U ∧ 0 ∉ P) ∨
        ¬ ∃ w ∈ st.users, w.used = true ∧ w.username = cstr U ∧ w.password = cstr P := by
  rw [authenticates_eq st hU hP, storeUserValidate_iff]
  by_cases hzero : 0 ∉ U ∧ 0 ∉ P
  · rw [cstr_of_notMem hzero.1, cstr_of_notMem hzero.2]
    exact iff_of_true Iff.rfl (.inl hzero)
  · -- no slot holds a zero byte
    have hnone : ¬ ∃ w ∈ st.users, w.used = true ∧ w.username = U ∧ w.password = P := by
      rintro ⟨w, hw, hused, rfl, rfl⟩
      exact hzero (hst w hw hused)
    rw [iff_false_intro hnone, iff_false, or_iff_right hzero]

/-- A store with the user "a" of the password "b". -/
def storeOfAb : MonitorStore := (storeUserAdd storeCreate [97] [98] false).1

theorem auth_exact_ab :
    (authenticates storeOfAb [97] [98] = true ↔
        ∃ w ∈ storeOfAb.users, w.used = true ∧ w.username = [97] ∧ w.password = [98]) ↔
      (0 ∉ ([97] : Bytes) ∧ 0 ∉ ([98] : Bytes)) ∨
        ¬ ∃ w ∈ storeOfAb.users, w.used = true ∧ w.username = cstr [97] ∧ w.password = cstr [98] :=
  auth_exact_iff storeOfAb (by unfold MonitorStore.CStrings; decide +kernel) [97] [98] (by decide)
    (by decide)

/-- The name "a", a zero byte and anything is let in as well. -/
theorem auth_accepts_more :
    storeOfAb.CStrings ∧ authenticates storeOfAb [97, 0, 120] [98] = true ∧
      ¬ ∃ w ∈ storeOfAb.users, w.used = true ∧ w.username = [97, 0, 120] ∧ w.password = [98] := by
  refine ⟨by unfold MonitorStore.CStrings; decide +kernel, by decide +kernel, by decide +kernel⟩

end SocksProxy
