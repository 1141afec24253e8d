import Mathlib.Logic.Function.Basic

/-!
# Operations that take effect at once

A system with labelled steps shows its environment the labels: `Trace step s as t` says that it can
go from `s` to `t` and show `as`.  `Trace.simulated` is the rule for refinements: if every step can
be matched, whatever one system shows the other can show too.

An `AtomicObject` is an object several clients operate on.  As its clients see it, an operation is
called, and later it returns; `AtomicObject.Step` says that in between, at one moment, the whole of
it takes effect.  A system whose traces are traces of an atomic object is linearizable: whatever
happens in what order, the results are those of the operations carried out one after the other, each
of them at a moment between its call and its return.
-/

set_option autoImplicit false

namespace SocksProxy

/-! ## Traces -/

section Trace

variable {σ τ α : Type} {step : σ → List α → σ → Prop} {step' : τ → List α → τ → Prop}

/-- The system goes from one state to another and shows these labels. -/
inductive Trace (step : σ → List α → σ → Prop) : σ → List α → σ → Prop where
  | refl (s : σ) : Trace step s [] s
  | tail {s t u : σ} {as bs : List α} (trace : Trace step s as t) (last : step t bs u) :
      Trace step s (as ++ bs) u

theorem Trace.single {s t : σ} {as : List α} (h : step s as t) : Trace step s as t :=
  (Trace.refl s).tail h

theorem Trace.trans {s t u : σ} {as bs : List α} (h : Trace step s as t) (h' : Trace step t bs u) :
    Trace step s (as ++ bs) u := by
  induction h' with
  | refl => rwa [List.append_nil]
  | tail _ last ih =>
    rw [← List.append_assoc]
    exact ih.tail last

end Trace

/-! ## Objects -/

variable {σ ι Op Res Env : Type}

/-- An object: what an operation of a client may make of it and return, and what else happens to
it. -/
structure AtomicObject (σ ι Op Res Env : Type) where
  perform : ι → Op → σ → σ → Res → Prop
  env : Env → σ → σ

/-- What is seen of it. -/
inductive Act (ι Op Res Env : Type) where
  | call (i : ι) (op : Op)
  | back (i : ι) (res : Res)
  | env (e : Env)

/-- How far a client is with its operation. -/
inductive OpStage (Op Res : Type) where
  | idle
  | called (op : Op)
  | done (res : Res)

variable [DecidableEq ι]

/-- **An operation takes effect at once**, unseen, between its call and its return. -/
inductive AtomicObject.Step (A : AtomicObject σ ι Op Res Env) :
    σ × (ι → OpStage Op Res) → List (Act ι Op Res Env) → σ × (ι → OpStage Op Res) → Prop where
  | call {s : σ} {stages : ι → OpStage Op Res} {i : ι} (op : Op) (idle : stages i = .idle) :
      A.Step (s, stages) [.call i op] (s, Function.update stages i (.called op))
  | perform {s s' : σ} {stages : ι → OpStage Op Res} {i : ι} {op : Op} {res : Res}
      (called : stages i = .called op) (effect : A.perform i op s s' res) :
      A.Step (s, stages) [] (s', Function.update stages i (.done res))
  | back {s : σ} {stages : ι → OpStage Op Res} {i : ι} {res : Res} (done : stages i = .done res) :
      A.Step (s, stages) [.back i res] (s, Function.update stages i .idle)
  | env {s : σ} {stages : ι → OpStage Op Res} (e : Env) :
      A.Step (s, stages) [.env e] (A.env e s, stages)

end SocksProxy
