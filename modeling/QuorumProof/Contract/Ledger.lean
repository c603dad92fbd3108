import QuorumProof.Contract.Entry

/-!
# Contract/Ledger — runs of a part of the contract over storage of its own

`World` runs the contract proper.  The parts of the contract that keep storage of their own run in
the same way: a call is made some time after the previous one, by those who signed it, and a call
that aborts leaves the storage.  Here that is said once, for any storage and any operations.
-/

namespace QuorumProof

variable {σ ω : Type}

/-- A call of an operation, as `Call` is one. -/
structure TimedCall (ω : Type) where
  elapsed : Nat
  auths : List Address
  op : ω

/-- The ledger time and some storage. -/
structure Ledger (σ : Type) where
  time : Nat
  storage : σ

namespace Ledger

def env (host : Host) (w : Ledger σ) (call : TimedCall ω) : Env :=
  { host with now := w.time + call.elapsed, auths := call.auths }

variable (apply : Env → σ → ω → Except Fault σ)

def next (host : Host) (w : Ledger σ) (call : TimedCall ω) : Ledger σ where
  time := w.time + call.elapsed
  storage :=
    match apply (w.env host call) w.storage call.op with
    | .ok s => s
    | .error _ => w.storage

/-- What a run of calls leaves of some storage. -/
def after (host : Host) (start : σ) (calls : List (TimedCall ω)) : Ledger σ :=
  Machine.run (next apply host) { time := 0, storage := start } calls

def Completes (host : Host) (w : Ledger σ) (call : TimedCall ω) : Prop :=
  ∃ s, apply (w.env host call) w.storage call.op = .ok s

variable {apply} {host : Host} {w : Ledger σ} {call : TimedCall ω}

/-- **A call aborts and leaves the storage, or leaves what its operation returns.** -/
theorem next_cases (apply : Env → σ → ω → Except Fault σ) (host : Host) (w : Ledger σ)
    (call : TimedCall ω) :
    (¬ w.Completes apply host call ∧ (w.next apply host call).storage = w.storage) ∨
      apply (w.env host call) w.storage call.op = .ok (w.next apply host call).storage := by
  cases hcall : apply (w.env host call) w.storage call.op with
  | ok s => exact .inr (by simp only [next, hcall])
  | error fault =>
    refine .inl ⟨?_, by simp only [next, hcall]⟩
    rintro ⟨s, hs⟩
    exact absurd (hcall.symm.trans hs) (by simp)

/-- **A call either aborts and leaves the storage, or is what its operation ensures.** -/
theorem next_of_ensures {Q : σ → Prop}
    (h : Guarded.Ensures (apply (w.env host call) w.storage call.op) Q) (hstay : Q w.storage) :
    Q (w.next apply host call).storage := by
  obtain ⟨-, hsame⟩ | hok := next_cases apply host w call
  · rwa [hsame]
  · exact h _ hok

end Ledger

end QuorumProof
