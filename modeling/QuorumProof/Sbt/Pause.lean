import QuorumProof.Sbt.Frames

/-!
# Sbt/Pause — what a paused registry still does

Four of the entry points that mint, burn or move tokens look at the pause; the others, and those
that name co-owners, do not.  Without these a paused registry keeps its tokens, with their owners
and co-owners, until it is unpaused (`Ledger.SameTokens`).

Source: `pause`, and the entry points of the tokens.
-/

namespace QuorumProof.Sbt

open Guarded

/-- The entry points that change tokens without looking at the pause. -/
def Op.ignoresPause : Op → Bool
  | token (.batchMint _) | token (.burn ..) | token (.batchBurn _) | token (.recoverSbt ..)
  | token (.adminTransferSbt ..) | token (.batchTransfer ..) | recovery (.finalizeRecovery ..)
  | holder (.acceptCoOwner ..) | holder (.setCoOwner ..) | holder (.removeCoOwner ..) => true
  | _ => false

/-- An operation a pause is meant to stop, or that does not change tokens. -/
def Op.Halts (op : Op) : Prop :=
  op.ignoresPause = false ∧ ∀ admin, op ≠ .control (.unpause admin)

/-- **The same tokens, with the same owners and co-owners.** -/
structure Ledger.SameTokens (l l' : Ledger) : Prop where
  tokenCount : l'.tokenCount = l.tokenCount
  tokens : ∀ t, (l'.tokens t).map (fun token => (token.owner, token.coOwner)) =
    (l.tokens t).map fun token => (token.owner, token.coOwner)

namespace Ledger

theorem SameTokens.refl (l : Ledger) : SameTokens l l := ⟨rfl, fun _ => rfl⟩

theorem SameTokens.trans {l l' l'' : Ledger} (h : SameTokens l l') (h' : SameTokens l' l'') :
    SameTokens l l'' :=
  ⟨h'.tokenCount.trans h.tokenCount, fun t => (h'.tokens t).trans (h.tokens t)⟩

end Ledger

namespace State

variable {env : Env} {s : State}

/-- Paused, with the same tokens. -/
def Frozen (s s' : State) : Prop := s'.control.paused = true ∧ s.ledger.SameTokens s'.ledger

theorem Frozen.of_eq {s' : State} (hpaused : s.control.paused = true)
    (h : s'.control = s.control ∧ s'.ledger = s.ledger) : Frozen s s' :=
  ⟨by rw [h.1, hpaused], by rw [h.2]; exact .refl _⟩

theorem controlOp_frozen {c : Control} {op : ControlOp} (hpaused : c.paused = true)
    (hop : ∀ admin, op ≠ .unpause admin) :
    Ensures (op.apply env c) fun c' => c'.paused = true := by
  cases op
  case unpause admin => exact absurd rfl (hop admin)
  all_goals
    simp [ControlOp.apply, Control.initializeContract, Control.updateAdmin,
      Control.setCredentialCacheTtl, Control.updateQuorumProofId, Control.pause, Control.setPaused,
      Control.addHolderToBlacklist, Control.removeHolderFromBlacklist, Control.setReputationConfig,
      hpaused]

/-- An entry point on tokens that looks at the pause does not go through. -/
theorem tokenOp_frozen {op : TokenOp} (hpaused : s.control.paused = true)
    (hop : (Op.token op).ignoresPause = false) : Ensures (op.apply env s) fun _ => False := by
  refine (tokenOp_writes env s op).mono fun _ h => ?_
  have hrunning : s.control.paused = false := by
    cases op <;> cases hop
    case mint.refl | transferOwnershipDual.refl | transferSbtViaAttestor.refl => exact h.1.1
    case burnSbt.refl => exact h.1
  exact absurd (hpaused.symm.trans hrunning) (by decide)

/-- The other entry points of a holder write a token with the owners it has. -/
theorem holderOp_frozen {op : HolderOp} (hop : (Op.holder op).ignoresPause = false) :
    Ensures (op.apply env s) fun s' => s.ledger.SameTokens s'.ledger := by
  refine (holderOp_edits env s op).mono ?_
  rintro s' (hsame | ⟨t, token, token', ht, hedits, hledger⟩)
  · exact hsame ▸ .refl _
  have howners : (token'.owner, token'.coOwner) = (token.owner, token.coOwner) := by
    cases hedits with
    | version | upgradedTo => rfl
    | named _ _ _ hnamed => obtain ⟨rfl, -⟩ | ⟨rfl, -⟩ := hnamed <;> cases hop
    | dismissed => cases hop
  rw [hledger]
  refine ⟨rfl, fun t' => ?_⟩
  simp only [Store.set_apply]
  split
  next heq => rw [heq, ht, Option.map_some, Option.map_some, howners]
  next => rfl

end State

open Sbt.State in
/-- **A paused registry stays paused, and keeps its tokens.** -/
theorem Op.frozen {env : Env} {s : State} {op : Op} (hpaused : s.control.paused = true)
    (hop : op.Halts) : Ensures (op.apply env s) (Frozen s) := by
  have hkeeps := Op.keeps env s op
  rcases op with op | op | (_ | _ | _ | _) | op | _ | _
  case control =>
    refine ensures_map.mpr ((controlOp_frozen hpaused fun admin h => hop.2 admin (h ▸ rfl)).mono ?_)
    exact fun c h => ⟨h, .refl _⟩
  case token => exact (tokenOp_frozen hpaused hop.1).mono fun _ h => h.elim
  case recovery.finalizeRecovery => cases hop.1
  case holder =>
    intro s' hs'
    exact ⟨by rw [(hkeeps s' hs').control rfl, hpaused], holderOp_frozen hop.1 s' hs'⟩
  all_goals exact hkeeps.mono fun _ h => .of_eq hpaused ⟨h.control rfl, h.ledger rfl⟩

namespace World

/-- **A pause stops every call that does not ignore it**: until the registry is unpaused, the tokens
stay, and so do their owners and co-owners. -/
theorem pause_halts (host : Host) (pre calls : List Call)
    (hpaused : (after host pre).state.control.paused = true)
    (hcalls : ∀ call ∈ calls, call.op.Halts) :
    (after host pre).state.ledger.SameTokens (after host (pre ++ calls)).state.ledger := by
  have hstep : ∀ (w : World) (call : Call), w.state.control.paused = true →
      call.op.Halts → w.state.Frozen (w.next host call).state := by
    intro w call hpaused hop
    exact next_of_ensures (call.op.frozen hpaused hop) (.of_eq hpaused ⟨rfl, rfl⟩)
  rw [after, after, Machine.run_append]
  exact (Machine.along_of_mem _ hcalls).relation (I := fun w => w.state.control.paused = true)
    (R := fun w w' => w.state.ledger.SameTokens w'.state.ledger) (fun w => .refl _)
    Ledger.SameTokens.trans (fun w call hpaused hop => (hstep w call hpaused hop).1)
    (fun w call hpaused hop => (hstep w call hpaused hop).2) hpaused

end World

/-! ## A burn in a paused registry -/

namespace Sample

/-- A token is minted, and the registry paused. -/
def paused : List Call := [initialized, mint alice 1, callBy [admin] (.control (.pause admin))]

end Sample

namespace World

open Sbt.Sample

theorem pause_halts_mint :
    (after host paused).state.ledger.SameTokens
      (after host (paused ++ [mint bob 2])).state.ledger :=
  pause_halts host paused [mint bob 2] rfl (by simp [mint, callBy, Op.Halts, Op.ignoresPause])

/-- **`burn` burns in a paused registry.** -/
theorem not_pause_halts :
    (after host paused).state.control.paused = true ∧
      ¬ (after host paused).state.ledger.SameTokens
        (after host (paused ++ [callBy [alice] (.token (.burn alice 1))])).state.ledger := by
  refine ⟨rfl, fun h => ?_⟩
  exact absurd (h.tokens 1) (by decide)

end World

end QuorumProof.Sbt
