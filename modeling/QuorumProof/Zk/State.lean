import QuorumProof.Zk.Types

/-!
# Zk/State — the verifier's storage

One `DataKey` variant of the source is one field; a key that takes arguments is a `Store` over them,
a key that is read with `unwrap_or` is the value itself.  Instance, persistent and temporary storage
are one, and entries do not expire.
-/

namespace QuorumProof.Zk

open Guarded

/-! ## Storage by purpose -/

/-- Who runs the contract, and its settings. -/
structure Control where
  admin : Option Address
  paused : Bool
  registrar : Store Address Bool
  circuitParams : Option CircuitParameters
  protocolConfig : Option ProtocolConfig
  deriving Inhabited

/-- The registered keys and the trails of their rotations. -/
structure Keys where
  verifyingKeyHash : Option Bytes
  keyRotationHistory : List RotationEntry
  plonkSrsTauG2 : Option Bytes
  plonkSrsRotationHistory : List RotationEntry
  plonkVerifyingKeyHash : Option Bytes
  plonkVerifyingKeyByHash : Store Bytes Plonk.VerifyingKey
  plonkKeyRotationHistory : List RotationEntry
  groth16VerifyingKeyHash : Option Bytes
  groth16VerifyingKeyByHash : Store Bytes Groth16VerifyingKey
  groth16KeyRotationHistory : List RotationEntry
  schnorrPublicKey : Option Bytes
  deriving Inhabited

/-- Cached results. -/
structure Cache where
  entry : Store Bytes CacheEntry
  invalidated : Store UInt64 Bool
  ttl : Store ClaimType Nat
  hits : Nat
  misses : Nat
  deriving Inhabited

/-- What is recorded about credentials and their proofs. -/
structure Records where
  metadata : Store (UInt64 × ClaimType) ProofMetadata
  metadataWriter : Store (UInt64 × ClaimType) Address
  revocation : Store UInt64 RevocationEntry
  proofTimestamp : Store (UInt64 × ClaimType) Nat
  submissionTimestamp : Store Bytes Nat
  requestNonceCounter : Nat
  issuedProofRequest : Store Nat ProofRequest
  usedSchnorrNonce : Store UInt64 Bool
  constraintSystemCounter : Nat
  constraintSystem : Store Nat ConstraintSystem
  deriving Inhabited

/-- The proof hashes, and which of them are revoked. -/
structure HashRegistry where
  count : Nat
  hashAt : Store Nat Bytes
  revocationStatus : Store Bytes Bool
  revocationRecord : Store Bytes ProofRevocationRecord
  revocationHistory : List ProofRevocationRecord
  deriving Inhabited

/-- Multi-party sessions. -/
structure Mpc where
  session : Store Bytes MpcSession
  slot : Store (Bytes × Bytes) MpcSlot
  contributionCount : Store Bytes Nat
  verifierRegistry : List Address
  deriving Inhabited

/-- The verifier's storage. -/
structure State where
  control : Control
  keys : Keys
  cache : Cache
  records : Records
  registry : HashRegistry
  mpc : Mpc
  deriving Inhabited

namespace State

/-- The storage of a freshly deployed verifier. -/
def empty : State := default

end State

/-! ## Who may call -/

namespace Control

/-- The gate of the administrator's entry points. -/
def requireAdmin (c : Control) (env : Env) (admin : Address) : Except Fault Unit := do
  requireAuth env admin
  let storedAdmin ← expect c.admin (.panic "not initialized")
  require (storedAdmin = admin) (.panic "unauthorized")

theorem requireAdmin_eq_ok {c : Control} {env : Env} {admin : Address} {u : Unit} :
    c.requireAdmin env admin = .ok u ↔ admin ∈ env.auths ∧ c.admin = some admin := by
  simp [requireAdmin]

def requireRegistrarOrAdmin (c : Control) (caller : Address) : Except Fault Unit :=
  require (c.admin = some caller ∨ (c.registrar caller).getD false = true) (.panic "unauthorized")

/-- `require_auth` and `require_registrar_or_admin`, as the registrars' entry points call them. -/
def requireRegistrar (c : Control) (env : Env) (caller : Address) : Except Fault Unit := do
  requireAuth env caller
  c.requireRegistrarOrAdmin caller

/-- The panic of a paused contract. -/
def requireNotPaused (c : Control) : Except Fault Unit :=
  require (c.paused = false) (.panic "contract is paused")

@[simp] theorem requireNotPaused_eq_ok {c : Control} {u : Unit} :
    c.requireNotPaused = .ok u ↔ c.paused = false := require_eq_ok

end Control

end QuorumProof.Zk
