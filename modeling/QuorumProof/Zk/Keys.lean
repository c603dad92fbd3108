import QuorumProof.Zk.State

/-!
# Zk/Keys — administration and the key registry

The administrator's settings, and the registration and rotation of keys: the hash of the legacy
Groth16 key, the universal SRS, the circuits' PLONK and Groth16 keys, and the Schnorr key.  Every
entry point here passes the administrator's gate first, `initialize` apart.
-/

namespace QuorumProof.Zk

open Guarded Bls

variable {r : ℕ} [Fact r.Prime] {G₁ G₂ Gt : Type} [AddCommGroup G₁] [Module (ZMod r) G₁]
  [AddCommGroup G₂] [Module (ZMod r) G₂] [AddCommGroup Gt] [Module (ZMod r) Gt]

/-! ## Settings -/

namespace Control

variable (c : Control) (env : Env)

/-- `initialize`. -/
def initializeContract (admin : Address) : Except Fault Control := do
  require (c.admin = none) (.panic "already initialized")
  requireAuth env admin
  return { c with admin := some admin }

def updateAdmin (admin newAdmin : Address) : Except Fault Control := do
  c.requireAdmin env admin
  return { c with admin := some newAdmin }

def pause (admin : Address) : Except Fault Control := do
  c.requireAdmin env admin
  return { c with paused := true }

def unpause (admin : Address) : Except Fault Control := do
  c.requireAdmin env admin
  return { c with paused := false }

def setRegistrar (admin registrar : Address) (enabled : Bool) : Except Fault Control := do
  c.requireAdmin env admin
  return { c with registrar := c.registrar.set registrar enabled }

def setCircuitParameters (admin : Address) (maxConstraints : Nat) (fieldModulus : Bytes)
    (securityLevel : Nat) : Except Fault Control := do
  c.requireAdmin env admin
  require (0 < maxConstraints) (.panic "max_constraints must be positive")
  require (0 < securityLevel ∧ securityLevel ≤ 256)
    (.panic "security_level must be between 1 and 256")
  return { c with circuitParams := some { maxConstraints, fieldModulus, securityLevel } }

def setProtocolConfig (admin : Address) (config : ProtocolConfig) : Except Fault Control := do
  c.requireAdmin env admin
  return { c with protocolConfig := some config }

end Control

/-! ## Keys -/

section Validation

variable (suite : Suite r G₁ G₂ Gt)

def isValidG1 (bytes : Bytes) : Bool := (suite.fromCompressed₁ bytes).isSome

def isValidG2 (bytes : Bytes) : Bool := (suite.fromCompressed₂ bytes).isSome

def maxGroth16PublicInputs : Nat := 32

/-- `Groth16VerifyingKey::validate`. -/
def validateGroth16 (vk : Groth16VerifyingKey) : Except Fault Unit := do
  require (vk.ic ≠ []) (.panic "ic must have at least one (constant) entry")
  require (vk.ic.length ≤ maxGroth16PublicInputs + 1)
    (.panic "ic exceeds MAX_GROTH16_PUBLIC_INPUTS + 1")
  require (isValidG1 suite vk.alphaG1) (.panic "invalid alpha_g1 point")
  require (isValidG2 suite vk.betaG2) (.panic "invalid beta_g2 point")
  require (isValidG2 suite vk.gammaG2) (.panic "invalid gamma_g2 point")
  require (isValidG2 suite vk.deltaG2) (.panic "invalid delta_g2 point")
  vk.ic.forM fun p => require (isValidG1 suite p) (.panic "invalid ic point")

/-- `PlonkVerifyingKey::validate`. -/
def validatePlonk (vk : Plonk.VerifyingKey) : Except Fault Unit := do
  require (0 < vk.domainSize.toNat ∧ vk.domainSize.toNat = 2 ^ vk.domainSize.toNat.log2)
    (.panic "domain_size must be a power of two")
  require (vk.numPublicInputs ≤ vk.domainSize)
    (.panic "num_public_inputs cannot exceed domain_size")
  [vk.qM, vk.qL, vk.qR, vk.qO, vk.qC, vk.s1, vk.s2, vk.s3].forM fun p =>
    require (isValidG1 suite p) (.panic "invalid G1 point in verifying key")

end Validation

def groth16VkHash (host : Host) (vk : Groth16VerifyingKey) : Bytes :=
  host.sha256 (vk.alphaG1 ++ vk.betaG2 ++ vk.gammaG2 ++ vk.deltaG2 ++ vk.ic.flatten)

def plonkVkHash (host : Host) (vk : Plonk.VerifyingKey) : Bytes := host.sha256 vk.canonicalBytes

/-- Append to a rotation history, which keeps its last ten entries. -/
def pushRotation (history : List RotationEntry) (rotation : RotationEntry) : List RotationEntry :=
  let rotations := history ++ [rotation]
  rotations.drop (rotations.length - 10)

namespace Keys

variable (k : Keys) (c : Control) (env : Env)

def setVerifyingKey (admin : Address) (vkHash : Bytes) : Except Fault Keys := do
  c.requireAdmin env admin
  return { k with verifyingKeyHash := some vkHash }

def rotateVerifyingKey (admin : Address) (newVkHash : Bytes) : Except Fault Keys := do
  c.requireAdmin env admin
  let oldKey ← expect k.verifyingKeyHash
    (.panic "no verifying key set; use set_verifying_key first")
  return { k with
    keyRotationHistory := pushRotation k.keyRotationHistory ⟨oldKey, newVkHash, env.sequence, admin⟩
    verifyingKeyHash := some newVkHash }

def setSchnorrPublicKey (admin : Address) (publicKey : Bytes) : Except Fault Keys := do
  c.requireAdmin env admin
  return { k with schnorrPublicKey := some publicKey }

variable (suite : Suite r G₁ G₂ Gt) (k : Keys) (c : Control) (env : Env) (admin : Address)

def setPlonkSrs (tauG2 : Bytes) : Except Fault Keys := do
  c.requireAdmin env admin
  require (isValidG2 suite tauG2) (.panic "invalid G2 point for SRS tau")
  return { k with plonkSrsTauG2 := some tauG2 }

def rotatePlonkSrs (newTauG2 : Bytes) : Except Fault Keys := do
  c.requireAdmin env admin
  require (isValidG2 suite newTauG2) (.panic "invalid G2 point for SRS tau")
  let oldTauG2 ← expect k.plonkSrsTauG2 (.panic "no SRS set; use set_plonk_srs first")
  return { k with
    plonkSrsRotationHistory :=
      pushRotation k.plonkSrsRotationHistory ⟨oldTauG2, newTauG2, env.sequence, admin⟩
    plonkSrsTauG2 := some newTauG2 }

def setPlonkVerifyingKey (vkHash : Bytes) (vk : Plonk.VerifyingKey) : Except Fault Keys := do
  c.requireAdmin env admin
  validatePlonk suite vk
  require (plonkVkHash env.toHost vk = vkHash) (.panic "vk_hash does not match vk")
  return { k with
    plonkVerifyingKeyByHash := k.plonkVerifyingKeyByHash.set vkHash vk
    plonkVerifyingKeyHash := some vkHash }

def rotatePlonkVerifyingKey (newVkHash : Bytes) (newVk : Plonk.VerifyingKey) :
    Except Fault Keys := do
  c.requireAdmin env admin
  validatePlonk suite newVk
  require (plonkVkHash env.toHost newVk = newVkHash) (.panic "vk_hash does not match vk")
  let oldVkHash ← expect k.plonkVerifyingKeyHash
    (.panic "no verifying key set; use set_plonk_verifying_key first")
  return { k with
    plonkKeyRotationHistory :=
      pushRotation k.plonkKeyRotationHistory ⟨oldVkHash, newVkHash, env.sequence, admin⟩
    plonkVerifyingKeyByHash := k.plonkVerifyingKeyByHash.set newVkHash newVk
    plonkVerifyingKeyHash := some newVkHash }

def setGroth16VerifyingKey (vkHash : Bytes) (vk : Groth16VerifyingKey) : Except Fault Keys := do
  c.requireAdmin env admin
  validateGroth16 suite vk
  require (groth16VkHash env.toHost vk = vkHash) (.panic "vk_hash does not match vk")
  return { k with
    groth16VerifyingKeyByHash := k.groth16VerifyingKeyByHash.set vkHash vk
    groth16VerifyingKeyHash := some vkHash }

def rotateGroth16VerifyingKey (newVkHash : Bytes) (newVk : Groth16VerifyingKey) :
    Except Fault Keys := do
  c.requireAdmin env admin
  validateGroth16 suite newVk
  require (groth16VkHash env.toHost newVk = newVkHash) (.panic "vk_hash does not match vk")
  let oldVkHash ← expect k.groth16VerifyingKeyHash
    (.panic "no verifying key set; use set_groth16_verifying_key first")
  return { k with
    groth16KeyRotationHistory :=
      pushRotation k.groth16KeyRotationHistory ⟨oldVkHash, newVkHash, env.sequence, admin⟩
    groth16VerifyingKeyByHash := k.groth16VerifyingKeyByHash.set newVkHash newVk
    groth16VerifyingKeyHash := some newVkHash }

end Keys

end QuorumProof.Zk
