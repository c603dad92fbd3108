import QuorumProof.Lib.Index
import QuorumProof.Contract.State

/-!
# Contract/Registry — the writes on credentials and their indices

Every entry point that creates, revokes or moves a credential is a chain of guards around one of the
writes of this file.  They act on the `Registry` alone; `Effect` names them, and
`Contract/RegistryEffects` shows that no entry point does anything else to it.

Source: `subject_index_add`, `subject_index_remove`, `issue_inner`, `mark_credential_revoked`, and
the storage writes of `revoke_consent`, `accept_transfer`, `rotate_credential_holder_key`,
`execute_recovery` and `restore_from_snapshot`.
-/

namespace QuorumProof

namespace Registry

variable (r : Registry)

/-! ## Issuance -/

variable (id : Nat) (c : Credential) (subject : Address)

/-- The credential an issuance stores. -/
def newCredential (issuer subject : Address) (credentialType : Nat) (metadataHash : Bytes)
    (expiresAt : Option Nat) : Credential where
  id := id
  subject := subject
  issuer := issuer
  credentialType := credentialType
  metadataHash := metadataHash
  revoked := false
  suspended := false
  status := .active
  expiresAt := expiresAt
  version := 1
  renewalStatus := .active
  requiredAttestations := 0
  metadataSchemaVersion := 0
  autoRenew := false

/-- The writes of `issue_inner`: store the credential under the next id and list it under its
subject. -/
def issue (issuer subject : Address) (credentialType : Nat) (metadataHash : Bytes)
    (expiresAt : Option Nat) : Registry :=
  let id := r.credentialCount + 1
  { r with
    credentials :=
      r.credentials.set id
        (newCredential id issuer subject credentialType metadataHash expiresAt)
    credentialCount := id
    subjectCredentials := Index.push r.subjectCredentials subject id
    subjectCredentialIndex := Index.push r.subjectCredentialIndex subject id
    issued := r.issued ++ [{ id := id, subject := subject, credentialType := credentialType }] }

/-- Store the duplicate-prevention key. -/
def setDuplicateKey (issuer : Address) (credentialType id : Nat) : Registry :=
  { r with subjectIssuerType := r.subjectIssuerType.set (subject, issuer, credentialType) id }

/-! ## Revocation -/

/-- The writes of `mark_credential_revoked`. -/
def markRevoked : Registry :=
  { r with
    credentials := r.credentials.set id { c with revoked := true, suspended := false }
    subjectCredentials := Index.dropPresent r.subjectCredentials c.subject id
    subjectCredentialIndex := Index.drop r.subjectCredentialIndex c.subject id
    subjectIssuerType := r.subjectIssuerType.remove (c.subject, c.issuer, c.credentialType)
    revocationCache := r.revocationCache.set id true }

/-- The writes of `revoke_consent`: neither the subject index, nor the duplicate key, nor the
revocation cache is touched. -/
def revokeConsent : Registry :=
  { r with
    credentials := r.credentials.set id { c with revoked := true, suspended := false }
    subjectCredentials := Index.dropPresent r.subjectCredentials c.subject id }

/-- Keep the answer of `is_revoked`. -/
def cacheRevocation (revoked : Bool) : Registry :=
  { r with revocationCache := r.revocationCache.set id revoked }

/-! ## Moving a credential to another subject -/

/-- The writes of `accept_transfer`. -/
def transfer : Registry :=
  { r with
    credentials := r.credentials.set id { c with subject := subject }
    subjectCredentials := Index.push (Index.drop r.subjectCredentials c.subject id) subject id
    subjectCredentialIndex :=
      Index.push (Index.drop r.subjectCredentialIndex c.subject id) subject id }

/-- The writes of `rotate_credential_holder_key`. -/
def rotate : Registry :=
  { r with
    credentials := r.credentials.set id { c with subject := subject }
    subjectCredentialIndex :=
      Index.push (Index.drop r.subjectCredentialIndex c.subject id) subject id }

/-- The writes of `execute_recovery`: the duplicate key moves, the subject index does not. -/
def recover : Registry :=
  { r with
    credentials := r.credentials.set id { c with subject := subject }
    subjectCredentials := Index.push (Index.drop r.subjectCredentials c.subject id) subject id
    subjectIssuerType :=
      (r.subjectIssuerType.remove (c.subject, c.issuer, c.credentialType)).set
        (subject, c.issuer, c.credentialType) id }

/-! ## The rest of a credential's record -/

/-- Store a new record under an id. -/
def putCredential : Registry :=
  { r with credentials := r.credentials.set id c }

/-- The write of `restore_from_snapshot` on the credential counter. -/
def restoreCount (count : Nat) : Registry := { r with credentialCount := count }

end Registry

end QuorumProof
