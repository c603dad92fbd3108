import QuorumProof.Contract.CredentialSteps
import QuorumProof.Contract.Ledger
import QuorumProof.Contract.Permanence

/-!
# Contract/ShareLinks — what a share link promises

The token of a link is its credential and the second it expires in.  So a second link on a
credential that expires in the same second is stored in the place of the first: it is not revoked
where the first was, and asks for its own password or for none.  Neither does a link know what
becomes of its credential.  As long as no token is given out twice, and no credential is revoked or
changes hands under an open link, links keep what they promise (`ShareLinks.Secure`).

Source: `generate_share_link`, `validate_share_token`, `revoke_share_link`.
-/

namespace QuorumProof

open Guarded

inductive SharePermission
  | viewOnly | download
  deriving DecidableEq, Repr

def SharePermission.ofCode : Nat → Except Fault SharePermission
  | 1 => .ok .viewOnly
  | 2 => .ok .download
  | _ => .error (.contract .invalidEnumValue)

structure ShareLink where
  credentialId : Nat
  expiresAt : Nat
  passwordHash : Option Bytes
  permission : SharePermission
  createdBy : Address
  createdAt : Nat
  revoked : Bool
  deriving DecidableEq, Repr

/-- The links, by their tokens. -/
abbrev ShareLinks : Type := Store Bytes ShareLink

/-- Eight bytes of the credential and eight of the expiry. -/
def shareToken (credentialId expiresAt : Nat) : Bytes :=
  Control.toBeBytes 8 credentialId ++ Control.toBeBytes 8 expiresAt

namespace ShareLinks

def generateShareLink (env : Env) (s : State) (x : ShareLinks) (subject : Address)
    (credentialId expiryHours : Nat) (passwordHash : Option Bytes) (permission : Nat) :
    Except Fault ((State × ShareLinks) × Bytes) := do
  requireAuth env subject
  let control ← s.control.requireNotPaused env
  require (¬ (expiryHours = 0 ∨ expiryHours > 8760)) (.contract .invalidInput)
  let perm ← SharePermission.ofCode permission
  require (∀ hash ∈ passwordHash, hash.length = 32) (.contract .invalidInput)
  let credential ← expect (s.registry.credentials credentialId) (.contract .credentialNotFound)
  require (credential.subject = subject) (.contract .unauthorizedAction)
  let expiresAt ← checkedAdd (2 ^ 64) env.now (expiryHours * 3600)
  let token := shareToken credentialId expiresAt
  let link : ShareLink :=
    { credentialId := credentialId, expiresAt := expiresAt, passwordHash := passwordHash
      permission := perm, createdBy := subject, createdAt := env.now, revoked := false }
  return (({ s with control := control }, x.set token link), token)

/-- The password a link was made with, if there is one, is asked for. -/
def checkPassword : Option Bytes → Option Bytes → Except Fault Unit
  | some expected, some provided => require (expected = provided) (.contract .permissionDenied)
  | some _, none => .error (.contract .permissionDenied)
  | none, _ => .ok ()

def validateShareToken (env : Env) (x : ShareLinks) (token : Bytes) (passwordHash : Option Bytes) :
    Except Fault ShareLink := do
  let link ← expect (x token) (.contract .invalidInput)
  require (link.revoked = false) (.contract .invalidInput)
  require (¬ (link.expiresAt > 0 ∧ env.now ≥ link.expiresAt)) (.contract .invalidInput)
  checkPassword link.passwordHash passwordHash
  return link

def revokeShareLink (env : Env) (s : State) (x : ShareLinks) (subject : Address) (token : Bytes) :
    Except Fault (State × ShareLinks) := do
  requireAuth env subject
  let control ← s.control.requireNotPaused env
  let link ← expect (x token) (.contract .invalidInput)
  require (link.createdBy = subject) (.contract .unauthorizedAction)
  return ({ s with control := control }, x.set token { link with revoked := true })

end ShareLinks

/-- An entry point, of the contract proper or of the links. -/
inductive ShareOp
  | contract (op : Op)
  | generateShareLink (subject : Address) (credentialId expiryHours : Nat)
      (passwordHash : Option Bytes) (permission : Nat)
  | revokeShareLink (subject : Address) (token : Bytes)

def ShareOp.apply (env : Env) (r : State × ShareLinks) :
    ShareOp → Except Fault (State × ShareLinks)
  | contract op => (·, r.2) <$> op.apply env r.1
  | generateShareLink subject credentialId expiryHours passwordHash permission =>
    Prod.fst <$> r.2.generateShareLink env r.1 subject credentialId expiryHours passwordHash
      permission
  | revokeShareLink subject token => r.2.revokeShareLink env r.1 subject token

/-! ## One call -/

namespace ShareLink

/-- The creator of the link holds the credential, and it is not revoked. -/
def Stands (s : State) (link : ShareLink) : Prop :=
  ∃ c ∈ s.registry.credentials link.credentialId, c.subject = link.createdBy ∧ c.revoked = false

/-- The link is neither revoked nor expired. -/
def Open (now : Nat) (link : ShareLink) : Prop :=
  link.revoked = false ∧ ¬ (link.expiresAt > 0 ∧ now ≥ link.expiresAt)

theorem Open.earlier {now later : Nat} {link : ShareLink} (h : link.Open later)
    (hle : now ≤ later) : link.Open now :=
  ⟨h.1, fun hexpired => h.2 ⟨hexpired.1, hexpired.2.le.trans hle⟩⟩

/-- A link stands as long as nobody touches its credential. -/
theorem Stands.step {env : Env} {s s' : State} {op : Op} {link : ShareLink} (h : link.Stands s)
    (hs' : op.apply env s = .ok s') (hnumbered : s.registry.Numbered)
    (hid : link.credentialId ∉ op.revoking s ++ op.moving s) : link.Stands s' := by
  obtain ⟨hrevoking, hmoving⟩ := not_or.mp (mt List.mem_append.mpr hid)
  obtain ⟨c, hc, hsubject, hlive⟩ := h
  obtain ⟨c', hc', halters | ⟨hnew, -⟩⟩ := Op.credential_step hs' hc
  · exact ⟨c', hc', (halters.subject.resolve_right hmoving).trans hsubject,
      halters.live hrevoking hlive⟩
  · exact absurd (hnumbered.id_le hc) (not_le.mpr hnew)

end ShareLink

/-- **What a call must keep to**: no token is given out twice, no link is made on a revoked
credential, and no credential is revoked or changes hands under an open link. -/
def ShareOp.Careful (now : Nat) (s : State) (x : ShareLinks) : ShareOp → Prop
  | contract op => op.KeepsCount s ∧ ∀ token, ∀ link ∈ x token, link.Open now →
      link.credentialId ∉ op.revoking s ++ op.moving s
  | generateShareLink _ credentialId expiryHours _ _ => s.Live credentialId ∧
      x (shareToken credentialId (now + expiryHours * 3600)) = none
  | revokeShareLink .. => True

namespace ShareLinks

section Calls

variable (env : Env) (s : State) (x : ShareLinks) (subject : Address)

/-- A link on a credential of the subject's is stored under the token. -/
theorem ensures_generateShareLink (credentialId expiryHours : Nat) (passwordHash : Option Bytes)
    (permission : Nat) :
    Ensures (x.generateShareLink env s subject credentialId expiryHours passwordHash permission)
      fun r => r.1.1.registry = s.registry ∧
        r.2 = shareToken credentialId (env.now + expiryHours * 3600) ∧
        (∃ c ∈ s.registry.credentials credentialId, c.subject = subject) ∧
        ∃ link, r.1.2 = x.set r.2 link ∧ link.credentialId = credentialId ∧
          link.createdBy = subject ∧ link.passwordHash = passwordHash := by
  simp only [generateShareLink, ensures_steps, require_eq_ok, ensures_checkedAdd]
  intro _ control _ _ perm _ _ c hc hsubject _
  exact ⟨trivial, trivial, ⟨c, hc, hsubject⟩, _, rfl, rfl, rfl, rfl⟩

/-- The link that is stored under the token is marked. -/
theorem ensures_revokeShareLink (token : Bytes) :
    Ensures (x.revokeShareLink env s subject token) fun r => r.1.registry = s.registry ∧
      ∃ link ∈ x token, r.2 = x.set token { link with revoked := true } := by
  simp only [revokeShareLink, ensures_steps]
  intro _ control _ link hlink _
  exact ⟨trivial, link, hlink, rfl⟩

end Calls

/-- Every link is still there, if only as a revoked one. -/
def Keeps (x x' : ShareLinks) : Prop :=
  ∀ token, ∀ link ∈ x token, ∃ link' ∈ x' token, link'.passwordHash = link.passwordHash ∧
    (link.revoked = true → link'.revoked = true)

theorem Keeps.refl (x : ShareLinks) : x.Keeps x := fun _ link hlink => ⟨link, hlink, rfl, id⟩

/-- A link is put where there is none, or in the place of one it keeps. -/
theorem Keeps.set {x : ShareLinks} {token : Bytes} {link : ShareLink}
    (h : ∀ old ∈ x token, link.passwordHash = old.passwordHash ∧
      (old.revoked = true → link.revoked = true)) : x.Keeps (x.set token link) := by
  intro token' old hold
  by_cases heq : token' = token
  · subst heq
    exact ⟨link, Store.set_self .., h old hold⟩
  · exact ⟨old, (Store.set_of_ne heq).trans hold, rfl, id⟩

/-- **What is stored is in order**: ids are ahead of the credentials, and open links stand. -/
structure Sound (now : Nat) (s : State) (x : ShareLinks) : Prop where
  numbered : s.registry.Numbered
  standing : ∀ token, ∀ link ∈ x token, link.Open now → link.Stands s

theorem Sound.set {now : Nat} {s s' : State} {x : ShareLinks} {token : Bytes} {link : ShareLink}
    (h : x.Sound now s) (hregistry : s'.registry = s.registry)
    (hlink : link.Open now → link.Stands s) : Sound now s' (x.set token link) := by
  refine ⟨hregistry ▸ h.numbered, fun token' link' hlink' hopen => ?_⟩
  rw [ShareLink.Stands, hregistry]
  rcases Store.set_eq_some.mp hlink' with ⟨-, rfl⟩ | ⟨-, hlink'⟩
  · exact hlink hopen
  · exact h.standing token' link' hlink' hopen

end ShareLinks

open ShareLinks

/-- **A careful call keeps the links**, and leaves what is stored in order. -/
theorem ShareOp.sound (env : Env) {s : State} {x : ShareLinks} {op : ShareOp}
    (h : x.Sound env.now s) (hcareful : op.Careful env.now s x) :
    Ensures (op.apply env (s, x)) fun r => x.Keeps r.2 ∧ r.2.Sound env.now r.1 := by
  cases op with
  | contract op =>
    obtain ⟨hcount, hleaves⟩ := hcareful
    refine ensures_map.mpr fun s' hs' => ⟨.refl x, ?_, fun token link hlink hopen => ?_⟩
    · exact hcount.numbered hs' h.numbered
    · exact (h.standing token link hlink hopen).step hs' h.numbered (hleaves token link hlink hopen)
  | generateShareLink subject credentialId expiryHours passwordHash permission =>
    obtain ⟨⟨c, hc, hlive⟩, hfree⟩ := hcareful
    refine ensures_map.mpr (Ensures.mono (ensures_generateShareLink _ _ _ _ _ _ _ _) ?_)
    rintro ⟨⟨s', x'⟩, token⟩ ⟨hregistry, rfl, ⟨c', hc', hsubject⟩, link, hx', rfl, rfl, -⟩
    obtain rfl := Option.mem_unique hc hc'
    rw [hx']
    refine ⟨.set fun old hold => ?_, h.set hregistry fun _ => ⟨c, hc, hsubject, hlive⟩⟩
    exact absurd (hfree.symm.trans hold) (by simp)
  | revokeShareLink subject token =>
    refine Ensures.mono (ensures_revokeShareLink _ _ _ _ _) ?_
    rintro ⟨s', x'⟩ ⟨hregistry, link, hlink, rfl⟩
    refine ⟨.set fun old hold => ?_, h.set hregistry fun hopen => absurd hopen.1 (by simp)⟩
    obtain rfl := Option.mem_unique hlink hold
    exact ⟨rfl, fun _ => rfl⟩

/-! ## Whole runs -/

namespace ShareLinks

/-- The ledger with the contract and its links. -/
abbrev SharedLedger : Type := Ledger (State × ShareLinks)

def next (host : Host) : SharedLedger → TimedCall ShareOp → SharedLedger :=
  Ledger.next ShareOp.apply host

def after (host : Host) (calls : List (TimedCall ShareOp)) : SharedLedger :=
  Ledger.after ShareOp.apply host (.empty, fun _ => none) calls

/-- `revoke_share_link` succeeds on the token. -/
def Revokes (host : Host) (token : Bytes) (w : SharedLedger) (call : TimedCall ShareOp) : Prop :=
  ∃ subject, call.op = .revokeShareLink subject token ∧ w.Completes ShareOp.apply host call

/-- `generate_share_link` returns the token, for a password. -/
def Generates (host : Host) (token hash : Bytes) (w : SharedLedger) (call : TimedCall ShareOp) :
    Prop :=
  ∃ subject credentialId expiryHours permission r,
    call.op = .generateShareLink subject credentialId expiryHours (some hash) permission ∧
    w.storage.2.generateShareLink (w.env host call) w.storage.1 subject credentialId expiryHours
      (some hash) permission = .ok (r, token)

/-- A call with `E` is made in the run. -/
abbrev Occurs (host : Host) (E : SharedLedger → TimedCall ShareOp → Prop) :
    List (TimedCall ShareOp) → Prop :=
  Machine.Occurs (next host) E (after host [])

/-- **What the links of a run promise** of `validate_share_token`, at the end of the run or
later. -/
structure Secure (host : Host) (calls : List (TimedCall ShareOp)) : Prop where
  revoked : ∀ token, Occurs host (Revokes host token) calls → ∀ env p link,
    (after host calls).storage.2.validateShareToken env token p ≠ .ok link
  password : ∀ token hash, Occurs host (Generates host token hash) calls → ∀ env p link,
    (after host calls).storage.2.validateShareToken env token p = .ok link → p = some hash
  standing : ∀ env token p link, (after host calls).time ≤ env.now →
    (after host calls).storage.2.validateShareToken env token p = .ok link →
    link.Stands (after host calls).storage.1

/-- A call keeps to it. -/
def Careful (w : SharedLedger) (call : TimedCall ShareOp) : Prop :=
  call.op.Careful (w.time + call.elapsed) w.storage.1 w.storage.2

variable {host : Host} {w : SharedLedger} {call : TimedCall ShareOp}
  {calls : List (TimedCall ShareOp)} {token hash : Bytes}

theorem Revokes.stored (h : Revokes host token w call) :
    ∃ link ∈ (next host w call).storage.2 token, link.revoked = true := by
  obtain ⟨subject, hop, r, hr⟩ := h
  have hnext : (next host w call).storage = r := by simp only [next, Ledger.next, hr]
  rw [hop] at hr
  obtain ⟨-, link, -, hstored⟩ := ensures_revokeShareLink _ _ _ _ _ r hr
  rw [hnext, hstored]
  exact ⟨_, Store.set_self .., rfl⟩

theorem Generates.stored (h : Generates host token hash w call) :
    ∃ link ∈ (next host w call).storage.2 token, link.passwordHash = some hash := by
  obtain ⟨subject, credentialId, expiryHours, permission, r, hop, hr⟩ := h
  have hnext : (next host w call).storage = r := by
    simp only [next, Ledger.next, hop, ShareOp.apply, hr, Except.map_ok]
  obtain ⟨-, -, -, link, hstored, -, -, hpassword⟩ := ensures_generateShareLink _ _ _ _ _ _ _ _ _ hr
  rw [hnext, hstored]
  exact ⟨link, Store.set_self .., hpassword⟩

/-- **What is stored at the end of a run keeps its promises.** -/
structure Kept (host : Host) (calls : List (TimedCall ShareOp)) (w : SharedLedger) : Prop where
  sound : w.storage.2.Sound w.time w.storage.1
  revoked : ∀ token, Occurs host (Revokes host token) calls →
    ∃ link ∈ w.storage.2 token, link.revoked = true
  password : ∀ token hash, Occurs host (Generates host token hash) calls →
    ∃ link ∈ w.storage.2 token, link.passwordHash = some hash

theorem kept_after (h : Machine.Along (next host) Careful (after host []) calls) :
    Kept host calls (after host calls) := by
  refine h.history (I := Kept host) ⟨⟨State.empty_numbered, by rintro _ _ ⟨⟩⟩, by rintro _ ⟨⟩,
    by rintro _ _ ⟨⟩⟩ fun calls call ih hcareful => ?_
  generalize hw : Machine.run (next host) (after host []) calls = w at *
  have hlater : w.storage.2.Sound (w.time + call.elapsed) w.storage.1 :=
    ⟨ih.sound.numbered, fun token link hlink hopen => ih.sound.standing token link hlink
      (hopen.earlier (Nat.le_add_right ..))⟩
  obtain ⟨hkeeps, hsound⟩ := Ledger.next_of_ensures (Q := fun r : State × ShareLinks =>
    w.storage.2.Keeps r.2 ∧ r.2.Sound (w.time + call.elapsed) r.1)
    (ShareOp.sound (w.env host call) hlater hcareful) ⟨.refl _, hlater⟩
  refine ⟨hsound, fun token hoccurs => ?_, fun token hash hoccurs => ?_⟩
  all_goals
    rw [Occurs, Machine.occurs_append, hw] at hoccurs
    rcases hoccurs with hbefore | hnow | hnever
  · obtain ⟨link, hlink, hrevoked⟩ := ih.revoked token hbefore
    obtain ⟨link', hlink', -, hstays⟩ := hkeeps token link hlink
    exact ⟨link', hlink', hstays hrevoked⟩
  · exact hnow.stored
  · exact hnever.elim
  · obtain ⟨link, hlink, hpassword⟩ := ih.password token hash hbefore
    obtain ⟨link', hlink', hsame, -⟩ := hkeeps token link hlink
    exact ⟨link', hlink', hsame.trans hpassword⟩
  · exact hnow.stored
  · exact hnever.elim

/-- **What `validate_share_token` asks for.** -/
theorem validateShareToken_eq_ok {env : Env} {x : ShareLinks} {p : Option Bytes} {link : ShareLink}
    (h : x.validateShareToken env token p = .ok link) :
    x token = some link ∧ link.Open env.now ∧ ∀ hash ∈ link.passwordHash, p = some hash := by
  simp only [validateShareToken, bind_eq_ok, expect_eq_ok, require_eq_ok, pure_eq_ok] at h
  obtain ⟨link', hlink, -, hunrevoked, -, hunexpired, ⟨⟩, hpassword, rfl⟩ := h
  refine ⟨hlink, ⟨hunrevoked, hunexpired⟩, fun hash hhash => ?_⟩
  rw [Option.mem_def.mp hhash] at hpassword
  cases p with
  | none => cases hpassword
  | some provided => exact congrArg some (require_eq_ok.mp hpassword).symm

/-- **Careful calls leave links that keep what they promise.** -/
theorem secure_of_careful (host : Host) (calls : List (TimedCall ShareOp))
    (h : Machine.Along (next host) Careful (after host []) calls) : Secure host calls := by
  have hkept := kept_after h
  refine ⟨fun token hoccurs env p link hvalid => ?_, fun token hash hoccurs env p link hvalid => ?_,
    fun env token p link hnow hvalid => ?_⟩
  all_goals obtain ⟨hlink, hopen, hpassword⟩ := validateShareToken_eq_ok hvalid
  · obtain ⟨link', hlink', hrevoked⟩ := hkept.revoked token hoccurs
    obtain rfl := Option.mem_unique hlink hlink'
    exact absurd (hopen.1.symm.trans hrevoked) (by simp)
  · obtain ⟨link', hlink', hhash⟩ := hkept.password token hash hoccurs
    obtain rfl := Option.mem_unique hlink hlink'
    exact hpassword hash hhash
  · exact hkept.sound.standing token link hlink (hopen.earlier hnow)

end ShareLinks

/-! ## Two links in one second -/

namespace Sample

/-- A call at the time of the previous one. -/
def share (signer : Address) (op : ShareOp) : TimedCall ShareOp :=
  { elapsed := 0, auths := [signer], op := op }

def passwordHash : Bytes := List.replicate 32 7

/-- Alice shares a credential for an hour, with a password. -/
def shared : List (TimedCall ShareOp) :=
  [share issuer (.contract (.issuance (.issueCredential issuer alice 1 [1] none 0))),
    share alice (.generateShareLink alice 1 1 (some passwordHash) 1)]

/-- They revoke the link, and share the credential once more, without a password. -/
def sharedAgain : List (TimedCall ShareOp) :=
  shared ++ [share alice (.revokeShareLink alice (shareToken 1 3600)),
    share alice (.generateShareLink alice 1 1 none 2)]

/-- Somebody validates a token at a time. -/
def visit (now : Nat) : Env := { host with now := now, auths := [] }

end Sample

namespace ShareLinks

open Sample

theorem secure_of_careful_shared :
    ((after host shared).storage.2.validateShareToken (visit 3599) (shareToken 1 3600)
      (some passwordHash)).toOption ≠ none ∧ Secure host shared := by
  refine ⟨by decide, secure_of_careful host shared ⟨⟨by decide, ?_⟩, ⟨⟨_, rfl, rfl⟩, rfl⟩, trivial⟩⟩
  rintro _ _ ⟨⟩

/-- **A new link brings a revoked token back**, and without its password. -/
theorem not_secure_sharedAgain : ¬ ∀ host calls, Secure host calls := by
  intro h
  have hvalid : ((after host sharedAgain).storage.2.validateShareToken (visit 0) (shareToken 1 3600)
    none).toOption ≠ none := by decide
  cases hresult : (after host sharedAgain).storage.2.validateShareToken (visit 0)
    (shareToken 1 3600) none with
  | error => exact hvalid (by rw [hresult]; rfl)
  | ok link =>
    exact (h host sharedAgain).revoked _ (.inr (.inr (.inl ⟨alice, rfl, _, rfl⟩))) _ none link
      hresult

end ShareLinks

end QuorumProof
