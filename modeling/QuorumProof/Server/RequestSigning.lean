import QuorumProof.Lib.Machine
import QuorumProof.Lib.OrderedMap
import QuorumProof.Server.Strings

/-!
# Server/RequestSigning — signed requests, and whether one can be replayed

A signed request carries a timestamp and a nonce.  The middleware refuses a request that is too old,
and remembers the nonce of one it has passed on until the timestamp is too old by itself.

The two tests do not meet: a request is too old *after* `timestamp + maxTimestampAgeMs`, and its
nonce is forgotten *at* that reading of the clock.  A request that arrives there is accepted again
(`not_replaySafe`); when none does, no request is accepted twice (`replaySafe_of_timely`).

Source: `requestSigning.ts`.
-/

namespace QuorumProof.Signing

open Guarded Machine Strings

/-- `RequestSigningConfig`, as `createRequestSigning` accepts it. -/
structure Config where
  secret : String
  headerName : String
  timestampHeader : String
  signatureHeader : String
  nonceHeader : String
  maxTimestampAgeMs : Nat
  maxReplayEntries : Nat
  enabled : Bool
  one_le_maxReplayEntries : 1 ≤ maxReplayEntries

/-- `Request`; the headers by their names in lower case, the body as `JSON.stringify` writes it. -/
structure Request where
  method : String
  originalUrl : String
  url : String
  headers : String → Option String
  body : String

/-- What the middleware relies on of `crypto`. -/
structure Platform where
  /-- `createHmac('sha256', secret).update(payload).digest('hex')`. -/
  computeSignature : String → String → String

/-- `res.status(..).json(..)`. -/
structure Refusal where
  status : Nat
  error : String
  message : String
  deriving DecidableEq, Repr

/-! ## The middleware -/

/-- A header that is there and not empty. -/
def header (req : Request) (name : String) : Option String :=
  (req.headers (toLowerCase name)).filter (· ≠ "")

/-- The class `[A-Za-z0-9._~-]`. -/
def urlSafe (c : Char) : Bool := c.isAlphanum || c ∈ ['.', '_', '~', '-']

def payload (req : Request) (timestamp nonce : String) : String :=
  let path := if req.originalUrl ≠ "" then req.originalUrl else req.url
  "\n".intercalate [req.method, path, timestamp, nonce, req.body]

/-- The headers of a request, all four of them. -/
def required (opts : Config) (req : Request) : Except Refusal (String × String × String) :=
  match header req opts.timestampHeader, header req opts.signatureHeader,
    header req opts.headerName, header req opts.nonceHeader with
  | some timestamp, some signature, some _, some nonce => .ok (timestamp, signature, nonce)
  | _, _, _, _ => .error ⟨401, "Missing authentication", "Required headers: " ++
      ", ".intercalate [opts.headerName, opts.timestampHeader, opts.signatureHeader,
        opts.nonceHeader]⟩

/-- The middleware up to the signature: the nonce and the timestamp of what passes. -/
def verify (p : Platform) (opts : Config) (now : Int) (req : Request) :
    Except Refusal (String × Int) := do
  let (timestamp, signature, nonce) ← required opts req
  require (nonce.length ≤ 128 ∧ nonce ≠ "" ∧ nonce.toList.all urlSafe)
    ⟨401, "Invalid nonce", "Nonce must be 1-128 URL-safe characters"⟩
  let ts ← expect (parseInt timestamp)
    ⟨401, "Invalid timestamp", "Timestamp must be a Unix epoch integer"⟩
  require (¬ now - ts > opts.maxTimestampAgeMs) ⟨401, "Expired timestamp",
    s!"Timestamp {ts} is too old (max age: {seconds opts.maxTimestampAgeMs}s)"⟩
  require (¬ ts > now + 15000) ⟨401, "Future timestamp", "Timestamp cannot be in the future"⟩
  -- `timingSafeEqual` throws on buffers of different lengths only, which are refused before it.
  require (hexBytes signature =
      hexBytes (p.computeSignature (payload req timestamp nonce) opts.secret))
    ⟨401, "Invalid signature", "Signature verification failed"⟩
  return (nonce, ts)

/-- The loop over a map that is full. -/
def purge (opts : Config) (now : Int) (seenNonces : OrderedMap String Int) :
    OrderedMap String Int :=
  if seenNonces.size ≥ opts.maxReplayEntries then
    (seenNonces.entries.filter fun entry => entry.2 ≤ now).foldl
      (fun seen entry => seen.remove entry.1) seenNonces
  else seenNonces

/-- The nonce was seen, and has not expired. -/
def Replayed (now : Int) (nonce : String) (seenNonces : OrderedMap String Int) : Prop :=
  ∃ existingExpiry ∈ seenNonces.get nonce, existingExpiry > now
  deriving Decidable

/-- The middleware from the signature on; what it forgets is forgotten also when it refuses. -/
def remember (opts : Config) (now : Int) (nonce : String) (ts : Int)
    (seenNonces : OrderedMap String Int) : OrderedMap String Int × Except Refusal Unit :=
  if Replayed now nonce seenNonces then
    (seenNonces, .error ⟨401, "Replayed request", "This request nonce has already been used"⟩)
  else
    let seen := purge opts now (seenNonces.remove nonce)
    if seen.size ≥ opts.maxReplayEntries then
      (seen, .error ⟨503, "Replay protection unavailable", "Retry the request later"⟩)
    else (seen.set nonce (ts + opts.maxTimestampAgeMs), .ok ())

/-- `createRequestSigning(..)`: `.ok ()` is `next()`. -/
def middleware (p : Platform) (opts : Config) (now : Int) (req : Request)
    (seenNonces : OrderedMap String Int) : OrderedMap String Int × Except Refusal Unit :=
  if opts.enabled then
    match verify p opts now req with
    | .ok (nonce, ts) => remember opts now nonce ts seenNonces
    | .error refusal => (seenNonces, .error refusal)
  else (seenNonces, .ok ())

/-! ## Sequences of requests -/

/-- A request, and the reading of `Date.now()` it meets. -/
structure Arrival where
  now : Int
  request : Request

/-- The map, the last reading of the clock, and what has been passed to `next()`. -/
structure Gate where
  seenNonces : OrderedMap String Int
  clock : Int
  accepted : List Arrival

variable (p : Platform) (opts : Config)

def Gate.next (gate : Gate) (a : Arrival) : Gate :=
  let (seenNonces, answer) := middleware p opts a.now a.request gate.seenNonces
  { seenNonces := seenNonces
    clock := a.now
    accepted := match answer with
      | .ok () => gate.accepted ++ [a]
      | .error _ => gate.accepted }

def Gate.start (clock : Int) : Gate := { seenNonces := .empty, clock := clock, accepted := [] }

/-- The clock never goes back. -/
def Gate.Ordered (clock : Int) (arrivals : List Arrival) : Prop :=
  Along (Gate.next p opts) (fun gate a => gate.clock ≤ a.now) (.start clock) arrivals
  deriving Decidable

/-- The same timestamp header, and the same nonce header. -/
def Arrival.SameSigned (a b : Arrival) : Prop :=
  header a.request opts.timestampHeader = header b.request opts.timestampHeader ∧
    header a.request opts.nonceHeader = header b.request opts.nonceHeader
  deriving Decidable

/-- **No two accepted requests carry the same timestamp and the same nonce.** -/
def ReplaySafe (clock : Int) (arrivals : List Arrival) : Prop :=
  (run (Gate.next p opts) (.start clock) arrivals).accepted.Pairwise
    fun a b => ¬ a.SameSigned opts b
  deriving Decidable

/-- The request does not arrive on the very millisecond at which its nonce is forgotten. -/
def Arrival.Timely (a : Arrival) : Prop :=
  ∀ ts ∈ (header a.request opts.timestampHeader).bind parseInt,
    a.now ≠ ts + opts.maxTimestampAgeMs
  deriving Decidable

/-! ## What is remembered -/

variable {p opts}

variable {ts now expiry : Int} {nonce : String} {seen : OrderedMap String Int}

/-- What a request that passes the checks has in its headers, and how old it is. -/
theorem verify_eq_ok {req : Request} (h : verify p opts now req = .ok (nonce, ts)) :
    header req opts.nonceHeader = some nonce ∧
      (header req opts.timestampHeader).bind parseInt = some ts ∧
      now ≤ ts + opts.maxTimestampAgeMs := by
  simp only [verify, bind_eq_ok, require_eq_ok, expect_eq_ok, pure_eq_ok] at h
  obtain ⟨⟨timestamp, signature, _⟩, hrequired, -, -, _, hts, -, hage, -, -, -, -, hpair⟩ := h
  cases hpair
  unfold required at hrequired
  split at hrequired
  next htimestamp _ _ hnonce =>
    cases hrequired
    exact ⟨hnonce, by rw [htimestamp]; exact hts, by omega⟩
  next => cases hrequired

/-- The expiry is past, or the nonce is stored until then at least. -/
def Spent (now : Int) (seen : OrderedMap String Int) (nonce : String) (expiry : Int) : Prop :=
  expiry ≤ now ∨ ∃ e, seen.get nonce = some e ∧ expiry ≤ e

section

variable (h : Spent now seen nonce expiry)

include h

theorem Spent.of_get_eq {seen' : OrderedMap String Int} (hget : seen'.get nonce = seen.get nonce) :
    Spent now seen' nonce expiry := by
  unfold Spent
  rw [hget]
  exact h

theorem Spent.le_of_not_replayed (hnot : ¬ Replayed now nonce seen) : expiry ≤ now := by
  rcases h with hpast | ⟨e, hget, hle⟩
  · exact hpast
  · exact Int.le_trans hle (Int.not_lt.mp fun hnow => hnot ⟨e, hget, hnow⟩)

theorem Spent.purge : Spent now (purge opts now seen) nonce expiry := by
  by_cases hlive : Replayed now nonce seen
  · obtain ⟨e, hget, hnow⟩ := hlive
    refine h.of_get_eq ?_
    unfold Signing.purge
    split
    next =>
      refine OrderedMap.get_foldl_remove _ _ fun entry hentry hsame => ?_
      obtain ⟨hmem, hexpired⟩ := List.mem_filter.mp hentry
      have hstored : seen.get entry.1 = some entry.2 := OrderedMap.mem_entries.mp hmem
      rw [hsame, hget] at hstored
      cases hstored
      exact absurd (of_decide_eq_true hexpired) (by omega)
    next => rfl
  · exact .inl (h.le_of_not_replayed hlive)

/-- **What is spent stays spent**, whatever arrives. -/
theorem Spent.remember {nonce' : String} :
    Spent now (remember opts now nonce' ts seen).1 nonce expiry := by
  unfold Signing.remember
  split
  next => exact h
  next hnot =>
    by_cases hnonce : nonce = nonce'
    · subst hnonce
      exact .inl (h.le_of_not_replayed hnot)
    · have hpurged : Spent now (Signing.purge opts now (seen.remove nonce')) nonce expiry :=
        (h.of_get_eq (by rw [OrderedMap.get_remove, if_neg hnonce])).purge
      dsimp only
      split
      next => exact hpurged
      next => exact hpurged.of_get_eq (OrderedMap.get_set_of_ne _ hnonce _)

end

/-- A request that is accepted has not been spent, and is from then on. -/
theorem remember_eq_ok (h : (remember opts now nonce ts seen).2 = .ok ()) :
    (∀ expiry, Spent now seen nonce expiry → expiry ≤ now) ∧
      Spent now (remember opts now nonce ts seen).1 nonce (ts + opts.maxTimestampAgeMs) := by
  unfold remember at h ⊢
  dsimp only at h ⊢
  split at h
  next => cases h
  next hnot =>
    split at h
    next => cases h
    next hroom =>
      rw [if_neg hnot, if_neg hroom]
      exact ⟨fun _ hspent => hspent.le_of_not_replayed hnot,
        .inr ⟨_, OrderedMap.get_set_self _ _ _, Int.le_refl _⟩⟩

/-! ## Runs -/

/-- Everything accepted is spent, and nothing was accepted twice. -/
structure Gate.Sound (opts : Config) (gate : Gate) : Prop where
  spent : ∀ a ∈ gate.accepted, ∃ nonce ts, header a.request opts.nonceHeader = some nonce ∧
    (header a.request opts.timestampHeader).bind parseInt = some ts ∧
    Spent gate.clock gate.seenNonces nonce (ts + opts.maxTimestampAgeMs)
  distinct : gate.accepted.Pairwise fun a b => ¬ a.SameSigned opts b

theorem Gate.Sound.next (henabled : opts.enabled) {gate : Gate} {a : Arrival}
    (h : gate.Sound opts) (hclock : gate.clock ≤ a.now) (htimely : a.Timely opts) :
    (gate.next p opts a).Sound opts := by
  have hlater : ∀ {nonce expiry}, Spent gate.clock gate.seenNonces nonce expiry →
      Spent a.now gate.seenNonces nonce expiry :=
    fun hspent => hspent.imp_left (Int.le_trans · hclock)
  unfold Gate.next middleware
  rw [if_pos henabled]
  cases hverify : verify p opts a.now a.request with
  | error refusal =>
    refine ⟨fun b hb => ?_, h.distinct⟩
    obtain ⟨nonce, ts, hnonce, hts, hspent⟩ := h.spent b hb
    exact ⟨nonce, ts, hnonce, hts, hlater hspent⟩
  | ok signed =>
    obtain ⟨nonce, ts⟩ := signed
    obtain ⟨hnonce, hts, hage⟩ := verify_eq_ok hverify
    dsimp only
    have hkept : ∀ b ∈ gate.accepted, ∃ nonce' ts',
        header b.request opts.nonceHeader = some nonce' ∧
        (header b.request opts.timestampHeader).bind parseInt = some ts' ∧
        Spent a.now (remember opts a.now nonce ts gate.seenNonces).1 nonce'
          (ts' + opts.maxTimestampAgeMs) := by
      intro b hb
      obtain ⟨nonce', ts', hnonce', hts', hspent⟩ := h.spent b hb
      exact ⟨nonce', ts', hnonce', hts', (hlater hspent).remember⟩
    cases hanswer : (remember opts a.now nonce ts gate.seenNonces).2 with
    | error refusal => exact ⟨hkept, h.distinct⟩
    | ok _ =>
      obtain ⟨hfresh, hspent⟩ := remember_eq_ok hanswer
      refine ⟨fun b hb => ?_,
        List.pairwise_append.mpr ⟨h.distinct, List.pairwise_singleton _ _, ?_⟩⟩
      · rcases List.mem_append.mp hb with hb | hb
        · exact hkept b hb
        · cases List.mem_singleton.mp hb
          exact ⟨nonce, ts, hnonce, hts, hspent⟩
      · -- an earlier request with these headers is spent, so this one is at its last millisecond
        rintro b hb a' ha' ⟨htimestamp, hsame⟩
        cases List.mem_singleton.mp ha'
        obtain ⟨nonce', ts', hnonce', hts', hspent'⟩ := h.spent b hb
        rw [hsame, hnonce] at hnonce'
        rw [htimestamp, hts] at hts'
        cases hnonce'
        cases hts'
        exact htimely ts hts (Int.le_antisymm hage (hfresh _ (hlater hspent')))

/-- **Replay protection.**  A middleware that is enabled accepts no timestamp with the same nonce
twice, if no request arrives on the last millisecond of its timestamp. -/
theorem replaySafe_of_timely (henabled : opts.enabled) {clock : Int} {arrivals : List Arrival}
    (hordered : Gate.Ordered p opts clock arrivals)
    (htimely : ∀ a ∈ arrivals, a.Timely opts) : ReplaySafe p opts clock arrivals := by
  have hstart : (Gate.start clock).Sound opts := ⟨by simp [Gate.start], List.Pairwise.nil⟩
  have halong := hordered.and (along_of_mem (Gate.next p opts) htimely)
  exact (halong.invariant (fun gate a h hstep => h.next henabled hstep.1 hstep.2) hstart).distinct

namespace Sample

/-- A signature is the secret. -/
def platform : Platform where
  computeSignature _ secret := secret

def config : Config where
  secret := "5ec2e7"
  headerName := "x-stellar-signature"
  timestampHeader := "x-signature-timestamp"
  signatureHeader := "x-signature-digest"
  nonceHeader := "x-signature-nonce"
  maxTimestampAgeMs := 300000
  maxReplayEntries := 100000
  enabled := true
  one_le_maxReplayEntries := by decide

def request : Request where
  method := "POST"
  originalUrl := "/api/credentials"
  url := "/api/credentials"
  headers name :=
    if name = "x-signature-timestamp" then some "1000"
    else if name = "x-signature-nonce" then some "n1"
    else some "5ec2e7"
  body := "{}"

end Sample

open Signing.Sample

/-- The request at its timestamp, and again a millisecond too early. -/
theorem replaySafe_of_timely_twice : config.enabled ∧
    ReplaySafe platform config 1000
      [⟨1000, request⟩, ⟨300999, request⟩] :=
  ⟨rfl, replaySafe_of_timely rfl (by decide +kernel) (by decide +kernel)⟩

/-- The same request, at once and again five minutes after its timestamp. -/
theorem not_replaySafe : ¬ ∀ (p : Platform) (opts : Config), 1 ≤ opts.maxTimestampAgeMs →
    1 ≤ opts.maxReplayEntries → opts.enabled → ∀ clock arrivals,
      Gate.Ordered p opts clock arrivals → ReplaySafe p opts clock arrivals := by
  intro h
  have hsafe := h platform config (by decide) (by decide) rfl 1000
    [⟨1000, request⟩, ⟨301000, request⟩] (by decide +kernel)
  revert hsafe
  decide +kernel

end QuorumProof.Signing
