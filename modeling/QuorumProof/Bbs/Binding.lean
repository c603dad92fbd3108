import QuorumProof.Bbs.Presentation

/-!
# Bbs/Binding — what a challenge is bound to

`compute_challenge` absorbs labelled items, with the length of every label and every datum in front.
Whatever the context imitates, the items are read back off the bytes one by one
(`flatMap_item_inj`), so inputs that are absorbed as the same bytes are the same.
-/

namespace QuorumProof.Bbs

open Bls LittleEndian

/-! ## Items -/

/-- Bytes with their length in front. -/
def frame (bytes : Bytes) : Bytes := toBytes 4 bytes.length ++ bytes

/-- What `append` writes. -/
def item (entry : Bytes × Bytes) : Bytes := frame entry.1 ++ frame entry.2

theorem frame_append_inj {a b rest rest' : Bytes} (ha : a.length < 2 ^ 32) (hb : b.length < 2 ^ 32)
    (h : frame a ++ rest = frame b ++ rest') : a = b ∧ rest = rest' := by
  simp only [frame, List.append_assoc] at h
  obtain ⟨hlength, htail⟩ := List.append_inj h (by simp)
  have hlength' := congrArg ofBytes hlength
  rw [ofBytes_toBytes_of_lt ha, ofBytes_toBytes_of_lt hb] at hlength'
  exact List.append_inj htail hlength'

/-- Both lengths fit into their four bytes. -/
def Short (entry : Bytes × Bytes) : Prop := entry.1.length < 2 ^ 32 ∧ entry.2.length < 2 ^ 32

/-- **Items in a row are read back.** -/
theorem flatMap_item_inj {entries entries' : List (Bytes × Bytes)} (hshort : ∀ e ∈ entries, Short e)
    (hshort' : ∀ e ∈ entries', Short e) (h : entries.flatMap item = entries'.flatMap item) :
    entries = entries' := by
  induction entries generalizing entries' with
  | nil =>
    cases entries' with
    | nil => rfl
    | cons => simp [item, frame, toBytes] at h
  | cons entry entries ih =>
    cases entries' with
    | nil => simp [item, frame, toBytes] at h
    | cons entry' entries' =>
      obtain ⟨⟨hlabel, hdata⟩, hrest⟩ := List.forall_mem_cons.mp hshort
      obtain ⟨⟨hlabel', hdata'⟩, hrest'⟩ := List.forall_mem_cons.mp hshort'
      simp only [List.flatMap_cons, item, List.append_assoc] at h
      obtain ⟨hfst, h⟩ := frame_append_inj hlabel hlabel' h
      obtain ⟨hsnd, h⟩ := frame_append_inj hdata hdata' h
      rw [Prod.ext hfst hsnd, ih hrest hrest' h]

/-! ## The challenge -/

variable {r : ℕ} [Fact r.Prime] {G₁ G₂ Gt : Type} [AddCommGroup G₁] [Module (ZMod r) G₁]
  [AddCommGroup G₂] [Module (ZMod r) G₂] [AddCommGroup Gt] [Module (ZMod r) Gt]

/-- The two items of a revealed message. -/
def revealedItems (entry : UInt32 × ZMod r) : List (Bytes × Bytes) :=
  [(byteString "rev_idx", toBytes 4 entry.1.toNat), (byteString "rev_val", scalarToBytes entry.2)]

/-- The items `compute_challenge` appends. -/
def challengeItems (suite : Suite r G₁ G₂ Gt) (vk : VerifyingKey G₁ G₂) (revealed : RevealedSet r)
    (aBar bBar d t1 t2 : G₁) (presentationContext : Bytes) : List (Bytes × Bytes) :=
  [(byteString "vk_w", suite.toCompressed₂ vk.w), (byteString "a_bar", suite.toCompressed₁ aBar),
    (byteString "b_bar", suite.toCompressed₁ bBar), (byteString "d", suite.toCompressed₁ d),
    (byteString "t1", suite.toCompressed₁ t1), (byteString "t2", suite.toCompressed₁ t2)] ++
  (revealed.toList.flatMap revealedItems ++ [(byteString "ctx", presentationContext)])

/-- **What `compute_challenge` absorbs before it squeezes.** -/
def challengeTranscript (suite : Suite r G₁ G₂ Gt) (vk : VerifyingKey G₁ G₂)
    (revealed : RevealedSet r) (aBar bBar d t1 t2 : G₁) (presentationContext : Bytes) :
    Transcript :=
  (challengeItems suite vk revealed aBar bBar d t1 t2 presentationContext).foldl
    (fun transcript entry => transcript.append entry.1 entry.2)
    (Transcript.new (byteString "QuorumProof-BBS-v1"))

variable {suite : Suite r G₁ G₂ Gt}

theorem computeChallenge_eq (vk : VerifyingKey G₁ G₂) (revealed : RevealedSet r)
    (aBar bBar d t1 t2 : G₁) (presentationContext : Bytes) :
    computeChallenge suite vk revealed aBar bBar d t1 t2 presentationContext =
      (challengeTranscript suite vk revealed aBar bBar d t1 t2
        presentationContext).squeezeChallenge suite.sha256 := by
  simp only [challengeTranscript, challengeItems, List.foldl_append, List.foldl_flatMap]
  rfl

theorem hashState_foldl_append (entries : List (Bytes × Bytes)) (transcript : Transcript) :
    (entries.foldl (fun transcript entry => transcript.append entry.1 entry.2) transcript).hashState
      = transcript.hashState ++ entries.flatMap item := by
  induction entries generalizing transcript with
  | nil => simp
  | cons entry entries ih =>
    rw [List.foldl_cons, ih]
    simp [Transcript.append, item, frame]

theorem length_labels :
    (byteString "vk_w").length = 4 ∧ (byteString "a_bar").length = 5 ∧
      (byteString "b_bar").length = 5 ∧ (byteString "d").length = 1 ∧
      (byteString "t1").length = 2 ∧ (byteString "t2").length = 2 ∧
      (byteString "rev_idx").length = 7 ∧ (byteString "rev_val").length = 7 ∧
      (byteString "ctx").length = 3 := by
  decide +kernel

theorem challengeItems_short {vk : VerifyingKey G₁ G₂} {revealed : RevealedSet r}
    {aBar bBar d t1 t2 : G₁} {presentationContext : Bytes}
    (h : presentationContext.length < 2 ^ 32) :
    ∀ e ∈ challengeItems suite vk revealed aBar bBar d t1 t2 presentationContext, Short e := by
  simp only [challengeItems, List.forall_mem_append, List.forall_mem_cons, List.forall_mem_flatMap,
    revealedItems, Short, length_labels, suite.length_toCompressed₁, suite.length_toCompressed₂,
    length_scalarToBytes, length_toBytes, h]
  simp

theorem revealedItems_injective (suite : Suite r G₁ G₂ Gt) :
    Function.Injective (revealedItems (r := r)) := by
  rintro ⟨idx, val⟩ ⟨idx', val'⟩ h
  simp only [revealedItems, List.cons.injEq, Prod.mk.injEq, true_and, and_true] at h
  have hidx := congrArg ofBytes h.1
  rw [ofBytes_toBytes_of_lt idx.toNat_lt, ofBytes_toBytes_of_lt idx'.toNat_lt] at hidx
  have hval : some val = some val' := by
    rw [← suite.scalarFromBytes_scalarToBytes, h.2, suite.scalarFromBytes_scalarToBytes]
  exact Prod.ext (UInt32.toNat_inj.mp hidx) (Option.some.inj hval)

theorem flatMap_revealedItems_inj (suite : Suite r G₁ G₂ Gt)
    {entries entries' : List (UInt32 × ZMod r)}
    (h : entries.flatMap revealedItems = entries'.flatMap revealedItems) : entries = entries' := by
  induction entries generalizing entries' with
  | nil => cases entries' <;> simp [revealedItems] at h ⊢
  | cons entry entries ih =>
    cases entries' with
    | nil => simp [revealedItems] at h
    | cons entry' entries' =>
      obtain ⟨hhead, htail⟩ := List.append_inj h rfl
      rw [revealedItems_injective suite hhead, ih htail]

/-- **A challenge is squeezed from a transcript that is bound to all it absorbs**: the key, the
revealed messages with their indices, the five points and the context. -/
theorem computeChallenge_binds (suite : Suite r G₁ G₂ Gt) (vk vk' : VerifyingKey G₁ G₂)
    (revealed revealed' : RevealedSet r) (aBar bBar d t1 t2 aBar' bBar' d' t1' t2' : G₁)
    (ctx ctx' : Bytes) :
    computeChallenge suite vk revealed aBar bBar d t1 t2 ctx =
      (challengeTranscript suite vk revealed aBar bBar d t1 t2 ctx).squeezeChallenge suite.sha256 ∧
    (ctx.length < 2 ^ 32 → ctx'.length < 2 ^ 32 →
      (challengeTranscript suite vk revealed aBar bBar d t1 t2 ctx).hashState =
        (challengeTranscript suite vk' revealed' aBar' bBar' d' t1' t2' ctx').hashState →
      vk.w = vk'.w ∧ revealed.toList = revealed'.toList ∧ aBar = aBar' ∧ bBar = bBar' ∧ d = d' ∧
        t1 = t1' ∧ t2 = t2' ∧ ctx = ctx') := by
  refine ⟨computeChallenge_eq .., fun hctx hctx' h => ?_⟩
  rw [challengeTranscript, challengeTranscript, hashState_foldl_append, hashState_foldl_append] at h
  have hitems := flatMap_item_inj (challengeItems_short hctx) (challengeItems_short hctx')
    (List.append_cancel_left h)
  have hpoint₁ : Function.Injective suite.toCompressed₁ := fun P Q hPQ =>
    Option.mem_unique (suite.fromCompressed₁_eq_some.mpr hPQ)
      (suite.fromCompressed₁_toCompressed₁ Q)
  have hpoint₂ : Function.Injective suite.toCompressed₂ := fun P Q hPQ =>
    Option.mem_unique (suite.fromCompressed₂_eq_some.mpr hPQ)
      (suite.fromCompressed₂_toCompressed₂ Q)
  simp only [challengeItems, List.cons_append, List.nil_append, List.cons.injEq, Prod.mk.injEq,
    true_and, hpoint₁.eq_iff, hpoint₂.eq_iff] at hitems
  obtain ⟨hw, ha, hb, hd, ht1, ht2, hrest⟩ := hitems
  obtain ⟨hrevealed, hlast⟩ := List.append_inj' hrest rfl
  refine ⟨hw, flatMap_revealedItems_inj suite hrevealed, ha, hb, hd, ht1, ht2, ?_⟩
  simpa using hlast

/-- Neither the generators of a key nor the order in which messages were revealed is absorbed. -/
theorem computeChallenge_binds_w :
    Sample.verifyingKey.w = { Sample.verifyingKey with q1 := 0 }.w ∧
      (((∅ : RevealedSet 17).insert 0 5).insert 1 2).toList =
        (((∅ : RevealedSet 17).insert 1 2).insert 0 5).toList := by
  obtain ⟨hw, hrevealed, -⟩ := (computeChallenge_binds Bls.Sample.suite Sample.verifyingKey
    { Sample.verifyingKey with q1 := 0 } ((Std.TreeMap.insert ∅ 0 5).insert 1 2)
    ((Std.TreeMap.insert ∅ 1 2).insert 0 5) 1 1 1 1 1 1 1 1 1 1 [7] [7]).2 (by decide) (by decide)
    (by decide +kernel)
  exact ⟨hw, hrevealed⟩

end QuorumProof.Bbs
