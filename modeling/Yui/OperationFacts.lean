import Yui.Checked
import Yui.JsText
import Yui.UniqueAppend

/-!
# Operation facts

The effect and evidence record of `kernel/operationFacts.ts` that is embedded in a job. Recording
evidence raises the effect and adds references without repeating one, and recording what was
recorded before changes nothing.
-/

open JsText Checked

inductive Effect where
  | none | possible | confirmed
  deriving DecidableEq

def Effect.rank : Effect → ℕ
  | .none => 0
  | .possible => 1
  | .confirmed => 2

structure ImplementationRef where
  id : String
  generation : String
  deriving DecidableEq

structure OperationFacts where
  requestId : String
  inputDigest : String
  actorId : String
  authorityRef : String
  targetId : String
  capability : String
  implementation : ImplementationRef
  effect : Effect
  receiptRefs : List String
  partialResultRefs : List String
  deriving DecidableEq

structure Evidence where
  effect : Option Effect
  receiptRefs : List String
  partialResultRefs : List String

def isHexChar (c : Char) : Bool := c.isDigit || ('a' ≤ c && c ≤ 'f')

/-- `/^[a-f0-9]{64}$/u`. -/
def isHexDigest (s : String) : Bool := s.toList.length == 64 && s.toList.all isHexChar

def isBlank (s : String) : Bool := trim s == ""

variable (facts : OperationFacts)

def OperationFacts.identities : List String :=
  [facts.requestId, facts.actorId, facts.authorityRef, facts.targetId, facts.capability,
    facts.implementation.id, facts.implementation.generation]

def validateOperationFacts : Except String Unit := do
  refuse (∃ value ∈ facts.identities, isBlank value = true ∨ includesNul value = true)
    "Operation identity is invalid."
  refuse (isHexDigest facts.inputDigest = false) "Operation input digest is invalid."
  refuse (∃ refs ∈ [facts.receiptRefs, facts.partialResultRefs], ∃ ref ∈ refs, isBlank ref = true)
    "Operation evidence references are invalid."

/-- `[...new Set([...refs, ...more])]`. -/
def uniqueRefs (refs more : List String) : List String := appendUnique id [] (refs ++ more)

def mergeEvidence (evidence : Evidence) : OperationFacts :=
  { facts with
    effect := match evidence.effect with
      | some effect => if facts.effect.rank < effect.rank then effect else facts.effect
      | none => facts.effect
    receiptRefs := uniqueRefs facts.receiptRefs evidence.receiptRefs
    partialResultRefs := uniqueRefs facts.partialResultRefs evidence.partialResultRefs }

def recordOperationEvidence (facts : OperationFacts) (evidence : Evidence) :
    Except String OperationFacts := do
  let next := mergeEvidence facts evidence
  validateOperationFacts next
  .ok next

def OperationFacts.asEvidence : Evidence :=
  ⟨some facts.effect, facts.receiptRefs, facts.partialResultRefs⟩

structure ValidOperation (facts : OperationFacts) : Prop where
  identities : ∀ value ∈ facts.identities, isBlank value = false ∧ includesNul value = false
  digest : isHexDigest facts.inputDigest = true
  receipts : ∀ ref ∈ facts.receiptRefs, isBlank ref = false
  partials : ∀ ref ∈ facts.partialResultRefs, isBlank ref = false

theorem validateOperationFacts_iff :
    validateOperationFacts facts = .ok () ↔ ValidOperation facts := by
  constructor
  · intro h
    obtain ⟨_, hidentity, _, hdigest, h⟩ := bind_ok₂ h
    have hid := refuse_ok hidentity
    have hrefs := refuse_ok h
    push Not at hid hrefs
    refine ⟨fun value hv => ?_, ?_, fun ref hr => ?_, fun ref hr => ?_⟩
    · exact ⟨Bool.not_eq_true _ ▸ (hid value hv).1, Bool.not_eq_true _ ▸ (hid value hv).2⟩
    · exact Bool.not_eq_false _ ▸ refuse_ok hdigest
    · exact Bool.not_eq_true _ ▸ hrefs facts.receiptRefs (by simp) ref hr
    · exact Bool.not_eq_true _ ▸ hrefs facts.partialResultRefs (by simp) ref hr
  · intro h
    unfold validateOperationFacts
    rw [refuse_of_not, ok_bind, refuse_of_not, ok_bind, refuse_of_not]
    · rintro ⟨refs, hrefs, ref, hr, hblank⟩
      rcases List.mem_pair.1 hrefs with rfl | rfl
      · simp [h.receipts ref hr] at hblank
      · simp [h.partials ref hr] at hblank
    · simp [h.digest]
    · rintro ⟨value, hv, hblank | hnul⟩
      · simp [(h.identities value hv).1] at hblank
      · simp [(h.identities value hv).2] at hnul

variable {evidence : Evidence}

theorem recordOperationEvidence_ok {facts next : OperationFacts}
    (h : recordOperationEvidence facts evidence = .ok next) :
    next = mergeEvidence facts evidence ∧ ValidOperation next := by
  obtain ⟨_, hvalid, h⟩ := bind_ok h
  cases h
  exact ⟨rfl, (validateOperationFacts_iff _).1 hvalid⟩

variable {facts : OperationFacts}

theorem recordOperationEvidence_of_valid (h : ValidOperation (mergeEvidence facts evidence)) :
    recordOperationEvidence facts evidence = .ok (mergeEvidence facts evidence) := by
  unfold recordOperationEvidence
  dsimp only
  rw [(validateOperationFacts_iff _).2 h, ok_bind]

theorem mem_uniqueRefs {refs more : List String} {ref : String} :
    ref ∈ uniqueRefs refs more ↔ ref ∈ refs ∨ ref ∈ more := by
  simp [uniqueRefs, appendUnique.mem_id]

theorem ValidOperation.merge (h : ValidOperation facts)
    (hreceipts : ∀ ref ∈ evidence.receiptRefs, isBlank ref = false)
    (hpartials : ∀ ref ∈ evidence.partialResultRefs, isBlank ref = false) :
    ValidOperation (mergeEvidence facts evidence) := by
  refine ⟨h.identities, h.digest, fun ref hr => ?_, fun ref hr => ?_⟩
  · exact (mem_uniqueRefs.1 hr).elim (h.receipts ref) (hreceipts ref)
  · exact (mem_uniqueRefs.1 hr).elim (h.partials ref) (hpartials ref)

theorem uniqueRefs_nodup (refs more : List String) : (uniqueRefs refs more).Nodup :=
  appendUnique.nodup_id List.nodup_nil _

/-- What was recorded is recorded again without a change. -/
theorem uniqueRefs_absorb (refs more : List String) :
    uniqueRefs refs (uniqueRefs refs more) = uniqueRefs refs more := by
  have hsplit : ∀ values, uniqueRefs refs values =
      appendUnique id (appendUnique id [] refs) values := fun values => by
    rw [uniqueRefs, appendUnique.append_right]
  obtain ⟨tail, htail⟩ : appendUnique id [] refs <+: uniqueRefs refs more := by
    rw [hsplit]
    exact appendUnique.isPrefix _ _
  have hnodup : (appendUnique id [] refs ++ tail).Nodup := by
    rw [htail]
    exact uniqueRefs_nodup refs more
  have hself : appendUnique id (appendUnique id [] refs) (appendUnique id [] refs) =
      appendUnique id [] refs := appendUnique.eq_left (by simp)
  rw [hsplit, ← htail, appendUnique.append_right, hself]
  apply appendUnique.eq_append_id (List.Nodup.of_append_right hnodup)
  exact fun ref hr hmem => (List.disjoint_of_nodup_append hnodup) hmem hr

theorem uniqueRefs_self {refs : List String} (h : refs.Nodup) : uniqueRefs refs refs = refs := by
  have hself : appendUnique id [] refs = refs := by simpa using @appendUnique.eq_append_id _ _ [] _ h (by simp)
  rw [uniqueRefs, appendUnique.append_right, hself]
  exact appendUnique.eq_left (by simp)

/-- The evidence lists name every reference once. -/
structure OperationFacts.Distinct (facts : OperationFacts) : Prop where
  receipts : facts.receiptRefs.Nodup
  partials : facts.partialResultRefs.Nodup

theorem mergeEvidence_distinct (facts : OperationFacts) (evidence : Evidence) :
    (mergeEvidence facts evidence).Distinct :=
  ⟨uniqueRefs_nodup _ _, uniqueRefs_nodup _ _⟩

theorem mergeEvidence_absorb (facts : OperationFacts) (evidence : Evidence) :
    mergeEvidence facts (mergeEvidence facts evidence).asEvidence = mergeEvidence facts evidence := by
  unfold mergeEvidence OperationFacts.asEvidence
  dsimp only
  rw [uniqueRefs_absorb, uniqueRefs_absorb]
  congr 1
  split
  · split_ifs <;> rfl
  · simp

theorem mergeEvidence_self (h : facts.Distinct) : mergeEvidence facts facts.asEvidence = facts := by
  unfold mergeEvidence OperationFacts.asEvidence
  dsimp only
  rw [uniqueRefs_self h.receipts, uniqueRefs_self h.partials, if_neg (lt_irrefl _)]

/-- The part of the facts that names the operation. -/
def OperationFacts.identity (facts : OperationFacts) :
    String × String × String × String × String × String × ImplementationRef :=
  (facts.requestId, facts.inputDigest, facts.actorId, facts.authorityRef, facts.targetId,
    facts.capability, facts.implementation)

/-- Effects only accumulate. -/
structure OperationFacts.Accumulates (before after : OperationFacts) : Prop where
  identity : after.identity = before.identity
  effect : before.effect.rank ≤ after.effect.rank
  receipts : before.receiptRefs ⊆ after.receiptRefs
  partials : before.partialResultRefs ⊆ after.partialResultRefs

theorem OperationFacts.Accumulates.refl (facts : OperationFacts) : facts.Accumulates facts :=
  ⟨rfl, le_rfl, List.Subset.refl _, List.Subset.refl _⟩

theorem OperationFacts.Accumulates.trans {a b c : OperationFacts} (hab : a.Accumulates b)
    (hbc : b.Accumulates c) : a.Accumulates c :=
  ⟨hbc.identity.trans hab.identity, hab.effect.trans hbc.effect,
    List.Subset.trans hab.receipts hbc.receipts, List.Subset.trans hab.partials hbc.partials⟩

theorem accumulates_mergeEvidence (facts : OperationFacts) (evidence : Evidence) :
    facts.Accumulates (mergeEvidence facts evidence) := by
  refine ⟨rfl, ?_, fun ref hr => ?_, fun ref hr => ?_⟩
  · unfold mergeEvidence
    dsimp only
    split
    · split_ifs <;> omega
    · exact le_rfl
  · exact mem_uniqueRefs.2 (.inl hr)
  · exact mem_uniqueRefs.2 (.inl hr)
