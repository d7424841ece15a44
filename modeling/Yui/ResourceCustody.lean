import Mathlib.Logic.Relation
import Yui.ResourceQuarantine

/-!
# Quarantined content is named by the registry

While no operation writes over a record that has content in the quarantine, except to restore or to purge it, each
piece that was moved there is back at its original path, purged after its time, or named by the record that GC reads.
-/

open Relation

namespace ResourceGc

theorem quarantinePath_injective {root id other : String} (h : quarantinePath root id = quarantinePath root other) :
    id = other := by
  have htext := congrArg String.toList h
  simp only [quarantinePath, String.toList_append, List.append_assoc, List.append_cancel_left_eq] at htext
  exact String.toList_inj.1 htext

/-- The piece was restored to its original path, or purged after its time. -/
def Released (journal : List Entry) (piece : Piece) : Prop :=
  .restored piece piece.origin ∈ journal ∨ ∃ now ttl, .purged piece now ttl ∈ journal ∧ ttl ≤ now - piece.movedAt

/-- The piece is released, or a record that can be restored says where it lies and where it came from. -/
def Kept (w : World) (piece : Piece) : Prop :=
  Released w.journal piece ∨ ∃ record ∈ w.records, isPurgeable record = true ∧ ∃ quarantine,
    record.quarantine = some quarantine ∧ w.held quarantine.path = some piece ∧ quarantine.originalPath = piece.origin

structure Names (quarantine : ResourceQuarantineState) (path : String) (piece : Piece) : Prop where
  path : quarantine.path = path
  origin : quarantine.originalPath = piece.origin
  movedAt : quarantine.movedAt = piece.movedAt

structure Custody (root : String) (w : World) : Prop where
  ids : (w.records.map ResourceRecord.id).Nodup
  place : ∀ record ∈ w.records, ∀ quarantine, record.quarantine = some quarantine →
    quarantine.path = quarantinePath root record.id ∧ isPurgeable record = true
  named : ∀ path piece, w.held path = some piece →
    ∃ record ∈ w.records, ∃ quarantine, record.quarantine = some quarantine ∧ Names quarantine path piece
  accounted : ∀ piece, .moved piece ∈ w.journal → Released w.journal piece ∨ ∃ path, w.held path = some piece

namespace Custody

variable {root : String} {w : World}

theorem same (h : Custody root w) {record other : ResourceRecord} (hrecord : record ∈ w.records)
    (hother : other ∈ w.records) (hid : record.id = other.id) : record = other :=
  List.inj_on_of_nodup_map h.ids hrecord hother hid

variable {record : ResourceRecord} {quarantine : ResourceQuarantineState} {piece : Piece}

theorem names (h : Custody root w) (hrecord : record ∈ w.records) (hquarantine : record.quarantine = some quarantine)
    (hheld : w.held quarantine.path = some piece) : Names quarantine quarantine.path piece := by
  obtain ⟨owner, howner, found, hfound, hnames⟩ := h.named _ _ hheld
  have hpath : quarantinePath root owner.id = quarantinePath root record.id := by
    rw [← (h.place owner howner found hfound).1, ← (h.place record hrecord quarantine hquarantine).1, hnames.path]
  obtain rfl := h.same howner hrecord (quarantinePath_injective hpath)
  obtain rfl : found = quarantine := Option.some.inj (hfound.symm.trans hquarantine)
  exact hnames

theorem kept (h : Custody root w) (hmoved : .moved piece ∈ w.journal) : Kept w piece := by
  obtain hreleased | ⟨path, hheld⟩ := h.accounted piece hmoved
  · exact .inl hreleased
  · obtain ⟨record, hrecord, quarantine, hquarantine, hnames⟩ := h.named path piece hheld
    exact .inr ⟨record, hrecord, (h.place record hrecord quarantine hquarantine).2, quarantine, hquarantine,
      hnames.path ▸ hheld, hnames.origin⟩

theorem released_append {journal entries : List Entry} (h : Released journal piece) :
    Released (journal ++ entries) piece := by
  obtain hrestored | ⟨now, ttl, hpurged, hage⟩ := h
  · exact .inl (List.mem_append_left _ hrestored)
  · exact .inr ⟨now, ttl, List.mem_append_left _ hpurged, hage⟩

variable {id : String}

/-- What a record names does not lie at a vacant place. -/
theorem id_ne (h : Custody root w) (hrecord : record ∈ w.records) (hquarantine : record.quarantine = some quarantine)
    (hheld : w.held quarantine.path = some piece) (hvacant : Vacant root w id) : record.id ≠ id := by
  rintro rfl
  rw [(h.place record hrecord quarantine hquarantine).1, hvacant] at hheld
  cases hheld

theorem upsert (h : Custody root w) (record : ResourceRecord)
    (hplace : ∀ quarantine, record.quarantine = some quarantine →
      quarantine.path = quarantinePath root record.id ∧ isPurgeable record = true) (hnames : Vacant root w record.id ∨
      ∃ before ∈ w.records, before.id = record.id ∧ record.quarantine = before.quarantine) :
    Custody root { w with records := upsertResourceRecord w.records record } where
  ids := KeyedMap.nodup_set h.ids
  place found hfound := by
    obtain rfl | hfound := KeyedMap.mem_set hfound
    · exact hplace
    · exact h.place found hfound
  named path piece hheld := by
    obtain ⟨owner, howner, quarantine, hquarantine, hnamed⟩ := h.named path piece hheld
    by_cases hid : owner.id = record.id
    · obtain hvacant | ⟨before, hbefore, hsame, hkept⟩ := hnames
      · exact absurd hid (h.id_ne howner hquarantine (hnamed.path ▸ hheld) hvacant)
      · obtain rfl := h.same hbefore howner (hsame.trans hid.symm)
        exact ⟨record, KeyedMap.mem_set_self, quarantine, hkept.trans hquarantine, hnamed⟩
    · exact ⟨owner, KeyedMap.mem_set_of_ne howner hid, quarantine, hquarantine, hnamed⟩
  accounted := h.accounted

theorem hold (h : Custody root w) (piece : Piece) {path : String} (hnone : w.held path = none)
    (hnamed : ∃ record ∈ w.records, ∃ quarantine, record.quarantine = some quarantine ∧ Names quarantine path piece)
    (there : String → Bool) : Custody root { w with
      held := Function.update w.held path (some piece), there := there, journal := w.journal ++ [.moved piece] } where
  ids := h.ids
  place := h.place
  named other found hheld := by
    by_cases hpath : other = path
    · subst hpath
      obtain rfl : piece = found := Option.some.inj ((Function.update_self other (some piece) w.held).symm.trans hheld)
      exact hnamed
    · exact h.named other found ((Function.update_of_ne hpath _ _).symm.trans hheld)
  accounted found hmoved := by
    obtain hmoved | hlast := List.mem_append.1 hmoved
    · obtain hreleased | ⟨other, hheld⟩ := h.accounted found hmoved
      · exact .inl (released_append hreleased)
      · refine .inr ⟨other, ?_⟩
        have hne : other ≠ path := by
          rintro rfl
          exact absurd (hheld.symm.trans hnone) (by simp)
        exact (Function.update_of_ne hne _ _).trans hheld
    · obtain rfl : found = piece := by simpa using hlast
      exact .inr ⟨path, Function.update_self path (some found) w.held⟩

theorem release (h : Custody root w) {path : String} {entries : List Entry}
    (hentries : ∀ piece, w.held path = some piece → Released entries piece)
    (hplain : ∀ piece, .moved piece ∉ entries) (there : String → Bool) : Custody root { w with
      held := Function.update w.held path none, there := there, journal := w.journal ++ entries } where
  ids := h.ids
  place := h.place
  named other found hheld := by
    by_cases hpath : other = path
    · subst hpath
      exact absurd ((Function.update_self other none w.held).symm.trans hheld) (by simp)
    · exact h.named other found ((Function.update_of_ne hpath _ _).symm.trans hheld)
  accounted found hmoved := by
    obtain hmoved | hlast := List.mem_append.1 hmoved
    · obtain hreleased | ⟨other, hheld⟩ := h.accounted found hmoved
      · exact .inl (released_append hreleased)
      · by_cases hpath : other = path
        · subst hpath
          obtain hrestored | ⟨now, ttl, hpurged, hage⟩ := hentries found hheld
          · exact .inl (.inl (List.mem_append_right _ hrestored))
          · exact .inl (.inr ⟨now, ttl, List.mem_append_right _ hpurged, hage⟩)
        · exact .inr ⟨other, (Function.update_of_ne hpath _ _).trans hheld⟩
    · exact absurd hlast (hplain found)

theorem remove (h : Custody root w) (hvacant : Vacant root w id) :
    Custody root { w with records := removeResourceRecord w.records id } where
  ids := h.ids.sublist ((List.filter_sublist).map _)
  place record hrecord := h.place record (List.mem_of_mem_filter hrecord)
  named path piece hheld := by
    obtain ⟨record, hrecord, quarantine, hquarantine, hnames⟩ := h.named path piece hheld
    have hne := h.id_ne hrecord hquarantine (hnames.path ▸ hheld) hvacant
    exact ⟨record, List.mem_filter.2 ⟨hrecord, decide_eq_true hne⟩, quarantine, hquarantine, hnames⟩
  accounted := h.accounted

theorem removeAll (h : Custody root w) {removed : List ResourceRecord}
    (hvacant : ∀ record ∈ removed, Vacant root w record.id) :
    Custody root { w with records := removeResourceRecords w.records removed } := by
  induction removed generalizing w with
  | nil => exact h
  | cons record removed ih =>
    exact ih (h.remove (hvacant record List.mem_cons_self)) fun other hother =>
      hvacant other (List.mem_cons_of_mem _ hother)

theorem rewrite (h : Custody root w) {before record : ResourceRecord} (hbefore : before ∈ w.records)
    (hid : record.id = before.id) (hquarantine : record.quarantine = before.quarantine)
    (hpurgeable : isPurgeable before = true → isPurgeable record = true) :
    Custody root { w with records := upsertResourceRecord w.records record } := by
  refine h.upsert record (fun quarantine hsome => ?_) (.inr ⟨before, hbefore, hid.symm, hquarantine⟩)
  have hplace := h.place before hbefore quarantine (hquarantine ▸ hsome)
  exact ⟨hid ▸ hplace.1, hpurgeable hplace.2⟩

theorem cleanupFailed_purgeable {blocker : String} {now : ℤ}
    (h : isPurgeable record = true) : isPurgeable (cleanupFailed record blocker now) = true := by
  simp only [isPurgeable, Bool.and_eq_true] at h
  simp [isPurgeable, cleanupFailed, h.1]

theorem fail (h : Custody root w) (hrecord : record ∈ w.records) (blocker : String) (now : ℤ) :
    Custody root { w with records := upsertResourceRecord w.records (cleanupFailed record blocker now) } :=
  h.rewrite hrecord rfl rfl cleanupFailed_purgeable

theorem settle (h : Custody root w) (hnone : record.quarantine = none) (hvacant : Vacant root w record.id) :
    Custody root { w with records := upsertResourceRecord w.records record } := by
  refine h.upsert record (fun quarantine hsome => ?_) (.inl hvacant)
  rw [hnone] at hsome
  cases hsome

theorem restoreAndSave (h : Custody root w) (hrecord : record ∈ w.records)
    (refs : List String) (outcome : Option String) (now : ℤ) :
    Custody root (restoreAndSave w record refs outcome now) := by
  unfold ResourceGc.restoreAndSave restoreQuarantinedRecord
  cases hquarantine : record.quarantine with
  | none => exact h.rewrite hrecord rfl rfl id
  | some quarantine =>
    dsimp only
    by_cases hmethod : quarantine.method ≠ .move ∨ record.kind = .deployment
    · simp only [if_pos hmethod]
      exact h.fail hrecord _ now
    · simp only [if_neg hmethod]
      cases hheld : w.held quarantine.path with
      | none => exact h.fail hrecord _ now
      | some piece =>
        by_cases hthere : w.there quarantine.originalPath = true
        · simp only [if_pos hthere]
          exact h.fail hrecord _ now
        · simp only [if_neg hthere]
          cases outcome with
          | some error => exact h.fail hrecord _ now
          | none =>
            have hnames := h.names hrecord hquarantine hheld
            have hreleased : Custody root { w with
                held := Function.update w.held quarantine.path none
                there := Function.update w.there quarantine.originalPath true
                journal := w.journal ++ [.restored piece quarantine.originalPath] } := by
              refine h.release (fun found hfound => ?_) (by simp) _
              obtain rfl : piece = found := Option.some.inj (hheld.symm.trans hfound)
              exact .inl (by simp [hnames.origin])
            refine hreleased.settle rfl ?_
            rw [Vacant, ← (h.place record hrecord quarantine hquarantine).1]
            exact Function.update_self quarantine.path none w.held

theorem record?_mem {records : Registry} (h : record? records id = some record) : record ∈ records ∧ record.id = id :=
  ⟨List.mem_of_find?_eq_some h, by simpa using List.find?_some h⟩

theorem upsertAll (h : Custody root w) (records : List ResourceRecord)
    (hplain : ∀ record ∈ records, record.quarantine = none) (hvacant : ∀ record ∈ records, Vacant root w record.id) :
    Custody root { w with records := records.foldl upsertResourceRecord w.records } := by
  induction records generalizing w with
  | nil => exact h
  | cons record records ih =>
    have hwritten := h.settle (hplain record List.mem_cons_self) (hvacant record List.mem_cons_self)
    exact ih hwritten (fun other hother => hplain other (List.mem_cons_of_mem _ hother))
      fun other hother => hvacant other (List.mem_cons_of_mem _ hother)

theorem markPathsDeleted (h : Custody root w) {paths : List String} (owner : Option ResourceOwner) (now : ℤ)
    (hvacant : ∀ record ∈ w.records, isDeletionTarget paths record = true → Vacant root w record.id) :
    Custody root (markPathsDeleted w paths owner now) := by
  unfold ResourceGc.markPathsDeleted
  dsimp only
  split_ifs
  · exact h
  · have hfold := h.upsertAll ((w.records.filter (isDeletionTarget paths)).map (markDeleted · now))
    rw [List.foldl_map] at hfold
    refine hfold (fun record hrecord => ?_) fun record hrecord => ?_
    · obtain ⟨target, -, rfl⟩ := List.mem_map.1 hrecord
      rfl
    · obtain ⟨target, htarget, rfl⟩ := List.mem_map.1 hrecord
      obtain ⟨hmem, hdeletion⟩ := List.mem_filter.1 htarget
      exact hvacant target hmem hdeletion

theorem classifyRecord_releasable {ownerTerminal : Bool} {liveRefs : List String}
    {untrusted : Bool} {existing : Option ResourceRecord} {now : ℤ}
    (h : isReleasable (classifyRecord record ownerTerminal liveRefs untrusted existing now) = true) :
    (classifyRecord record ownerTerminal liveRefs untrusted existing now).id = record.id ∧
      (classifyRecord record ownerTerminal liveRefs untrusted existing now).quarantine = record.quarantine := by
  unfold classifyRecord at h ⊢
  cases hexisting : existing.filter fun existing =>
      existing.disposition = .quarantined || existing.disposition = .deleted with
  | some found =>
    -- What is quarantined or deleted is reported as it is, and it is not releasable.
    rw [hexisting] at h
    have hdisposition := (Option.filter_eq_some_iff.1 hexisting).2
    simp only [isReleasable, Bool.and_eq_true, decide_eq_true_eq] at h
    simp [h.1.1.1] at hdisposition
  | none =>
    dsimp only
    split_ifs <;> exact ⟨rfl, rfl⟩

variable {resourceId : ResourceKind → String → String} {candidate : ResourceRecord}

theorem candidate_place (h : Custody root w) {inspected : Registry} (hids : (inspected.map ResourceRecord.id).Nodup)
    (hcandidate : Candidate resourceId inspected candidate) (hreleasable : isReleasable candidate = true)
    (hsame : record? w.records candidate.id = record? inspected candidate.id)
    (hquarantine : candidate.quarantine = some quarantine) : quarantine.path = quarantinePath root candidate.id := by
  obtain ⟨record, ownerTerminal, liveRefs, untrusted, now, hrecord, rfl⟩ := hcandidate
  obtain ⟨hid, hstate⟩ := classifyRecord_releasable hreleasable
  rw [hstate] at hquarantine
  rw [hid] at hsame ⊢
  cases hrecord with
  | inl hmade =>
    rw [hmade.quarantine] at hquarantine
    cases hquarantine
  | inr hmem =>
    have hfound : record? inspected record.id = some record := KeyedMap.find?_of_mem hids hmem
    exact (h.place record (record?_mem (hsame.trans hfound)).1 quarantine hquarantine).1

theorem moveCandidate (h : Custody root w) (outcome : Option String) (now : ℤ)
    (hplace : ∀ quarantine, candidate.quarantine = some quarantine →
      quarantine.path = quarantinePath root candidate.id)
    (hvacant : ∀ record ∈ candidate :: subtree w candidate, Vacant root w record.id) :
    Custody root (moveCandidate root w candidate outcome now) := by
  have hself := hvacant candidate List.mem_cons_self
  unfold ResourceGc.moveCandidate quarantineResource
  cases outcome with
  | some error =>
    refine h.upsert (cleanupFailed candidate s!"Quarantine failed: {error}" now) (fun quarantine hsome => ?_)
      (.inl hself)
    have hsome : candidate.quarantine = some quarantine := hsome
    exact ⟨hplace quarantine hsome, by simp [isPurgeable, cleanupFailed, hsome]⟩
  | none =>
    have hwritten : Custody root { w with records := upsertResourceRecord w.records { candidate with
        disposition := .quarantined
        quarantine := some ⟨quarantinePath root candidate.id, candidate.path, now, .move⟩
        updatedAt := now } } := by
      refine h.upsert _ (fun quarantine hsome => ?_) (.inl hself)
      obtain rfl := Option.some.inj hsome
      exact ⟨rfl, rfl⟩
    have hheld := hwritten.hold ⟨w.journal.length, candidate.path, now⟩ hself
      ⟨_, KeyedMap.mem_set_self, _, rfl, ⟨rfl, rfl, rfl⟩⟩ (fun path => w.there path && !within path candidate.path)
    refine hheld.removeAll fun record hrecord => ?_
    obtain ⟨hmem, hne⟩ := List.mem_filter.1 hrecord
    have hother : quarantinePath root record.id ≠ quarantinePath root candidate.id := fun heq =>
      of_decide_eq_true hne (quarantinePath_injective heq)
    exact (Function.update_of_ne hother _ _).trans (hvacant record (List.mem_cons_of_mem _ hmem))

theorem applyMove (h : Custody root w) {inspected : Registry} (hids : (inspected.map ResourceRecord.id).Nodup)
    (hcandidate : Candidate resourceId inspected candidate) (hreleasable : isReleasable candidate = true)
    (durableRefs : ResourceRecord → List String) (outcome : Option String) (now : ℤ)
    (hvacant : w.there candidate.path = true → ∀ record ∈ candidate :: subtree w candidate, Vacant root w record.id) :
    Custody root (applyMove root w inspected candidate durableRefs outcome now) := by
  unfold ResourceGc.applyMove
  dsimp only
  split_ifs with hchanged hrefs hgone
  · exact h
  · exact h
  · exact h
  · refine h.moveCandidate outcome now (fun quarantine hsome => ?_) (hvacant (by simpa using hgone))
    have hsame : record? w.records candidate.id = record? inspected candidate.id := by
      simp only [List.any_cons, Bool.or_eq_true, not_or, decide_eq_true_eq, not_not] at hchanged
      exact hchanged.1
    exact h.candidate_place hids hcandidate hreleasable hsame hsome

theorem emptied (h : Custody root w) (hrecord : record ∈ w.records)
    (hquarantine : record.quarantine = some quarantine) {ttl now : ℤ}
    (hage : ttl ≤ now - quarantine.movedAt) : Custody root (emptied w quarantine ttl now) := by
  refine h.release (fun piece hheld => ?_) (fun piece hmem => ?_) w.there
  · have hmoved := (h.names hrecord hquarantine hheld).movedAt
    exact .inr ⟨now, ttl, by simp [hheld], hmoved ▸ hage⟩
  · simp at hmem

theorem purgeOne (h : Custody root w) (record : ResourceRecord) (ttl : ℤ) (ownerKnown : Bool) (refs : List String)
    (outcome : Option (String × Bool)) (restoreOutcome : Option String) (now : ℤ) :
    Custody root (purgeOne w record ttl ownerKnown refs outcome restoreOutcome now) := by
  unfold ResourceGc.purgeOne
  cases hquarantine : record.quarantine with
  | none => exact h
  | some quarantine =>
    dsimp only
    by_cases hskip : now - quarantine.movedAt < ttl ∨ record? w.records record.id ≠ some record
    · rw [if_pos hskip]
      exact h
    · rw [if_neg hskip]
      obtain ⟨hage, hfound⟩ := not_or.1 hskip
      have hrecord := (record?_mem (not_not.1 hfound)).1
      split_ifs with hmethod howner hrefs
      · exact h.fail hrecord _ now
      · refine h.rewrite hrecord rfl hquarantine.symm fun hpurgeable => ?_
        simpa [isPurgeable, hquarantine] using hpurgeable
      · exact h.restoreAndSave hrecord refs restoreOutcome now
      · have hemptied := h.emptied hrecord hquarantine (not_lt.1 hage)
        cases outcome with
        | some failure =>
          obtain ⟨error, gone⟩ := failure
          cases gone with
          | false => exact h.fail hrecord _ now
          | true => exact hemptied.fail hrecord _ now
        | none =>
          refine hemptied.settle rfl ?_
          rw [Vacant, ← (h.place record hrecord quarantine hquarantine).1]
          exact Function.update_self quarantine.path none w.held

theorem restoreAndSave_keeps {record other : ResourceRecord} (hother : other ∈ w.records) (hne : other.id ≠ record.id)
    (refs : List String) (outcome : Option String) (now : ℤ) :
    other ∈ (ResourceGc.restoreAndSave w record refs outcome now).records := by
  have hid : (restoreQuarantinedRecord w record refs outcome now).1.id = record.id ∧
      (restoreQuarantinedRecord w record refs outcome now).2.records = w.records := by
    unfold restoreQuarantinedRecord
    cases record.quarantine with
    | none => exact ⟨rfl, rfl⟩
    | some quarantine =>
      dsimp only
      by_cases hmethod : quarantine.method ≠ .move ∨ record.kind = .deployment
      · rw [if_pos hmethod]
        exact ⟨rfl, rfl⟩
      · rw [if_neg hmethod]
        cases w.held quarantine.path with
        | none => exact ⟨rfl, rfl⟩
        | some piece =>
          dsimp only
          by_cases hthere : w.there quarantine.originalPath = true
          · rw [if_pos hthere]
            exact ⟨rfl, rfl⟩
          · rw [if_neg hthere]
            cases outcome with
            | some error => exact ⟨rfl, rfl⟩
            | none => exact ⟨rfl, rfl⟩
  have hkept : other ∈ (restoreQuarantinedRecord w record refs outcome now).2.records := hid.2.symm ▸ hother
  exact KeyedMap.mem_set_of_ne hkept fun heq => hne (heq.trans hid.1)

theorem restoreAll (h : Custody root w) (outcome : String → Option String) (now : ℤ) :
    Custody root (restoreAllResourceGc w outcome now) := by
  have hfold : ∀ records : List ResourceRecord, ∀ w : World, Custody root w → (∀ record ∈ records, record ∈ w.records) →
      (records.map ResourceRecord.id).Nodup → Custody root
        (records.foldl (fun w record => ResourceGc.restoreAndSave w record [] (outcome record.id) now) w) := by
    intro records
    induction records with
    | nil => exact fun w h _ _ => h
    | cons record records ih =>
      intro w h hmem hnodup
      obtain ⟨hnew, hnodup⟩ := List.nodup_cons.1 hnodup
      refine ih _ (h.restoreAndSave (hmem record List.mem_cons_self) _ _ _) (fun other hother => ?_) hnodup
      refine restoreAndSave_keeps (hmem other (List.mem_cons_of_mem _ hother)) (fun hid => hnew ?_) _ _ _
      exact hid ▸ List.mem_map_of_mem hother
  exact hfold _ w h (fun record hrecord => List.mem_of_mem_filter hrecord)
    (h.ids.sublist ((List.filter_sublist).map _))

theorem step {w' : World} (h : Custody root w) (hstep : Step resourceId root True w w') : Custody root w' := by
  cases hstep with
  | register records hmade hvacant =>
    exact h.upsertAll records (fun record hrecord => (hmade record hrecord).quarantine) (hvacant trivial)
  | markPathsDeleted paths owner now hvacant => exact h.markPathsDeleted owner now (hvacant trivial)
  | restore record refs outcome now hdisposition =>
    unfold applyRestore
    split_ifs with hskip
    · exact h
    · exact h.restoreAndSave (record?_mem (not_not.1 (not_or.1 hskip).1)).1 refs outcome now
  | move inspected candidate durableRefs outcome now hids hcandidate hreleasable hvacant =>
    exact h.applyMove hids hcandidate hreleasable durableRefs outcome now (hvacant trivial)
  | purge record ttl ownerKnown refs outcome restoreOutcome now hpurgeable =>
    exact h.purgeOne record ttl ownerKnown refs outcome restoreOutcome now
  | restoreAll outcome now => exact h.restoreAll outcome now
  | change there => exact { h with }

end Custody

/-- A Home where GC has not moved anything yet. -/
structure Fresh (w : World) : Prop where
  ids : (w.records.map ResourceRecord.id).Nodup
  plain : ∀ record ∈ w.records, record.quarantine = none
  held : ∀ path, w.held path = none
  journal : w.journal = []

section Samples

def sampleId (_ : ResourceKind) (_ : String) : String := "78e481b67f284fbf"

def sampleRecord : ResourceRecord where
  id := sampleId .runtimeArtifact "/home/runtime/task"
  kind := .runtimeArtifact
  path := "/home/runtime/task"
  owner := ⟨"/home", none, some "task", none, none, none, .durableRecord⟩
  cleanliness := .notApplicable
  activeRefs := []
  disposition := .active
  blocker := none
  quarantine := none
  cleanupReceipt := none
  updatedAt := 0

end Samples

end ResourceGc
