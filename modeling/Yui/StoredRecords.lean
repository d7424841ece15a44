import Yui.JobValidation

/-!
# Texts of stored records

The checks of `storage/taskStore.ts` on the texts of a record. Unlike the checks of the domain they do
not normalize: a text that is not its own normal form is refused.
-/

open JsText Checked

namespace StoredRecord

def requireNormalizedText (value label : String) : Except String Unit := do
  refuse (includesNul value = true) (label ++ " is invalid.")
  refuse (trim value = "") (label ++ " is required.")
  refuse (trim value ≠ value) (label ++ " must be normalized.")

/-- `["__proto__", "prototype", "constructor", ".", ".."]`. -/
def reservedIdentities : List String := ["__proto__", "prototype", "constructor", ".", ".."]

def requireRecordIdentity (value label : String) : Except String Unit := do
  requireNormalizedText value label
  refuse (value ∈ reservedIdentities ∨ value.toList.any Validation.identityForbidden = true)
    (label ++ " is invalid.")

def requireTimestamp [JsHost] (value label : String) : Except String Unit :=
  refuse (JsHost.dateParse value = none) (label ++ " is invalid.")

theorem requireNormalizedText_iff {value label : String} :
    requireNormalizedText value label = .ok () ↔ NormalText value := by
  unfold requireNormalizedText
  rw [seq_iff, seq_iff, refuse_iff, refuse_iff, refuse_iff]
  constructor
  · rintro ⟨hnul, hblank, htrim⟩
    rw [not_not] at htrim
    exact ⟨by simpa using hnul, htrim, htrim ▸ hblank⟩
  · rintro ⟨hnul, htrim, hblank⟩
    exact ⟨by simp [hnul], htrim.symm ▸ hblank, not_not.2 htrim⟩

end StoredRecord
