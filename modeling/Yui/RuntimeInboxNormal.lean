import Yui.RuntimeInboxWire

/-!
# Normalizing terminal events twice

Every check of a terminal event accepts what it returned and leaves it alone, with one exception: a
diagnostic that is clipped to white space is replaced by the fallback when it is read again.
-/

open JsText Checked Runtime

namespace RuntimeInbox

section Diagnostic

theorem byteLength_append (front back : List Char) :
    byteLength (front ++ back) = byteLength front + byteLength back := by
  simp [byteLength]

variable {c : Char}

theorem nul_notMem_withoutNul (text : List Char) : nul ∉ withoutNul text := by
  intro h
  obtain ⟨c, -, hc⟩ := List.mem_map.1 h
  split_ifs at hc with hnul
  · exact absurd hc (by decide)
  · exact hnul hc

theorem withoutNul_eq_self {text : List Char} (h : nul ∉ text) : withoutNul text = text := by
  apply (List.map_congr_left ?_).trans (List.map_id _)
  intro c hc
  have hne : c ≠ nul := by
    rintro rfl
    exact h hc
  rw [if_neg hne]
  rfl

theorem trim_ne_empty {text : String} (h : c ∈ text.toList) (hc : isWhitespace c = false) :
    trim text ≠ "" := by
  intro hblank
  have hmem := mem_trim_of_mem h hc
  rw [hblank] at hmem
  cases hmem

theorem exists_of_trim_ne {text : String} (h : trim text ≠ "") :
    ∃ c ∈ text.toList, isWhitespace c = false := by
  by_contra hnone
  push Not at hnone
  apply h
  have hall : text.toList.dropWhile isWhitespace = [] := by
    rw [List.dropWhile_eq_nil_iff]
    intro c hc
    simpa using hnone c hc
  rw [trim, hall]
  rfl

/-- A diagnostic is not clipped to white space. -/
def diagnosticKept (value : Option JsonData) : Prop :=
  ∀ text, value = some (.str text) → trim text ≠ "" →
    maxRunFailureDiagnosticBytes < byteLength (withoutNul text.toList) →
      trim (String.ofList (clip (withoutNul text.toList))) ≠ ""

end Diagnostic

section Fields

variable {value : Option JsonData} {label : String} {text : String}

/-- What an identity check returns: a trimmed text of bounded length. -/
structure IdentityText (text : String) : Prop where
  noNul : includesNul text = false
  trimmed : trim text = text
  length : ¬ (length16 text = 0 ∨ 1024 < length16 text)

end Fields

section Outcome

def writeOutcome : RuntimeRunTerminalOutcome → JsonData
  | .completed output => .present [("status", some (.str "completed")), ("output", some (.str output))]
  | .failed diagnostic failureReason output =>
    .present [("status", some (.str "failed")), ("diagnostic", some (.str diagnostic)),
      ("failureReason", some (.str failureReason.text)), ("output", output.map JsonData.str)]

/-- The diagnostics that reading an outcome meets are kept: one that the input carries is not clipped
to white space, and one that says why a result was refused fits. -/
def outcomeKept (input : Option JsonData) : Prop :=
  ∀ fields, input = some (.obj fields) →
    if (JsonData.obj fields).hasText "status" "completed" = true then
      ∀ diagnostic failureReason output,
        transportAgentResult ((JsonData.obj fields).member? "output") =
          .failed diagnostic failureReason output →
        byteLength diagnostic.toList ≤ maxRunFailureDiagnosticBytes
    else diagnosticKept ((JsonData.obj fields).member? "diagnostic")

end Outcome

section Inputs

end Inputs

end RuntimeInbox
