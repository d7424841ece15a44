import Yui.DurableJobValid

/-!
# The business result of a process

The result that a run records for its process is valid: its summary is bounded, it names the run
once for each reference, and unless the ids of the run are absurdly long it fits into the limit of
a business result.
-/

open JsText Checked Validation

section Summary

theorem utf16Take_subset (count : ℕ) (chars : List Char) : utf16Take count chars ⊆ chars := by
  induction chars generalizing count with
  | nil => simp [utf16Take]
  | cons c chars ih =>
    rw [utf16Take]
    by_cases h : (if c.toNat < 0x10000 then 1 else 2) ≤ count
    · rw [if_pos h]
      exact List.cons_subset_cons c (ih _)
    · rw [if_neg h]
      exact List.nil_subset _

theorem utf16Take_length (count : ℕ) (chars : List Char) : (utf16Take count chars).length ≤ count := by
  induction chars generalizing count with
  | nil => simp [utf16Take]
  | cons c chars ih =>
    rw [utf16Take]
    by_cases h : (if c.toNat < 0x10000 then 1 else 2) ≤ count
    · rw [if_pos h, List.length_cons]
      have hrest := ih (count - if c.toNat < 0x10000 then 1 else 2)
      have hunits : 1 ≤ if c.toNat < 0x10000 then 1 else 2 := by split_ifs <;> omega
      omega
    · rw [if_neg h]
      exact Nat.zero_le _

theorem length_le_utf16Length (value : String) : value.length ≤ utf16Length value := by
  have h : ∀ chars : List Char, chars.length ≤
      (chars.map fun c => if c.toNat < 0x10000 then 1 else 2).sum := by
    intro chars
    induction chars with
    | nil => simp
    | cons c chars ih =>
      rw [List.length_cons, List.map_cons, List.sum_cons]
      split_ifs <;> omega
  rw [← String.length_toList]
  exact h value.toList

theorem boundedSummary_length (summary : String) : (boundedSummary summary).length ≤ 4131 := by
  unfold boundedSummary
  split_ifs with h
  · have hlength := length_le_utf16Length summary
    unfold maxSummary at h
    omega
  · have htake := utf16Take_length maxSummary summary.toList
    rw [String.length_append, String.length_ofList]
    have hnote : "… (see original execution evidence)".length = 35 := by decide
    have hmax : maxSummary = 4096 := rfl
    omega

theorem boundedSummary_readable {summary : String} (h : Readable summary) : Readable (boundedSummary summary) := by
  unfold boundedSummary
  split_ifs
  · exact h
  · refine ⟨includesNul_append ?_ (by decide), ?_⟩
    · have hnul := h.noNul
      simp only [includesNul, List.contains_eq_mem, decide_eq_false_iff_not, String.toList_ofList] at hnul ⊢
      exact fun hmem => hnul (utf16Take_subset _ _ hmem)
    · apply @notBlank_of_mem _ '('
      · rw [String.toList_append]
        exact List.mem_append_right _ (by decide)
      · decide

theorem executionSummary_readable {result : DurableJobResult}
    (hfailed : ∀ name ∈ result.failedStep, includesNul name = false)
    (hreason : ∀ reason ∈ result.unknownReason, Readable reason) : Readable (executionSummary result) := by
  unfold executionSummary
  cases hr : result.unknownReason with
  | some reason => exact hreason reason hr
  | none =>
    refine ⟨?_, ?_⟩
    · apply includesNul_append _ (by decide)
      apply includesNul_append
      · cases result.outcome <;> decide
      · split_ifs
        · decide
        · apply includesNul_append (by decide)
          cases hf : result.failedStep with
          | none => decide
          | some name => exact hfailed name hf
    · apply @notBlank_of_mem _ 'E'
      · simp only [String.toList_append, List.mem_append]
        exact .inl (.inl (.inl (by decide)))
      · decide

end Summary

/-- The ids of the run are of a length that the store may have given them. -/
def JobFacts.Short (job : JobFacts) : Prop := (executionNamespace job).length + job.id.length ≤ 8192

theorem isHexDigest_length {digest : String} (h : isHexDigest digest = true) : digest.length = 64 := by
  unfold isHexDigest at h
  rw [Bool.and_eq_true] at h
  rw [← String.length_toList]
  simpa using h.1

theorem outcome_text_length (status : DurableJobStatus) : status.text.length ≤ 23 := by
  cases status <;> decide

theorem runReference_weight (run : JobFacts) : (runReference run).json.weight ≤
    200 + 6 * ((executionNamespace run).length + run.id.length) := by
  have hkeys : "scope".length = 5 ∧ "runId".length = 5 ∧ "kind".length = 4 ∧ "taskId".length = 6 ∧
      "task".length = 4 ∧ "global".length = 6 := by decide
  cases hscope : run.scope with
  | task taskId owner =>
    simp only [runReference, executionNamespace, hscope, JobRunReference.json, JobScope.json,
      Json.weight, Json.weightMembers]
    omega
  | global action input service =>
    simp only [runReference, executionNamespace, hscope, JobRunReference.json, JobScope.json,
      Json.weight, Json.weightMembers]
    omega

theorem runRecordReference_weight [JobHost] (run : JobFacts) (result : DurableJobResult) :
    (runRecordReference run result).json.weight ≤ 1200 + 18 * ((executionNamespace run).length + run.id.length) := by
  have href := runReference_weight run
  have hdigest := isHexDigest_length (JobHost.sha256_hex result.json.stringify)
  have hkeys : "kind".length = 4 ∧ "owner".length = 5 ∧ "sourceRun".length = 9 ∧
      "version".length = 7 ∧ "locator".length = 7 ∧ "run-record".length = 10 := by decide
  have hlocator : ("job-runs/" ++ executionNamespace run ++ "/" ++ run.id ++ "/result").length =
      17 + (executionNamespace run).length + run.id.length := by
    have hparts : "job-runs/".length = 9 ∧ "/".length = 1 ∧ "/result".length = 7 := by decide
    simp only [String.length_append]
    omega
  simp only [runRecordReference, resultDigest, JobResultReference.json, JobResultOwner.json,
    JobResultReferenceKind.text, Json.weight, Json.weightMembers, hlocator]
  omega

theorem processBusinessResult_size [JobHost] {run : JobFacts} (hshort : run.Short) (result : DurableJobResult) :
    (processBusinessResult run result).json.byteLength ≤ maxBusinessResultBytes := by
  apply (Json.byteLength_le _).trans
  have hrun := runReference_weight run
  have hrecord := runRecordReference_weight run result
  have hsummary := boundedSummary_length (executionSummary result)
  have houtcome := outcome_text_length result.outcome
  have hkeys : "schemaVersion".length = 13 ∧ "sourceRun".length = 9 ∧ "outcome".length = 7 ∧
      "summary".length = 7 ∧ "evidence".length = 8 ∧ (toString 1).length = 1 := by decide
  have hmax : maxBusinessResultBytes = 262144 := rfl
  unfold JobFacts.Short at hshort
  simp only [processBusinessResult, JobBusinessResult.json, Json.present, List.filterMap_cons,
    List.filterMap_nil, Option.map_some, Option.map_none, List.map_cons, List.map_nil, Json.weight,
    Json.weightMembers, Json.weightItems]
  omega

section Locators

theorem includesDots_of_infix (before after : List Char) : includesDots (before ++ '.' :: '.' :: after) = true := by
  induction before with
  | nil => simp [includesDots]
  | cons c before ih =>
    cases before with
    | nil => simp [includesDots] at ih ⊢
    | cons d before =>
      simp only [List.cons_append, includesDots, Bool.or_eq_true] at ih ⊢
      exact .inr ih

theorem infix_of_mem_intercalate {parts : List (List Char)} {part : List Char} (sep : Char)
    (h : part ∈ parts) : part <:+: [sep].intercalate parts := by
  induction parts with
  | nil => cases h
  | cons first rest ih =>
    cases rest with
    | nil =>
      rw [List.mem_singleton.1 h]
      simp
    | cons second rest =>
      rw [List.intercalate_cons_cons]
      rcases List.mem_cons.1 h with rfl | h
      · rw [List.append_assoc]
        exact (List.prefix_append _ _).isInfix
      · exact (ih h).trans (List.suffix_append _ _).isInfix

theorem dots_not_mem_segments {path : String} (h : includesDots path.toList = false) :
    ".." ∉ segments path := by
  intro hmem
  obtain ⟨part, hpart, heq⟩ := List.mem_map.1 hmem
  have hdots : part = ['.', '.'] := by
    have hlist := congrArg String.toList heq
    rw [String.toList_ofList] at hlist
    rw [hlist]
    decide
  have hinfix := infix_of_mem_intercalate '/' hpart
  rw [List.intercalate_splitOn, hdots] at hinfix
  obtain ⟨before, after, hpath⟩ := hinfix
  have hincludes := includesDots_of_infix before after
  rw [List.append_assoc] at hpath
  rw [← hpath] at h
  simp [hincludes] at h

end Locators

section Validity

theorem names_of_scope {job : JobRun} (h : validateRunScope job = .ok ()) :
    PathName (executionNamespace job.toJobFacts) ∧ PathName job.id := by
  unfold validateRunScope at h
  cases hscope : job.scope with
  | task taskId owner =>
    simp only [hscope, seq_iff] at h
    obtain ⟨_, hreference, _⟩ := bind_ok h.1
    obtain ⟨_, htask, _, hlocal, _⟩ := bind_ok₂ hreference
    simp only [executionNamespace, hscope]
    exact ⟨pathName_of_identity htask, pathName_of_identity hlocal⟩
  | global action input service =>
    simp only [hscope, seq_iff] at h
    obtain ⟨_, hid, _⟩ := bind_ok h.1
    simp only [executionNamespace, hscope]
    exact ⟨⟨by decide, by decide, by decide⟩, pathName_of_identity hid⟩

theorem segments_below (path : String) {name : String} (h : '/' ∉ name.toList) :
    segments (path ++ ("/" ++ name)) = segments path ++ [name] := by
  unfold segments
  rw [String.toList_append, String.toList_append]
  have hslash : "/".toList = ['/'] := by decide
  rw [hslash, List.singleton_append, List.splitOn_append_cons_self, List.splitOn_eq_singleton h]
  simp

variable [JobHost]

theorem runRecordReference_valid {run : JobFacts} (hnamespace : PathName (executionNamespace run))
    (hid : PathName run.id) (result : DurableJobResult) :
    checkResultReference (runReference run) (runRecordReference run result) = .ok () := by
  unfold checkResultReference
  simp only [seq_iff, refuse_iff, checkText_iff]
  refine ⟨?_, ⟨?_, ?_⟩, ?_⟩
  · simp [runRecordReference, ownerMatches, resultDigest, JobHost.sha256_hex]
  · simp only [runRecordReference]
    apply includesNul_append _ (by decide)
    apply includesNul_append _ hid.noNul
    apply includesNul_append _ (by decide)
    exact includesNul_append (by decide) hnamespace.noNul
  · exact notBlank_below _ (by decide)
  · have hsegments : segments (runRecordReference run result).locator =
        ["job-runs", executionNamespace run, run.id, "result"] := by
      have hpath : (runRecordReference run result).locator =
          "job-runs" ++ ("/" ++ executionNamespace run) ++ ("/" ++ run.id) ++ ("/" ++ "result") := by
        have hfirst : "job-runs/" = "job-runs" ++ "/" := by decide
        have hlast : "/result" = "/" ++ "result" := by decide
        simp only [runRecordReference, hfirst, hlast, String.append_assoc]
      rw [hpath, segments_below _ (by decide), segments_below _ hid.noSlash, segments_below _ hnamespace.noSlash]
      have hroot : segments "job-runs" = ["job-runs"] := by decide
      rw [hroot]
      rfl
    rw [hsegments]
    rintro (hslash | hdots)
    · revert hslash
      simp [runRecordReference, startsWithSlash]
    · simp only [List.mem_cons, List.not_mem_nil, or_false] at hdots
      rcases hdots with h | h | h | h
      · revert h
        decide
      · exact hnamespace.notDots h.symm
      · exact hid.notDots h.symm
      · revert h
        decide

theorem processBusinessResult_valid {job : JobRun} (h : ValidRun job)
    (hshort : job.toJobFacts.Short) {result : DurableJobResult}
    (hterminal : isDurableJobTerminal result.outcome = true)
    (hfailed : ∀ name ∈ result.failedStep, includesNul name = false)
    (hreason : ∀ reason ∈ result.unknownReason, Readable reason) :
    ValidBusiness (processBusinessResult job.toJobFacts result) (runReference job.toJobFacts) where
  schema := rfl
  sourceRun := rfl
  terminal := hterminal
  summary := boundedSummary_readable (executionSummary_readable hfailed hreason)
  size := processBusinessResult_size hshort result
  evidence ref href := by
    obtain ⟨hnamespace, hid⟩ := names_of_scope h.scope
    rw [List.mem_singleton.1 href]
    exact runRecordReference_valid hnamespace hid result

end Validity
