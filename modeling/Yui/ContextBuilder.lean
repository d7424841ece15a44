import Yui.ContextHistory

/-!
# What a context builder returns

A build that succeeds keeps every required unit as it was, replaces the other ones by at most one summary,
and stays in its budget. A build that fails changes nothing but a cache of other materials.
-/

open Checked

namespace Context

variable (enc : Encoding) (options : BuilderOptions)

/-! ## Units that a build may change -/

def ContextUnit.isSummarized (unit : ContextUnit) : Bool := unit.entry.action == .summarized

/-- A unit after a build: the same, or a candidate that a summary replaces. -/
structure Keeps (before after : ContextUnit) : Prop where
  required : after.required = before.required
  range : after.entry.historyRange = before.entry.historyRange
  verbatim : before.required = true → after = before
  changed : after = before ∨ after.isSummarized = true

/-- Units derived from those of a build, with at most one summary message for all that is summarized. -/
structure Derived (before after : List ContextUnit) : Prop where
  aligned : List.Forall₂ Keeps before after
  summary : after.filter ContextUnit.isSummarized = [] ∨
    ∃ text, (after.filter ContextUnit.isSummarized).flatMap ContextUnit.messages = [.user text]

theorem Keeps.refl (unit : ContextUnit) : Keeps unit unit := ⟨rfl, rfl, fun _ => rfl, .inl rfl⟩

theorem Keeps.trans {first second third : ContextUnit} (h : Keeps first second)
    (hnext : Keeps second third) : Keeps first third := by
  constructor
  · rw [hnext.required, h.required]
  · rw [hnext.range, h.range]
  · intro hrequired
    rw [hnext.verbatim (h.required.trans hrequired), h.verbatim hrequired]
  · rcases hnext.changed with rfl | hsummarized
    · exact h.changed
    · exact .inr hsummarized

theorem replaceCandidates_aligned (n : ℕ) (text : List Message) (units : List ContextUnit) :
    List.Forall₂ Keeps units (replaceCandidates n text units) := by
  induction units generalizing n text with
  | nil =>
    cases n with
    | zero => exact List.Forall₂.nil
    | succ n => exact List.Forall₂.nil
  | cons unit units ih =>
    cases n with
    | zero =>
      rw [replaceCandidates]
      exact List.forall₂_same.2 fun unit _ => Keeps.refl unit
    | succ n =>
      rw [replaceCandidates]
      by_cases hrequired : unit.required = true
      · rw [if_pos hrequired]
        exact List.Forall₂.cons (Keeps.refl unit) (ih (n + 1) text)
      · rw [if_neg hrequired]
        exact List.Forall₂.cons ⟨rfl, rfl, fun h => absurd h hrequired, .inr rfl⟩ (ih n [])

theorem replaceCandidates_summary (n : ℕ) (text : List Message) (units : List ContextUnit)
    (hrequired : ∀ unit ∈ units, unit.required = true → unit.isSummarized = false)
    (hlater : ∀ unit ∈ (candidates units).drop n, unit.isSummarized = false) :
    (replaceCandidates n text units).filter ContextUnit.isSummarized = [] ∨
      ((replaceCandidates n text units).filter ContextUnit.isSummarized).flatMap ContextUnit.messages = text := by
  induction units generalizing n text with
  | nil =>
    cases n with
    | zero => exact .inl rfl
    | succ n => exact .inl rfl
  | cons unit units ih =>
    have hothers : ∀ other ∈ units, other.required = true → other.isSummarized = false :=
      fun other hother => hrequired other (List.mem_cons_of_mem _ hother)
    by_cases hunit : unit.required = true
    · have hplain := hrequired unit List.mem_cons_self hunit
      have hskip : candidates (unit :: units) = candidates units := by simp [candidates, hunit]
      rw [hskip] at hlater
      have hstep : replaceCandidates n text (unit :: units) =
          unit :: replaceCandidates n text units := by
        cases n with
        | zero => rw [replaceCandidates, replaceCandidates]
        | succ n => rw [replaceCandidates, if_pos hunit]
      rw [hstep, List.filter_cons_of_neg (by rw [hplain]; decide)]
      exact ih n text hothers hlater
    · have hcandidate : candidates (unit :: units) = unit :: candidates units := by simp [candidates, hunit]
      rw [hcandidate] at hlater
      cases n with
      | zero =>
        left
        rw [replaceCandidates, List.filter_eq_nil_iff]
        intro other hother
        by_cases hreq : other.required = true
        · rw [hrequired other hother hreq]
          decide
        · rw [hlater other]
          · decide
          · rw [List.drop_zero, ← hcandidate]
            exact List.mem_filter.2 ⟨hother, by simpa using hreq⟩
      | succ n =>
        right
        rw [replaceCandidates, if_neg hunit, List.filter_cons_of_pos (by rfl), List.flatMap_cons]
        rw [List.drop_succ_cons] at hlater
        rcases ih n [] hothers hlater with hnone | hempty
        · rw [hnone, List.flatMap_nil, List.append_nil]
        · rw [hempty, List.append_nil]

theorem Derived.refl {units : List ContextUnit}
    (hfresh : ∀ unit ∈ units, unit.isSummarized = false) : Derived units units := by
  constructor
  · exact List.forall₂_same.2 fun unit _ => Keeps.refl unit
  · left
    rw [List.filter_eq_nil_iff]
    intro unit hunit
    rw [hfresh unit hunit]
    decide

theorem forall₂_keeps_trans {first second third : List ContextUnit}
    (h : List.Forall₂ Keeps first second) (hnext : List.Forall₂ Keeps second third) :
    List.Forall₂ Keeps first third := by
  induction h generalizing third with
  | nil =>
    cases hnext
    exact List.Forall₂.nil
  | cons hfirst _ ih =>
    cases hnext with
    | cons hsecond hrest => exact List.Forall₂.cons (hfirst.trans hsecond) (ih hrest)

variable {before after : List ContextUnit}

theorem Derived.required_plain (h : Derived before after) (hfresh : ∀ unit ∈ before, unit.isSummarized = false) :
    ∀ unit ∈ after, unit.required = true → unit.isSummarized = false := by
  obtain ⟨haligned, -⟩ := h
  induction haligned with
  | nil => exact nofun
  | @cons first second before after hkeeps _ ih =>
    intro unit hunit hrequired
    rcases List.mem_cons.1 hunit with rfl | hrest
    · rw [hkeeps.verbatim (hkeeps.required ▸ hrequired)]
      exact hfresh first List.mem_cons_self
    · exact ih (fun other hother => hfresh other (List.mem_cons_of_mem _ hother)) unit hrest hrequired

theorem Derived.replace (h : Derived before after)
    (hfresh : ∀ unit ∈ before, unit.isSummarized = false) (n : ℕ) (text : String)
    (hlater : ∀ unit ∈ (candidates after).drop n, unit.isSummarized = false) :
    Derived before (replaceCandidates n [.user text] after) := by
  constructor
  · exact forall₂_keeps_trans h.aligned (replaceCandidates_aligned n _ after)
  · rcases replaceCandidates_summary n [.user text] after (h.required_plain hfresh) hlater with
      hnone | hone
    · exact .inl hnone
    · exact .inr ⟨text, hone⟩

/-! ## What a build returns -/

section Outcome

variable {enc options} {world : BuildWorld} {prepared : Prepared}

/-- The units of a draft were derived from those of the build and counted as they stand. -/
structure Counted (options : BuilderOptions) (world : BuildWorld) (prepared : Prepared) (draft : Draft) : Prop where
  derived : Derived (prepared.materials ++ prepared.units) draft.units
  measured : ∃ call, measure options.counter
    (world.count call (makeRequest prepared.request draft.units)) prepared.model =
      .ok (draft.measurement, draft.estimatedInput)

variable {units : List ContextUnit} {draft : Draft}

theorem estimate_ok {call : ℕ} (h : estimate options world prepared call units = .ok draft) :
    draft.units = units ∧ measure options.counter
      (world.count call (makeRequest prepared.request units)) prepared.model =
        .ok (draft.measurement, draft.estimatedInput) := by
  unfold estimate at h
  obtain ⟨-, -, ⟨measurement, estimated⟩, hcount, -, -, hdraft⟩ := bind_ok₃ h
  cases hdraft
  exact ⟨rfl, hcount⟩

theorem install_counted {compressor summary : String} {call selected : ℕ}
    (hderived : Derived (prepared.materials ++ prepared.units) units)
    (hfresh : ∀ unit ∈ prepared.materials ++ prepared.units, unit.isSummarized = false)
    (hlater : ∀ unit ∈ (candidates units).drop selected, unit.isSummarized = false)
    (h : install enc options world prepared compressor call summary selected units = .ok draft) :
    Counted options world prepared draft := by
  obtain ⟨hunits, hmeasure⟩ := estimate_ok h
  constructor
  · rw [hunits]
    exact hderived.replace hfresh selected _ hlater
  · rw [hunits]
    exact ⟨call, hmeasure⟩

theorem compress_ok {compressor : String} {keys : List String} {original : ℤ} {draft last : Draft}
    {next : Option ContextCache} (hcounted : Counted options world prepared draft)
    (hfresh : ∀ unit ∈ prepared.materials ++ prepared.units, unit.isSummarized = false)
    (h : compress enc options world prepared compressor keys original draft = .ok (last, next)) :
    Counted options world prepared last ∧ ∀ cache ∈ next, cache.sessionId = prepared.request.sessionId ∧
        cache.capability = capability enc options prepared ∧
        cache.sourceSnapshot = sourceSnapshot enc options prepared ∧ cache.keys = keys ∧
        ∃ input, world.summarize input = .text cache.summary := by
  unfold compress at h
  obtain ⟨-, -, hbody⟩ := bind_ok h
  dsimp only at hbody
  split at hbody
  · obtain ⟨-, -, hfail⟩ := bind_ok hbody
    cases hfail
  · obtain ⟨-, -, hfail⟩ := bind_ok hbody
    cases hfail
  · rename_i summary hsummary
    iterate 3 obtain ⟨-, -, hbody⟩ := bind_ok hbody
    obtain ⟨installed, hinstall, -, -, hlast⟩ := bind_ok₂ hbody
    cases hlast
    constructor
    · apply install_counted hcounted.derived hfresh ?_ hinstall
      intro unit hunit
      rw [List.drop_length] at hunit
      cases hunit
    · intro cache hcache
      split_ifs at hcache
      · cases hcache
        exact ⟨rfl, rfl, rfl, rfl, _, hsummary⟩
      · cases hcache

/-- The outcome of a build: its units, what it will store and what it reused. -/
structure Outcome (enc : Encoding) (options : BuilderOptions) (world : BuildWorld)
    (prepared : Prepared) (cached : Option ContextCache) (units : List ContextUnit) (built : Built) : Prop where
  derived : Derived (prepared.materials ++ prepared.units) units
  messages : built.request = makeRequest prepared.request units
  entries : built.report.entries = units.map ContextUnit.entry
  measured : ∃ call, measure options.counter (world.count call built.request) prepared.model =
    .ok (built.report.measurement, built.report.estimatedInput)
  bounds : built.report.bounds = prepared.bounds
  budget : built.report.estimatedInput ≤ built.report.bounds.availableInput
  next : ∀ cache ∈ built.next, cache.sessionId = prepared.request.sessionId ∧
    cache.capability = capability enc options prepared ∧
    cache.sourceSnapshot = sourceSnapshot enc options prepared ∧
    cache.keys = (candidates (prepared.materials ++ prepared.units)).map (candidateKey enc) ∧
    ∃ input, world.summarize input = .text cache.summary
  reused : ∀ cache ∈ built.reused, cached = some cache ∧
    cache.sessionId = prepared.request.sessionId ∧
    cache.capability = capability enc options prepared ∧
    cache.keys <+: (candidates (prepared.materials ++ prepared.units)).map (candidateKey enc)

variable {built : Built}

theorem finish_ok {next reused : Option ContextCache}
    (h : finish enc options world prepared draft next reused = .ok built) :
    built.request = makeRequest prepared.request draft.units ∧
      built.report = report enc options prepared draft ∧ built.next = next ∧
      built.reused = reused ∧ draft.estimatedInput ≤ prepared.bounds.availableInput := by
  unfold finish at h
  obtain ⟨_, hbudget, -, -, current, -, -, -, hbody⟩ := bind_ok₄ h
  obtain ⟨-, -, hlast⟩ := bind_ok hbody
  cases hlast
  exact ⟨rfl, rfl, rfl, rfl, Int.not_lt.1 (refuse_iff.1 hbudget)⟩

theorem Counted.outcome {next reused cached : Option ContextCache} (h : Counted options world prepared draft)
    (hfinish : finish enc options world prepared draft next reused = .ok built)
    (hnext : ∀ cache ∈ next, cache.sessionId = prepared.request.sessionId ∧
      cache.capability = capability enc options prepared ∧
      cache.sourceSnapshot = sourceSnapshot enc options prepared ∧
      cache.keys = (candidates (prepared.materials ++ prepared.units)).map (candidateKey enc) ∧
      ∃ input, world.summarize input = .text cache.summary) (hreused : ∀ cache ∈ reused, cached = some cache ∧
      cache.sessionId = prepared.request.sessionId ∧ cache.capability = capability enc options prepared ∧
      cache.keys <+: (candidates (prepared.materials ++ prepared.units)).map (candidateKey enc)) :
    Outcome enc options world prepared cached draft.units built := by
  obtain ⟨hrequest, hreport, rfl, rfl, hbudget⟩ := finish_ok hfinish
  constructor
  · exact h.derived
  · exact hrequest
  · rw [hreport]
    rfl
  · rw [hrequest, hreport]
    exact h.measured
  · rw [hreport]
    rfl
  · rw [hreport]
    exact hbudget
  · exact hnext
  · exact hreused

theorem projectWith_ok {cached : Option ContextCache}
    (hfresh : ∀ unit ∈ prepared.materials ++ prepared.units, unit.isSummarized = false)
    (h : projectWith enc options world prepared cached = .ok built) :
    ∃ units, Outcome enc options world prepared cached units built := by
  unfold projectWith at h
  obtain ⟨first, hfirst, hbody⟩ := bind_ok h
  obtain ⟨hunits, hmeasure⟩ := estimate_ok hfirst
  have hstart : Counted options world prepared first :=
    ⟨by rw [hunits]; exact Derived.refl hfresh, 0, by rw [hunits]; exact hmeasure⟩
  dsimp only at hbody
  have hreuse : ∀ cache ∈ reusedCache enc options prepared cached
      (prepared.materials ++ prepared.units), cached = some cache ∧
      cache.sessionId = prepared.request.sessionId ∧
      cache.capability = capability enc options prepared ∧
      cache.keys <+: (candidates (prepared.materials ++ prepared.units)).map
        (candidateKey enc) := by
    intro cache hcache
    unfold reusedCache at hcache
    split_ifs at hcache
    · rw [Option.mem_def, Option.filter_eq_some_iff, reusable, Option.filter_eq_some_iff, decide_eq_true_eq] at hcache
      exact hcache.1
    · cases hcache
  obtain ⟨second, hsecond, hrest⟩ := bind_ok hbody
  have hcounted : Counted options world prepared second := by
    unfold installCached at hsecond
    split at hsecond
    · apply install_counted hstart.derived hfresh ?_ hsecond
      intro unit hunit
      apply hfresh unit
      rw [hunits] at hunit
      exact (List.mem_filter.1 (List.mem_of_mem_drop hunit)).1
    · cases hsecond
      exact hstart
  have hnone : ∀ cache ∈ (none : Option ContextCache),
      cache.sessionId = prepared.request.sessionId ∧
      cache.capability = capability enc options prepared ∧
      cache.sourceSnapshot = sourceSnapshot enc options prepared ∧
      cache.keys = (candidates (prepared.materials ++ prepared.units)).map (candidateKey enc) ∧
      ∃ input, world.summarize input = .text cache.summary := fun cache hcache => by cases hcache
  split at hrest
  · split at hrest
    · split at hrest
      · exact ⟨_, hcounted.outcome hrest hnone hreuse⟩
      · obtain ⟨⟨third, next⟩, hcompress, hfinish⟩ := bind_ok hrest
        obtain ⟨hlast, hnext⟩ := compress_ok hcounted hfresh hcompress
        exact ⟨_, hlast.outcome hfinish hnext hreuse⟩
    · exact ⟨_, hcounted.outcome hrest hnone hreuse⟩
  · exact ⟨_, hcounted.outcome hrest hnone hreuse⟩

theorem materialUnits_eq {loader : String} {ids : List String} {materials : List ContextMaterial}
    (h : materialUnits enc loader ids materials = .ok units) : units = materials.map (materialUnit enc loader) := by
  induction materials generalizing ids units with
  | nil =>
    rw [materialUnits] at h
    cases h
    rfl
  | cons material materials ih =>
    rw [materialUnits] at h
    split_ifs at h
    · obtain ⟨rest, hrest, hlast⟩ := bind_ok h
      cases hlast
      rw [ih hrest, List.map_cons]
    · cases h

theorem afterSnapshot_cases (cached : Option ContextCache) : afterSnapshot enc options prepared cached = cached ∨
      afterSnapshot enc options prepared cached = none ∧ ∃ cache, cached = some cache ∧
        cache.sessionId = prepared.request.sessionId ∧
        cache.sourceSnapshot ≠ sourceSnapshot enc options prepared := by
  cases cached with
  | none => exact .inl rfl
  | some cache =>
    by_cases hother : cache.sessionId = prepared.request.sessionId ∧
        cache.sourceSnapshot ≠ sourceSnapshot enc options prepared
    · right
      exact ⟨by simp [afterSnapshot, hother], cache, rfl, hother⟩
    · left
      simp only [afterSnapshot, Option.filter_some, hother]
      simp

theorem afterSnapshot_some {cached : Option ContextCache} {cache : ContextCache}
    (h : afterSnapshot enc options prepared cached = some cache)
    (hsession : cache.sessionId = prepared.request.sessionId) :
    cached = some cache ∧ cache.sourceSnapshot = sourceSnapshot enc options prepared := by
  rw [afterSnapshot, Option.filter_eq_some_iff, decide_eq_true_eq] at h
  refine ⟨h.1, ?_⟩
  by_contra hother
  exact h.2 ⟨hsession, hother⟩

theorem loadSources_spec {sources : List String} {first : ℕ} (h : loadSources enc world first sources = .ok units) :
    ∃ loaded : List (List ContextMaterial), loaded.length = sources.length ∧
      (∀ i materials, loaded[i]? = some materials → world.load (first + i) = .ok (some materials)) ∧
      units = (sources.zip loaded).flatMap fun entry => entry.2.map (materialUnit enc entry.1) := by
  induction sources generalizing first units with
  | nil =>
    rw [loadSources] at h
    cases h
    exact ⟨[], rfl, by simp, rfl⟩
  | cons source sources ih =>
    rw [loadSources] at h
    obtain ⟨-, -, hbody⟩ := bind_ok h
    cases hload : world.load first with
    | error refused =>
      rw [hload] at hbody
      obtain ⟨-, -, hfail⟩ := bind_ok hbody
      cases hfail
    | ok answer =>
      rw [hload] at hbody
      obtain ⟨-, -, hanswer⟩ := bind_ok hbody
      cases answer with
      | none => cases hanswer
      | some materials =>
        obtain ⟨own, hown, rest, hrest, hlast⟩ := bind_ok₂ hanswer
        cases hlast
        obtain ⟨loaded, hlength, hloaded, rfl⟩ := ih hrest
        refine ⟨materials :: loaded, by simp [hlength], ?_, ?_⟩
        · intro i found hget
          cases i with
          | zero =>
            cases hget
            exact hload
          | succ i =>
            rw [show first + (i + 1) = first + 1 + i by omega]
            exact hloaded i found hget
        · rw [List.zip_cons_cons, List.flatMap_cons, materialUnits_eq hown]

/-- What a build prepares: the kept units of its history and the materials it loaded, in their order. -/
structure PreparedFrom (enc : Encoding) (options : BuilderOptions) (world : BuildWorld)
    (input : ContextInput) (prepared : Prepared) : Prop where
  request : prepared.request = input.request
  history : ∃ keep bounds, input.keepRecentGroups.getD (some 2) = some keep ∧
    (∀ start stop, (some start, some stop) ∈ input.protectedHistoryRanges →
      (start, stop) ∈ bounds) ∧
    HistoryKept input.request keep bounds prepared.units
  materials : ∃ loaded : List (List ContextMaterial), loaded.length = options.sources.length ∧
    (∀ i materials, loaded[i]? = some materials → world.load i = .ok (some materials)) ∧
    prepared.materials = (options.sources.zip loaded).flatMap fun entry =>
      entry.2.map (materialUnit enc entry.1)

theorem prepare_ok {input : ContextInput} (h : prepare enc options world input = .ok prepared) :
    PreparedFrom enc options world input prepared := by
  unfold prepare at h
  obtain ⟨-, -, hbody⟩ := bind_ok h
  dsimp only at hbody
  split at hbody
  · cases hbody
  · rename_i keep hkeep
    obtain ⟨-, -, units, hunits, -, -, model, -, hbody⟩ := bind_ok₄ hbody
    obtain ⟨-, -, bounds, -, materials, hmaterials, hlast⟩ := bind_ok₃ hbody
    cases hlast
    obtain ⟨ranges, hranges, hkept⟩ := historyUnits_kept enc hunits
    obtain ⟨loaded, hlength, hloaded, hunits⟩ := loadSources_spec hmaterials
    refine ⟨rfl, ⟨keep, ranges, hkeep, hranges, hkept⟩, loaded, hlength, ?_, hunits⟩
    intro i found hget
    have := hloaded i found hget
    rwa [Nat.zero_add] at this

theorem PreparedFrom.fresh {input : ContextInput} (h : PreparedFrom enc options world input prepared) :
    ∀ unit ∈ prepared.materials ++ prepared.units, unit.isSummarized = false := by
  intro unit hunit
  rcases List.mem_append.1 hunit with hmaterial | hhistory
  · obtain ⟨loaded, -, -, hmaterials⟩ := h.materials
    rw [hmaterials] at hmaterial
    obtain ⟨entry, -, hentry⟩ := List.mem_flatMap.1 hmaterial
    obtain ⟨material, -, rfl⟩ := List.mem_map.1 hentry
    rfl
  · obtain ⟨keep, bounds, -, -, hkept⟩ := h.history
    obtain ⟨start, stop, hspec⟩ := hkept.each unit hhistory
    rw [ContextUnit.isSummarized, hspec.retained]
    rfl

end Outcome

/-- A successful build: its units are those it prepared, derived and counted within the budget. -/
structure BuildOk (input : ContextInput) (world : BuildWorld) (cached : Option ContextCache)
    (prepared : Prepared) (units : List ContextUnit) (built : Built) : Prop where
  source : PreparedFrom enc options world input prepared
  outcome : Outcome enc options world prepared cached units built

variable {input : ContextInput} {cached kept : Option ContextCache}

theorem build_ok {world : BuildWorld} {built : Built} (h : build enc options input world cached = (kept, .ok built)) :
    ∃ prepared units, BuildOk enc options input world kept prepared units built ∧
        kept = afterSnapshot enc options prepared cached := by
  unfold build at h
  cases hprepare : prepare enc options world input with
  | error refused =>
    rw [hprepare] at h
    cases h
  | ok prepared =>
    rw [hprepare] at h
    simp only [project, Prod.mk.injEq] at h
    obtain ⟨rfl, hproject⟩ := h
    have hprepared := prepare_ok hprepare
    obtain ⟨units, houtcome⟩ := projectWith_ok hprepared.fresh hproject
    exact ⟨prepared, units, ⟨hprepared, houtcome⟩, rfl⟩

theorem build_error {world : BuildWorld} {refused : ContextBuildError}
    (h : build enc options input world cached = (kept, .error refused)) :
    kept = cached ∨ kept = none ∧ ∃ prepared cache,
      prepare enc options world input = .ok prepared ∧ cached = some cache ∧
      cache.sessionId = prepared.request.sessionId ∧ cache.sourceSnapshot ≠ sourceSnapshot enc options prepared := by
  unfold build at h
  cases hprepare : prepare enc options world input with
  | error other =>
    rw [hprepare] at h
    cases h
    exact .inl rfl
  | ok prepared =>
    rw [hprepare] at h
    simp only [project, Prod.mk.injEq] at h
    obtain ⟨rfl, -⟩ := h
    rcases afterSnapshot_cases cached with hsame | ⟨hnone, cache, hcache, hsession, hother⟩
    · exact .inl hsame
    · exact .inr ⟨hnone, prepared, cache, rfl, hcache, hsession, hother⟩

/-! ## Runs -/

/-- A build of the run returned the cache's summary. -/
def BuiltIn (ops : List BuilderOp) (cache : ContextCache) : Prop :=
  ∃ before input world after kept built, ops = before ++ BuilderOp.build input world :: after ∧
    build enc options input world (runBuilder enc options before).cached = (kept, .ok built) ∧
    built.next = some cache

variable {cache : ContextCache}

theorem BuiltIn.append {ops : List BuilderOp} (h : BuiltIn enc options ops cache) (op : BuilderOp) :
    BuiltIn enc options (ops ++ [op]) cache := by
  obtain ⟨before, input, world, after, kept, built, rfl, hbuild, hnext⟩ := h
  exact ⟨before, input, world, after ++ [op], kept, built, by simp, hbuild, hnext⟩

theorem runBuilder_append (ops : List BuilderOp) (op : BuilderOp) : runBuilder enc options (ops ++ [op]) =
      (runBuilder enc options ops).apply enc options op := by
  rw [runBuilder, List.foldl_append]
  rfl

theorem filter_eq_some_of {cached : Option ContextCache} {p : ContextCache → Bool}
    (h : cached.filter p = some cache) : cached = some cache :=
  (Option.filter_eq_some_iff.1 h).1

theorem build_kept {world : BuildWorld} {outcome : Except ContextBuildError Built}
    (h : build enc options input world cached = (kept, outcome)) (hkept : kept = some cache) :
    cached = some cache := by
  unfold build at h
  cases hprepare : prepare enc options world input with
  | error refused =>
    rw [hprepare] at h
    cases h
    exact hkept
  | ok prepared =>
    rw [hprepare] at h
    simp only [project, Prod.mk.injEq] at h
    rw [← h.1] at hkept
    exact filter_eq_some_of hkept

theorem runBuilder_builtIn (ops : List BuilderOp) (cache : ContextCache)
    (h : (runBuilder enc options ops).cached = some cache ∨
      cache ∈ (runBuilder enc options ops).storing) : BuiltIn enc options ops cache := by
  induction ops using List.reverseRecOn with
  | nil =>
    rcases h with hcached | hstoring
    · cases hcached
    · cases hstoring
  | append_singleton ops op ih =>
    rw [runBuilder_append] at h
    cases op with
    | build input world =>
      simp only [BuilderState.apply] at h
      cases hbuild : build enc options input world (runBuilder enc options ops).cached with
      | mk kept outcome =>
        rw [hbuild] at h
        cases outcome with
        | error refused =>
          rcases h with hcached | hstoring
          · exact (ih (.inl (build_kept enc options hbuild hcached))).append enc options _
          · exact (ih (.inr hstoring)).append enc options _
        | ok built =>
          rcases h with hcached | hstoring
          · exact (ih (.inl (build_kept enc options hbuild hcached))).append enc options _
          · rcases List.mem_append.1 hstoring with hold | hnew
            · exact (ih (.inr hold)).append enc options _
            · rw [Option.mem_toList] at hnew
              exact ⟨ops, input, world, [], kept, built, rfl, hbuild, hnew⟩
    | store index =>
      simp only [BuilderState.apply] at h
      cases hindex : (runBuilder enc options ops).storing[index]? with
      | none =>
        rw [hindex] at h
        exact (ih h).append enc options _
      | some stored =>
        rw [hindex] at h
        rcases h with hcached | hstoring
        · cases hcached
          exact (ih (.inr (List.mem_of_getElem? hindex))).append enc options _
        · exact (ih (.inr (List.mem_of_mem_eraseIdx hstoring))).append enc options _
    | discard sessionId =>
      rcases h with hcached | hstoring
      · exact (ih (.inl (filter_eq_some_of hcached))).append enc options _
      · exact (ih (.inr hstoring)).append enc options _

theorem Derived.filter_required (h : Derived before after) :
    after.filter ContextUnit.required = before.filter ContextUnit.required := by
  obtain ⟨haligned, -⟩ := h
  induction haligned with
  | nil => rfl
  | @cons first second before after hkeeps _ ih =>
    by_cases hrequired : first.required = true
    · rw [List.filter_cons_of_pos (hkeeps.required.trans hrequired),
        List.filter_cons_of_pos hrequired, hkeeps.verbatim hrequired, ih]
    · rw [List.filter_cons_of_neg (hkeeps.required ▸ hrequired), List.filter_cons_of_neg hrequired, ih]

theorem Derived.ranges (h : Derived before after) : (after.filterMap fun unit => unit.entry.historyRange) =
      before.filterMap fun unit => unit.entry.historyRange := by
  obtain ⟨haligned, -⟩ := h
  induction haligned with
  | nil => rfl
  | cons hkeeps _ ih => rw [List.filterMap_cons, List.filterMap_cons, hkeeps.range, ih]

variable {enc options} in
theorem BuildOk.tiles {world : BuildWorld} {cached : Option ContextCache}
    {prepared : Prepared} {units : List ContextUnit} {built : Built}
    (h : BuildOk enc options input world cached prepared units built) :
    Tiles 0 (built.report.entries.filterMap ContextEntry.historyRange) input.request.messages.length := by
  obtain ⟨keep, bounds, -, -, hkept⟩ := h.source.history
  obtain ⟨loaded, -, -, hmaterials⟩ := h.source.materials
  have hnone : prepared.materials.filterMap (fun unit => unit.entry.historyRange) = [] := by
    rw [List.filterMap_eq_nil_iff]
    intro unit hunit
    rw [hmaterials] at hunit
    obtain ⟨entry, -, hentry⟩ := List.mem_flatMap.1 hunit
    obtain ⟨material, -, rfl⟩ := List.mem_map.1 hentry
    rfl
  have hranges := h.outcome.derived.ranges
  rw [List.filterMap_append, hnone, List.nil_append] at hranges
  rw [h.outcome.entries, List.filterMap_map]
  have hfinal : units.filterMap (ContextEntry.historyRange ∘ ContextUnit.entry) =
      prepared.units.filterMap fun unit => unit.entry.historyRange := hranges
  rw [hfinal]
  exact hkept.tiles

/-- After any run of a builder: a build that succeeds prepares its history and materials, returns units
that keep every required one verbatim and in order with ranges that tile the history, and a cached summary
that it reuses is one that a build of the run returned for the same Session, capability and materials and
for its first candidates; a build that fails changes at most a cache of other materials. -/
theorem builds_keep_required (ops : List BuilderOp) (input : ContextInput) (world : BuildWorld) : (∀ kept built,
      build enc options input world (runBuilder enc options ops).cached = (kept, .ok built) →
        ∃ prepared units, BuildOk enc options input world kept prepared units built ∧
          units.filter ContextUnit.required = (prepared.materials ++ prepared.units).filter ContextUnit.required ∧
          Tiles 0 (built.report.entries.filterMap ContextEntry.historyRange) input.request.messages.length ∧
          ∀ cache ∈ built.reused, BuiltIn enc options ops cache ∧ cache.sessionId = input.request.sessionId ∧
            cache.capability = capability enc options prepared ∧
            cache.sourceSnapshot = sourceSnapshot enc options prepared ∧
            cache.keys <+: (candidates (prepared.materials ++ prepared.units)).map (candidateKey enc)) ∧
    ∀ kept refused, build enc options input world (runBuilder enc options ops).cached = (kept, .error refused) →
        (runBuilder enc options (ops ++ [.build input world])).storing = (runBuilder enc options ops).storing ∧
        (runBuilder enc options (ops ++ [.build input world])).cached = kept ∧
        (kept = (runBuilder enc options ops).cached ∨
          kept = none ∧ ∃ prepared cache, prepare enc options world input = .ok prepared ∧
            (runBuilder enc options ops).cached = some cache ∧ cache.sessionId = prepared.request.sessionId ∧
            cache.sourceSnapshot ≠ sourceSnapshot enc options prepared) := by
  constructor
  · intro kept built hbuild
    obtain ⟨prepared, units, hok, hkept⟩ := build_ok enc options hbuild
    refine ⟨prepared, units, hok, hok.outcome.derived.filter_required, hok.tiles, ?_⟩
    intro cache hcache
    obtain ⟨hcached, hsession, hcapability, hkeys⟩ := hok.outcome.reused cache hcache
    rw [hkept] at hcached
    obtain ⟨hfound, hsnapshot⟩ := afterSnapshot_some hcached hsession
    refine ⟨runBuilder_builtIn enc options ops cache (.inl hfound), ?_, hcapability, hsnapshot, hkeys⟩
    rw [hsession, hok.source.request]
  · intro kept refused hbuild
    have hstep : runBuilder enc options (ops ++ [.build input world]) =
        { runBuilder enc options ops with cached := kept } := by
      rw [runBuilder_append]
      simp only [BuilderState.apply, hbuild]
    rw [hstep]
    exact ⟨rfl, rfl, build_error enc options hbuild⟩

section Sample

def sampleEncoding : Encoding :=
  { digest := fun _ => "sha256", materialText := fun material loader => loader ++ material.content,
    summaryText := fun summary => summary.summary, requestSize := fun request => request.messages.length,
    messageSize := fun _ => 1, bounded := fun _ => true }

def sampleOptions : BuilderOptions :=
  { sources := [], counter := "count", compressor := some "shorten", capacity := none }

/-- A counter of messages and a compressor that answers. -/
def sampleWorld : BuildWorld :=
  { aborted := fun _ => false, resolve := fun _ => .ok none, load := fun _ => .ok (some []),
    count := fun _ request => .ok (some
      { unit := .custom, source := "count", accuracy := .exact,
        value := some (some request.messages.length), uncertainty := some (some 0) }),
    summarize := fun _ => .text "earlier work" }

/-- A first goal, two answers with a result, a later request, and room for three messages. -/
def sampleInput : ContextInput :=
  { request :=
      { sessionId := "s", turnId := "t", step := 1, tools := [],
        messages := [.user "goal", .assistant "look" [⟨"c1", "read", ""⟩],
          .tool "c1" "read" (.ok "text"), .assistant "seen" [], .user "go on"] },
    budget := { capacity := some 3, reserveOutput := some 0, reserveTools := none,
                safetyMargin := none },
    keepRecentGroups := some (some 0), protectedHistoryRanges := [], mode := none,
    baseReceipt := none }

theorem builds_keep_required_sample :
    ∃ kept built prepared units,
      build sampleEncoding sampleOptions sampleInput sampleWorld none = (kept, .ok built) ∧
      BuildOk sampleEncoding sampleOptions sampleInput sampleWorld kept prepared units built ∧
      built.request.messages = [.user "goal", .user "earlier work", .user "go on"] := by
  have hok : ((build sampleEncoding sampleOptions sampleInput sampleWorld none).2.toOption.map
      fun built => built.request.messages) =
        some [.user "goal", .user "earlier work", .user "go on"] := by decide +kernel
  cases hbuild : build sampleEncoding sampleOptions sampleInput sampleWorld none with
  | mk kept outcome =>
    rw [hbuild] at hok
    cases outcome with
    | error refused => cases hok
    | ok built =>
      obtain ⟨prepared, units, hbuilt, -⟩ :=
        (builds_keep_required sampleEncoding sampleOptions [] sampleInput sampleWorld).1
          kept built hbuild
      exact ⟨kept, built, prepared, units, rfl, hbuilt, Option.some.inj hok⟩

end Sample

end Context
