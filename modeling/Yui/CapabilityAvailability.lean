import Mathlib.Logic.Relation
import Yui.CapabilityRegistry
import Yui.Checked
import Yui.InstanceHost
import Yui.PathSearch

/-!
# Availability of capabilities

`kernel/capabilityRegistry.ts`: an execution selects among the authorized descriptors whose required ones are
available in turn, and a set of descriptors is checked against them before it is published. The schema and surface
checks of a descriptor are parameters, and so is the authority, which is bound to one context.
-/

open JsText Checked

/-- It throws for an identity that `acquire` refuses too: no such provider has a descriptor that is not marked. -/
def InstanceHost.isAvailable {δ : Type} (host : InstanceHost δ) (ref : ImplementationRef) : Except String Bool := do
  let key ← implementationKey ref
  match host.find key with
  | none => .ok false
  | some inst => .ok (!host.closed && !inst.detached)

def InstanceHost.hosts {δ : Type} (host : InstanceHost δ) (ref : ImplementationRef) : Bool :=
  host.isAvailable ref = .ok true

theorem InstanceHost.hosts_of_acquire {δ : Type} {host next : InstanceHost δ} {ref : ImplementationRef}
    (h : host.acquire ref = .ok next) : host.hosts ref = true := by
  obtain ⟨key, hkey, h⟩ := Checked.bind_ok h
  refine decide_eq_true ?_
  rw [InstanceHost.isAvailable, hkey, Checked.ok_bind]
  cases hfind : host.find key with
  | none => simp [hfind] at h
  | some inst =>
    simp only [hfind] at h
    split_ifs at h with hgone
    rw [not_or, Bool.not_eq_true, Bool.not_eq_true] at hgone
    simp [hgone.1, hgone.2]

namespace Capability

variable {σ : Type} [DecidableEq σ]

/-- `#unavailable`: why the entry cannot be called, searching down the path of the entries above it. -/
def unavailableAlong (isAvailable : ImplementationRef → Bool) (entries visiting : List (CapabilityDescriptor σ))
    (entry : CapabilityDescriptor σ) : Option String :=
  match entry.unavailable with
  | some reason => some reason
  | none =>
    if isAvailable entry.provider = false then some "Provider implementation is not available."
    else if entry ∈ visiting then some "Required capability dependency cycle."
    else
      let missing := entry.required.filter fun dependency => !entries.attach.any fun candidate =>
        candidate.1.name = dependency.1 ∧ candidate.1.contractVersion = dependency.2 ∧
          unavailableAlong isAvailable entries (visiting ++ [entry]) candidate.1 = none
      if missing = [] then none
      else some ("Missing available required capabilities: " ++
        ", ".intercalate (missing.map fun dependency => dependency.1 ++ "@" ++ dependency.2) ++ ".")
termination_by PathSearch.remaining entries visiting entry
decreasing_by exact PathSearch.remaining_lt ‹_› candidate.2

def graph (isAvailable : ImplementationRef → Bool) (entries : List (CapabilityDescriptor σ)) :
    PathSearch.Graph (CapabilityDescriptor σ) (String × String) where
  nodes := entries
  own entry := entry.unavailable = none ∧ isAvailable entry.provider = true
  needs entry := entry.required
  serves dependency candidate := candidate.name = dependency.1 ∧ candidate.contractVersion = dependency.2

theorem unavailableAlong_eq_none_iff (isAvailable : ImplementationRef → Bool)
    (entries visiting : List (CapabilityDescriptor σ)) (entry : CapabilityDescriptor σ) :
    unavailableAlong isAvailable entries visiting entry = none ↔
      (entry.unavailable = none ∧ isAvailable entry.provider = true) ∧ entry ∉ visiting ∧
        ∀ dependency ∈ entry.required, ∃ candidate ∈ entries,
          (candidate.name = dependency.1 ∧ candidate.contractVersion = dependency.2) ∧
            unavailableAlong isAvailable entries (visiting ++ [entry]) candidate = none := by
  rw [unavailableAlong]
  cases hmark : entry.unavailable with
  | some reason => simp
  | none =>
    by_cases hprovider : isAvailable entry.provider = true
    · by_cases hcycle : entry ∈ visiting
      · simp [hprovider, hcycle]
      · simp [hprovider, hcycle, and_assoc]
    · simp [hprovider]

theorem answers (isAvailable : ImplementationRef → Bool) (entries : List (CapabilityDescriptor σ)) :
    (graph isAvailable entries).Answers
      fun visiting entry => unavailableAlong isAvailable entries visiting entry = none :=
  ⟨unavailableAlong_eq_none_iff isAvailable entries⟩

variable {entry : CapabilityDescriptor σ}

theorem unavailable_eq_unavailableAlong {ν : Type} (env : CallEnv σ ν) (entries : List (CapabilityDescriptor σ))
    (fuel : ℕ) {visiting : List (CapabilityDescriptor σ)} (hnodup : visiting.Nodup)
    (hsubset : visiting ⊆ entries) (hentry : entry ∈ entries) (hfuel : entries.length < visiting.length + fuel) :
    unavailable env entries fuel visiting entry = unavailableAlong env.isAvailable entries visiting entry := by
  induction fuel generalizing visiting entry with
  | zero =>
    have hle := (hnodup.subperm hsubset).length_le
    omega
  | succ fuel ih =>
    have hbelow : entry ∉ visiting → ∀ candidate ∈ entries,
        unavailable env entries fuel (visiting ++ [entry]) candidate =
          unavailableAlong env.isAvailable entries (visiting ++ [entry]) candidate := by
      intro hcycle candidate hcandidate
      have hnext : (visiting ++ [entry]).Nodup :=
        List.nodup_append.2 ⟨hnodup, List.nodup_singleton entry, fun above habove node hnode heq =>
          hcycle (List.mem_singleton.1 hnode ▸ heq ▸ habove)⟩
      have hinside : visiting ++ [entry] ⊆ entries :=
        List.append_subset.2 ⟨hsubset, List.cons_subset.2 ⟨hentry, List.nil_subset _⟩⟩
      refine ih hnext hinside hcandidate ?_
      rw [List.length_append, List.length_singleton]
      omega
    rw [unavailable, unavailableAlong]
    cases entry.unavailable with
    | some reason => rfl
    | none =>
      by_cases hcycle : entry ∈ visiting
      · simp only [if_pos hcycle]
      · have hserved : ∀ dependency : String × String,
            (entries.any fun candidate => decide (candidate.name = dependency.1 ∧
              candidate.contractVersion = dependency.2 ∧
                unavailable env entries fuel (visiting ++ [entry]) candidate = none)) =
            entries.attach.any fun candidate => decide (candidate.1.name = dependency.1 ∧
              candidate.1.contractVersion = dependency.2 ∧
                unavailableAlong env.isAvailable entries (visiting ++ [entry]) candidate.1 = none) := by
          intro dependency
          rw [Bool.eq_iff_iff, List.any_eq_true, List.any_eq_true]
          simp only [decide_eq_true_eq, List.mem_attach, true_and, Subtype.exists, exists_prop]
          refine exists_congr fun candidate => and_congr_right fun hcandidate => ?_
          rw [hbelow hcycle candidate hcandidate]
        simp only [if_neg hcycle, hserved]

/-- Authority bound to one context: `authorize` without and with a descriptor. -/
structure Authority (σ : Type) where
  visibility : Except String CapabilityVisibility
  authorize : CapabilityDescriptor σ → Except String Unit

/-- `#authorized` -/
def authorizedIn (authority : Authority σ) (visibility : CapabilityVisibility)
    (descriptors : List (CapabilityDescriptor σ)) : List (CapabilityDescriptor σ) :=
  (descriptors.filter fun entry => visible entry.scope visibility).filter fun entry =>
    authority.authorize entry = .ok ()

/-- A descriptor with what `#prepare` checks beside it. -/
structure Contribution (σ φ : Type) where
  descriptor : CapabilityDescriptor σ
  source : String
  surfaces : φ

/-- `checkCapabilitySchema` and `checkSurfaceDescriptors` -/
structure DescriptorChecks (σ φ : Type) where
  schema : σ → Except String Unit
  surfaces : Contribution σ φ → Except String Unit

structure Registry (σ : Type) where
  descriptors : List (CapabilityDescriptor σ)
  coreProviders : List String

def isNameSegment : List Char → Bool
  | [] => false
  | first :: rest =>
    ('a' ≤ first && first ≤ 'z') && rest.all fun c => ('a' ≤ c && c ≤ 'z') || ('0' ≤ c && c ≤ '9') || c = '-'

/-- `/^[a-z][a-z0-9-]*(?:\.[a-z][a-z0-9-]*)+$/u` -/
def isName (name : String) : Bool :=
  2 ≤ (name.toList.splitOn '.').length && (name.toList.splitOn '.').all isNameSegment

def reserved : List String :=
  ["yui", "task", "context", "config", "job", "resource", "plugin", "runtime", "grant", "capability", "artifact",
    "environment", "project"]

def scopeIsBlank : CapabilityScope → Bool
  | .global => false
  | .project id => trim id = ""
  | .task id => trim id = ""

variable {φ : Type} (checks : DescriptorChecks σ φ)

def prepareEntry (core : Bool) (provider : ImplementationRef) (names : List String) (entry : Contribution σ φ) :
    Except String Unit := do
  let descriptor := entry.descriptor
  refuse (isName descriptor.name = false ∨ trim descriptor.contractVersion = "" ∨ trim entry.source = "" ∨
    ∃ permission ∈ descriptor.requiredPermissions, trim permission = "") "Invalid capability descriptor."
  refuse (core = false ∧ String.ofList ((descriptor.name.toList.splitOn '.').headD []) ∈ reserved)
    "Core capability namespace is reserved."
  refuse (scopeIsBlank descriptor.scope = true) "Invalid capability scope."
  refuse (descriptor.provider ≠ provider) "Publish one complete Provider generation at a time."
  refuse (descriptor.name ++ "@" ++ descriptor.contractVersion ∈ names)
    s!"Duplicate capability: {descriptor.name}@{descriptor.contractVersion}."
  checks.schema descriptor.inputSchema
  checks.schema descriptor.outputSchema
  checks.surfaces entry
  refuse (∃ dependency ∈ descriptor.required, trim dependency.1 = "" ∨ trim dependency.2 = "")
    "Invalid required capability."

def prepareEntries (core : Bool) (provider : ImplementationRef) :
    List String → List (Contribution σ φ) → Except String Unit
  | _, [] => .ok ()
  | names, entry :: entries => do
    prepareEntry checks core provider names entry
    prepareEntries core provider (names ++ [entry.descriptor.name ++ "@" ++ entry.descriptor.contractVersion]) entries

/-- `#prepare`, with the provider of the set. -/
def prepare (registry : Registry σ) (core : Bool) (first : Contribution σ φ) (entries : List (Contribution σ φ)) :
    Except String (List (CapabilityDescriptor σ)) := do
  let provider := first.descriptor.provider
  refuse (core = false ∧ provider.id ∈ registry.coreProviders) "Core Provider identity is reserved."
  prepareEntries checks core provider [] (first :: entries)
  .ok ((first :: entries).map (·.descriptor))

/-- What serves a requirement while a registration is checked: the set itself counts as attached. -/
def matching (isAvailable : ImplementationRef → Bool) (prepared available : List (CapabilityDescriptor σ))
    (dependency : String × String) : List (CapabilityDescriptor σ) :=
  available.filter fun candidate =>
    candidate.name = dependency.1 ∧ candidate.contractVersion = dependency.2 ∧ candidate.unavailable = none ∧
      (candidate ∈ prepared ∨ isAvailable candidate.provider = true)

/-- The `check` of `checkRegistration`. -/
def checkAlong (isAvailable : ImplementationRef → Bool) (authority : Authority σ)
    (prepared available path : List (CapabilityDescriptor σ)) (entry : CapabilityDescriptor σ) :
    Except String Unit := do
  authority.authorize entry
  if entry ∈ path then .error "Required capability dependency cycle."
  else
    entry.required.forM fun dependency =>
      match _h : matching isAvailable prepared available dependency with
      | [selected] => checkAlong isAvailable authority prepared available (path ++ [entry]) selected
      | _ => .error s!"Required capability is missing or ambiguous: {dependency.1}."
termination_by PathSearch.remaining available path entry
decreasing_by
  refine PathSearch.remaining_lt ‹_› ?_
  have hmem : selected ∈ matching isAvailable prepared available dependency := _h ▸ List.mem_singleton_self selected
  exact (List.mem_filter.1 hmem).1

/-- The descriptors of a context when those of the set replace the ones of its provider. -/
def offered (registry : Registry σ) (authority : Authority σ) (visibility : CapabilityVisibility) (providerId : String)
    (prepared : List (CapabilityDescriptor σ)) : List (CapabilityDescriptor σ) :=
  (authorizedIn authority visibility registry.descriptors).filter (fun entry => entry.provider.id ≠ providerId) ++
    prepared

def checkRegistration (registry : Registry σ) (isAvailable : ImplementationRef → Bool) (authority : Authority σ) :
    List (Contribution σ φ) → Except String Unit
  | [] => .error "Plugin must contribute capabilities."
  | first :: entries => do
    let prepared ← prepare checks registry false first entries
    let visibility ← authority.visibility
    let available := offered registry authority visibility first.descriptor.provider.id prepared
    prepared.forM (checkAlong isAvailable authority prepared available [])

/-- `#publish`: `implements` says that the value of a handle has an `invoke` function. The handle is released again. -/
def publish {δ : Type} (registry : Registry σ) (host : InstanceHost δ) (implements : ImplementationRef → Bool)
    (core : Bool) : List (Contribution σ φ) → Except String (Registry σ)
  | [] => .ok registry
  | first :: entries => do
    let prepared ← prepare checks registry core first entries
    let provider := first.descriptor.provider
    if ∃ entry ∈ prepared, entry.unavailable = none ∨ entry.unavailable = some "" then
      let _ ← host.acquire provider
      refuse (implements provider = false) "Provider has no capability implementation."
    .ok { registry with
      descriptors := registry.descriptors.filter (fun entry => entry.provider.id ≠ provider.id) ++ prepared }

theorem forM_ok_iff {α : Type} {check : α → Except String Unit} {values : List α} :
    values.forM check = .ok () ↔ ∀ value ∈ values, check value = .ok () := by
  induction values with
  | nil => simp [pure, Except.pure]
  | cons value values ih =>
    change (check value >>= fun _ => values.forM check) = .ok () ↔ _
    rw [seq_iff, ih, List.forall_mem_cons]

theorem checkAlong_ok {isAvailable : ImplementationRef → Bool} {authority : Authority σ}
    {prepared available path : List (CapabilityDescriptor σ)}
    (h : checkAlong isAvailable authority prepared available path entry = .ok ()) :
    authority.authorize entry = .ok () ∧ entry ∉ path ∧ ∀ dependency ∈ entry.required, ∃ selected,
      matching isAvailable prepared available dependency = [selected] ∧
        checkAlong isAvailable authority prepared available (path ++ [entry]) selected = .ok () := by
  rw [checkAlong, seq_iff] at h
  obtain ⟨hauthorize, h⟩ := h
  split_ifs at h with hpath
  refine ⟨hauthorize, hpath, fun dependency hdependency => ?_⟩
  have hmatch := forM_ok_iff.1 h dependency hdependency
  split at hmatch
  · exact ⟨_, ‹_›, hmatch⟩
  · cases hmatch

variable {core : Bool} {entries : List (Contribution σ φ)}

omit [DecidableEq σ] in
theorem prepareEntries_provider {provider : ImplementationRef} {names : List String}
    (h : prepareEntries checks core provider names entries = .ok ()) :
    ∀ entry ∈ entries, entry.descriptor.provider = provider := by
  induction entries generalizing names with
  | nil => exact fun entry hentry => absurd hentry List.not_mem_nil
  | cons entry entries ih =>
    rw [prepareEntries, seq_iff] at h
    obtain ⟨hentry, hrest⟩ := h
    have hprovider : entry.descriptor.provider = provider := by
      iterate 3 obtain ⟨-, hentry⟩ := seq_iff.1 hentry
      exact not_not.1 (refuse_ok (seq_iff.1 hentry).1)
    exact List.forall_mem_cons.2 ⟨hprovider, ih hrest⟩

omit [DecidableEq σ] in
theorem prepare_ok {registry : Registry σ} {first : Contribution σ φ} {prepared : List (CapabilityDescriptor σ)}
    (h : prepare checks registry core first entries = .ok prepared) :
    prepared = (first :: entries).map (·.descriptor) ∧
      ∀ entry ∈ prepared, entry.provider = first.descriptor.provider := by
  obtain ⟨-, h⟩ := seq_iff.1 h
  obtain ⟨hentries, h⟩ := seq_iff.1 h
  obtain rfl := Except.ok.inj h
  refine ⟨rfl, fun entry hentry => ?_⟩
  obtain ⟨contribution, hcontribution, rfl⟩ := List.mem_map.1 hentry
  exact prepareEntries_provider checks hentries contribution hcontribution

/-- A requirement of the first descriptor is served by the second. -/
def Requires (isAvailable : ImplementationRef → Bool) (prepared available : List (CapabilityDescriptor σ))
    (entry candidate : CapabilityDescriptor σ) : Prop :=
  ∃ dependency ∈ entry.required, candidate ∈ matching isAvailable prepared available dependency

theorem reaches_available {isAvailable : ImplementationRef → Bool}
    {prepared available : List (CapabilityDescriptor σ)} {entry other : CapabilityDescriptor σ}
    (hentry : entry ∈ available) (h : Relation.ReflTransGen (Requires isAvailable prepared available) entry other) :
    other ∈ available := by
  induction h with
  | refl => exact hentry
  | tail _ hrequires _ =>
    obtain ⟨dependency, -, hmatching⟩ := hrequires
    exact (List.mem_filter.1 hmatching).1

/-- The descriptors as a check sees them and as a call finds them after the publication of the checked set. -/
structure Published (authority : Authority σ) (visibility : CapabilityVisibility)
    (checked hosted : ImplementationRef → Bool) (prepared available after : List (CapabilityDescriptor σ)) : Prop where
  inside : ∀ entry ∈ after, entry ∈ available ∧ visible entry.scope visibility = true
  kept : ∀ entry ∈ available, entry ∉ prepared → entry ∈ after ∧ hosted entry.provider = checked entry.provider
  own : ∀ entry ∈ prepared, visible entry.scope visibility = true → authority.authorize entry = .ok () → entry ∈ after
  acquired : ∀ entry ∈ prepared, entry.unavailable = none → hosted entry.provider = true

variable {authority : Authority σ} {visibility : CapabilityVisibility} {checked hosted : ImplementationRef → Bool}
  {prepared available after : List (CapabilityDescriptor σ)}

theorem Published.available_iff (hpublished : Published authority visibility checked hosted prepared available after)
    {path : List (CapabilityDescriptor σ)} (hentry : entry ∈ available)
    (hmark : entry.unavailable = none) (hhosted : hosted entry.provider = true)
    (h : checkAlong checked authority prepared available path entry = .ok ()) :
    (entry ∈ after ∧ entry ∈ (graph hosted after).solution) ↔
      ∀ other, Relation.ReflTransGen (Requires checked prepared available) entry other →
        visible other.scope visibility = true := by
  induction hsize : PathSearch.remaining available path entry using Nat.strong_induction_on
    generalizing path entry with
  | h size ih =>
    obtain ⟨hauthorize, hpath, hserved⟩ := checkAlong_ok h
    have hbelow : ∀ dependency ∈ entry.required, ∃ selected,
        matching checked prepared available dependency = [selected] ∧
        ((selected ∈ after ∧ selected ∈ (graph hosted after).solution) ↔
          ∀ other, Relation.ReflTransGen (Requires checked prepared available) selected other →
            visible other.scope visibility = true) := by
      intro dependency hdependency
      obtain ⟨selected, hmatching, hcheck⟩ := hserved dependency hdependency
      have hselected : selected ∈ matching checked prepared available dependency :=
        hmatching ▸ List.mem_singleton_self selected
      obtain ⟨hmem, hfields⟩ := List.mem_filter.1 hselected
      obtain ⟨-, -, hunmarked, hreached⟩ := of_decide_eq_true hfields
      have hprovider : hosted selected.provider = true := by
        by_cases hprepared : selected ∈ prepared
        · exact hpublished.acquired selected hprepared hunmarked
        · rw [(hpublished.kept selected hmem hprepared).2]
          exact hreached.resolve_left hprepared
      exact ⟨selected, hmatching,
        ih _ (hsize ▸ PathSearch.remaining_lt hpath hmem) hmem hunmarked hprovider hcheck rfl⟩
    constructor
    · rintro ⟨hafter, hsolution⟩ other hreach
      obtain rfl | ⟨next, ⟨dependency, hdependency, hnext⟩, hrest⟩ := hreach.cases_head
      · exact (hpublished.inside _ hafter).2
      · obtain ⟨selected, hmatching, hiff⟩ := hbelow dependency hdependency
        rw [hmatching, List.mem_singleton] at hnext
        obtain ⟨-, hneeds⟩ := (graph hosted after).mem_solution.1 hsolution
        obtain ⟨server, hserver, ⟨hname, hversion⟩, hin⟩ := hneeds dependency hdependency
        obtain ⟨⟨hunmarked, hprovider⟩, -⟩ := (graph hosted after).mem_solution.1 hin
        have hmatched : server ∈ matching checked prepared available dependency := by
          refine List.mem_filter.2 ⟨(hpublished.inside server hserver).1,
            decide_eq_true ⟨hname, hversion, hunmarked, ?_⟩⟩
          by_cases hprepared : server ∈ prepared
          · exact .inl hprepared
          · rw [← (hpublished.kept server (hpublished.inside server hserver).1 hprepared).2]
            exact .inr hprovider
        rw [hmatching, List.mem_singleton] at hmatched
        subst hmatched hnext
        exact hiff.1 ⟨hserver, hin⟩ other hrest
    · intro hvisible
      have hafter : entry ∈ after := by
        by_cases hprepared : entry ∈ prepared
        · exact hpublished.own entry hprepared (hvisible entry .refl) hauthorize
        · exact (hpublished.kept entry hentry hprepared).1
      refine ⟨hafter, (graph hosted after).mem_solution.2 ⟨⟨hmark, hhosted⟩, fun dependency hdependency => ?_⟩⟩
      obtain ⟨selected, hmatching, hiff⟩ := hbelow dependency hdependency
      have hselected : selected ∈ matching checked prepared available dependency :=
        hmatching ▸ List.mem_singleton_self selected
      obtain ⟨-, hfields⟩ := List.mem_filter.1 hselected
      obtain ⟨hname, hversion, -⟩ := of_decide_eq_true hfields
      obtain ⟨hin, hsolution⟩ := hiff.2 fun other hreach =>
        hvisible other (.head ⟨dependency, hdependency, hselected⟩ hreach)
      exact ⟨selected, hin, ⟨hname, hversion⟩, hsolution⟩

omit [DecidableEq σ] in
theorem mem_authorizedIn {authority : Authority σ} {visibility : CapabilityVisibility}
    {descriptors : List (CapabilityDescriptor σ)} : entry ∈ authorizedIn authority visibility descriptors ↔
      entry ∈ descriptors ∧ visible entry.scope visibility = true ∧ authority.authorize entry = .ok () := by
  rw [authorizedIn, List.mem_filter, List.mem_filter, decide_eq_true_eq, and_assoc]

omit [DecidableEq σ] in
theorem published {registry next : Registry σ} {provider : ImplementationRef} (hnext : next.descriptors =
      registry.descriptors.filter (fun entry => entry.provider.id ≠ provider.id) ++ prepared)
    (hhost : ∀ ref : ImplementationRef, ref.id ≠ provider.id → hosted ref = checked ref)
    (hacquired : ∀ entry ∈ prepared, entry.unavailable = none → hosted entry.provider = true) :
    Published authority visibility checked hosted prepared (offered registry authority visibility provider.id prepared)
      (authorizedIn authority visibility next.descriptors) where
  inside := by
    intro entry hentry
    obtain ⟨hmem, hvisible, hauthorize⟩ := mem_authorizedIn.1 hentry
    refine ⟨?_, hvisible⟩
    rw [hnext] at hmem
    obtain hold | hnew := List.mem_append.1 hmem
    · obtain ⟨hregistered, hother⟩ := List.mem_filter.1 hold
      exact List.mem_append_left _
        (List.mem_filter.2 ⟨mem_authorizedIn.2 ⟨hregistered, hvisible, hauthorize⟩, hother⟩)
    · exact List.mem_append_right _ hnew
  kept := by
    intro entry hentry hunprepared
    obtain ⟨hbefore, hother⟩ := List.mem_filter.1 ((List.mem_append.1 hentry).resolve_right hunprepared)
    obtain ⟨hmem, hrest⟩ := mem_authorizedIn.1 hbefore
    refine ⟨mem_authorizedIn.2 ⟨?_, hrest⟩, hhost _ (of_decide_eq_true hother)⟩
    rw [hnext]
    exact List.mem_append_left _ (List.mem_filter.2 ⟨hmem, hother⟩)
  own := by
    intro entry hentry hvisible hauthorize
    refine mem_authorizedIn.2 ⟨?_, hvisible, hauthorize⟩
    rw [hnext]
    exact List.mem_append_right _ hentry
  acquired := hacquired

omit [DecidableEq σ] in
theorem publish_ok {δ : Type} {registry next : Registry σ} {host : InstanceHost δ}
    {implements : ImplementationRef → Bool} {first : Contribution σ φ}
    (h : publish checks registry host implements core (first :: entries) = .ok next) :
    next.descriptors = registry.descriptors.filter
        (fun entry => entry.provider.id ≠ first.descriptor.provider.id) ++ (first :: entries).map (·.descriptor) ∧
      ∀ entry ∈ (first :: entries).map (·.descriptor), entry.unavailable = none →
        host.hosts entry.provider = true := by
  obtain ⟨prepared, hprepare, h⟩ := bind_ok h
  obtain ⟨rfl, hprovider⟩ := prepare_ok checks hprepare
  dsimp only at h
  split_ifs at h with hcalled
  · obtain ⟨handle, hacquire, h⟩ := bind_ok h
    obtain ⟨-, h⟩ := seq_iff.1 h
    obtain rfl := Except.ok.inj h
    refine ⟨rfl, fun entry hentry hmark => ?_⟩
    rw [hprovider entry hentry]
    exact InstanceHost.hosts_of_acquire hacquire
  · obtain rfl := Except.ok.inj h
    exact ⟨rfl, fun entry hentry hmark => absurd ⟨entry, hentry, .inl hmark⟩ hcalled⟩

theorem availability_least_fixpoint :
    (∀ (isAvailable : ImplementationRef → Bool) (entries : List (CapabilityDescriptor σ))
      (entry : CapabilityDescriptor σ),
      unavailableAlong isAvailable entries [] entry = none ↔ entry ∈ (graph isAvailable entries).solution) ∧
    ∀ {δ : Type} (registry next : Registry σ) (checked host : InstanceHost δ) (implements : ImplementationRef → Bool)
      (authority : Authority σ) (visibility : CapabilityVisibility) (first : Contribution σ φ)
      (entries : List (Contribution σ φ)),
      checkRegistration checks registry checked.hosts authority (first :: entries) = .ok () →
      publish checks registry host implements false (first :: entries) = .ok next →
      authority.visibility = .ok visibility →
      (∀ ref : ImplementationRef, ref.id ≠ first.descriptor.provider.id → host.hosts ref = checked.hosts ref) →
      ∀ entry ∈ (first :: entries).map (·.descriptor), (entry ∈ authorizedIn authority visibility next.descriptors ∧
          unavailableAlong host.hosts (authorizedIn authority visibility next.descriptors) [] entry = none) ↔
        entry.unavailable = none ∧ ∀ other, Relation.ReflTransGen
          (Requires checked.hosts ((first :: entries).map (·.descriptor))
            (offered registry authority visibility first.descriptor.provider.id
              ((first :: entries).map (·.descriptor)))) entry other → visible other.scope visibility = true := by
  have hleast : ∀ (isAvailable : ImplementationRef → Bool) (entries : List (CapabilityDescriptor σ))
      (entry : CapabilityDescriptor σ),
      unavailableAlong isAvailable entries [] entry = none ↔ entry ∈ (graph isAvailable entries).solution :=
    fun isAvailable entries => (answers isAvailable entries).iff_solution
  refine ⟨hleast, ?_⟩
  intro δ registry next checked host implements authority visibility first entries hcheck hpublish hvisibility hhost
    entry hentry
  obtain ⟨hnext, hacquired⟩ := publish_ok checks hpublish
  obtain ⟨prepared, hprepare, hcheck⟩ := bind_ok hcheck
  obtain ⟨rfl, -⟩ := prepare_ok checks hprepare
  rw [hvisibility, ok_bind] at hcheck
  have haccepted := forM_ok_iff.1 hcheck entry hentry
  rw [hleast]
  by_cases hmark : entry.unavailable = none
  · rw [and_iff_right hmark]
    exact (published hnext hhost hacquired).available_iff (List.mem_append_right _ hentry) hmark
      (hacquired entry hentry hmark) haccepted
  · refine ⟨fun hfound => ?_, fun hfound => absurd hfound.1 hmark⟩
    exact absurd ((graph _ _).mem_solution.1 hfound.2).1.1 hmark

/-- The search of the call path has the same answer for an authorized entry. -/
theorem unavailable_none_iff {ν : Type} (env : CallEnv σ ν) (entries : List (CapabilityDescriptor σ)) {fuel : ℕ}
    (hentry : entry ∈ entries) (hfuel : entries.length < fuel) :
    unavailable env entries fuel [] entry = none ↔ entry ∈ (graph env.isAvailable entries).solution := by
  rw [unavailable_eq_unavailableAlong env entries fuel List.nodup_nil (List.nil_subset _) hentry (by simpa using hfuel)]
  exact (answers env.isAvailable entries).iff_solution entry

/-- More providers and more authorized entries make nothing unavailable. -/
theorem availability_mono {before after : ImplementationRef → Bool} {entries more : List (CapabilityDescriptor σ)}
    (hproviders : ∀ ref, before ref = true → after ref = true) (hentries : entries ⊆ more)
    (h : unavailableAlong before entries [] entry = none) : unavailableAlong after more [] entry = none := by
  have hle : (graph before entries).solution ≤ (graph after more).solution := by
    refine (graph before entries).derive.lfp_le ?_
    rintro node ⟨hown, hneeds⟩
    refine (graph after more).mem_solution.2 ⟨⟨hown.1, hproviders _ hown.2⟩, fun need hneed => ?_⟩
    obtain ⟨other, hother, hserved⟩ := hneeds need hneed
    exact ⟨other, hentries hother, hserved⟩
  exact ((answers after more).iff_solution entry).2 (hle (((answers before entries).iff_solution entry).1 h))

/-- A capability of a Task's plugin. -/
def sampleContribution (name : String) (required : List (String × String)) (unavailable : Option String) :
    Contribution Unit Unit where
  descriptor :=
    { name, contractVersion := "1", inputSchema := (), outputSchema := (), effect := .query,
      requiredPermissions := [], provider := ⟨"demo", "1"⟩, scope := .task "task-1", required, unavailable }
  source := "plugin"
  surfaces := ()

def sampleAuthority : Authority Unit := ⟨.ok ⟨["task-1"], []⟩, fun _ => .ok ()⟩

def sampleChecks : DescriptorChecks Unit Unit := ⟨fun _ => .ok (), fun _ => .ok ()⟩

/-- The provider of the sample is attached. -/
def sampleHost : InstanceHost Unit :=
  ⟨false, [⟨⟨"demo", "1"⟩, 0, false, [], [], none, false, .pending, [], [], []⟩], [], []⟩

def sampleSet : List (Contribution Unit Unit) :=
  [sampleContribution "demo.send" [("demo.note", "1")] none, sampleContribution "demo.note" [] none]

/-- `demo.send` is available through `demo.note` while only `demo` is attached, and then with every provider. -/
theorem availability_mono_send :
    unavailableAlong (fun _ => true) ((sampleContribution "demo.list" [] none).descriptor ::
        sampleSet.map (·.descriptor)) []
      (sampleContribution "demo.send" [("demo.note", "1")] none).descriptor = none := by
  have hbefore : unavailableAlong (fun ref => decide (ref.id = "demo")) (sampleSet.map (·.descriptor)) []
      (sampleContribution "demo.send" [("demo.note", "1")] none).descriptor = none := by
    refine (unavailableAlong_eq_none_iff _ _ _ _).2 ⟨⟨rfl, rfl⟩, List.not_mem_nil, fun dependency hdependency => ?_⟩
    obtain rfl := List.mem_singleton.1 hdependency
    have hnote : (sampleContribution "demo.note" [] none).descriptor ∈ sampleSet.map (·.descriptor) := by decide
    refine ⟨_, hnote, ⟨rfl, rfl⟩, (unavailableAlong_eq_none_iff _ _ _ _).2 ⟨⟨rfl, rfl⟩, by decide, ?_⟩⟩
    exact fun _ hneed => absurd hneed List.not_mem_nil
  exact availability_mono (fun _ _ => rfl) (List.subset_cons_self _ _) hbefore

theorem sample_matching : matching sampleHost.hosts (sampleSet.map (·.descriptor))
    (sampleSet.map (·.descriptor)) ("demo.note", "1") =
      [(sampleContribution "demo.note" [] none).descriptor] := by
  decide +kernel

theorem sample_prepared :
    prepare sampleChecks ⟨[], []⟩ false (sampleContribution "demo.send" [("demo.note", "1")] none)
      [sampleContribution "demo.note" [] none] = .ok (sampleSet.map (·.descriptor)) := by
  decide +kernel

theorem sample_accepted :
    checkRegistration sampleChecks ⟨[], []⟩ sampleHost.hosts sampleAuthority sampleSet = .ok () := by
  have hnote : ∀ path, (sampleContribution "demo.note" [] none).descriptor ∉ path →
      checkAlong sampleHost.hosts sampleAuthority (sampleSet.map (·.descriptor))
        (sampleSet.map (·.descriptor)) path (sampleContribution "demo.note" [] none).descriptor = .ok () := by
    intro path hpath
    rw [checkAlong, if_neg hpath]
    rfl
  have hsend : checkAlong sampleHost.hosts sampleAuthority (sampleSet.map (·.descriptor))
      (sampleSet.map (·.descriptor)) [] (sampleContribution "demo.send" [("demo.note", "1")] none).descriptor =
        .ok () := by
    rw [checkAlong, if_neg List.not_mem_nil]
    refine seq_iff.2 ⟨rfl, forM_ok_iff.2 fun dependency hdependency => ?_⟩
    obtain rfl := List.mem_singleton.1 hdependency
    split
    · rename_i selected hmatching
      rw [sample_matching] at hmatching
      obtain rfl := List.head_eq_of_cons_eq hmatching
      exact hnote _ (by decide)
    · rename_i hmany
      exact absurd sample_matching (hmany _)
  rw [sampleSet, checkRegistration, sample_prepared]
  exact forM_ok_iff.2 (List.forall_mem_cons.2 ⟨hsend, List.forall_mem_singleton.2 (hnote [] List.not_mem_nil)⟩)

theorem sample_published : publish sampleChecks ⟨[], []⟩ sampleHost (fun _ => true) false sampleSet =
    .ok ⟨sampleSet.map (·.descriptor), []⟩ := by
  rw [sampleSet, publish, sample_prepared, ok_bind, if_pos ⟨_, List.mem_cons_self, .inl rfl⟩]
  rfl

/-- The two descriptors of the set are available, the first through the second. -/
theorem availability_least_fixpoint_sample : ∀ entry ∈ sampleSet.map (·.descriptor),
    unavailableAlong sampleHost.hosts (authorizedIn sampleAuthority ⟨["task-1"], []⟩
      (sampleSet.map (·.descriptor))) [] entry = none := by
  intro entry hentry
  have hset : ∀ other ∈ sampleSet.map (·.descriptor),
      other.unavailable = none ∧ visible other.scope ⟨["task-1"], []⟩ = true := by decide
  refine (((availability_least_fixpoint sampleChecks).2 ⟨[], []⟩ _ sampleHost sampleHost
    (fun _ => true) sampleAuthority ⟨["task-1"], []⟩ _ _ sample_accepted sample_published rfl
    (fun _ _ => rfl) entry hentry).2 ⟨(hset entry hentry).1, fun other hreach => (hset other ?_).2⟩).2
  have hoffered : other ∈ offered ⟨[], []⟩ sampleAuthority ⟨["task-1"], []⟩ "demo" (sampleSet.map (·.descriptor)) :=
    reaches_available (List.mem_append_right _ hentry) hreach
  exact (List.mem_append.1 hoffered).resolve_left List.not_mem_nil

/-- A descriptor marked unavailable is accepted and published. -/
theorem marked_unavailable : ¬ ∀ (σ φ δ : Type) (_ : DecidableEq σ) (checks : DescriptorChecks σ φ)
    (registry next : Registry σ) (host : InstanceHost δ) (implements : ImplementationRef → Bool)
    (authority : Authority σ) (visibility : CapabilityVisibility) (contributions : List (Contribution σ φ)),
    checkRegistration checks registry host.hosts authority contributions = .ok () →
    publish checks registry host implements false contributions = .ok next → authority.visibility = .ok visibility →
    ∀ contribution ∈ contributions, unavailableAlong host.hosts
      (authorizedIn authority visibility next.descriptors) [] contribution.descriptor = none := by
  intro h
  have hmarked : checkRegistration sampleChecks ⟨[], []⟩ sampleHost.hosts sampleAuthority
      [sampleContribution "demo.note" [] (some "Disabled.")] = .ok () := by
    have hprepare : prepare sampleChecks ⟨[], []⟩ false (sampleContribution "demo.note" [] (some "Disabled.")) [] =
        .ok [(sampleContribution "demo.note" [] (some "Disabled.")).descriptor] := rfl
    rw [checkRegistration, hprepare]
    refine forM_ok_iff.2 (List.forall_mem_singleton.2 ?_)
    rw [checkAlong, if_neg List.not_mem_nil]
    rfl
  have hfound := h Unit Unit Unit inferInstance sampleChecks ⟨[], []⟩
    ⟨[(sampleContribution "demo.note" [] (some "Disabled.")).descriptor], []⟩ sampleHost (fun _ => true)
    sampleAuthority ⟨["task-1"], []⟩ _ hmarked rfl rfl _ List.mem_cons_self
  rw [unavailableAlong_eq_none_iff] at hfound
  exact absurd hfound.1.1 (by decide)

/-- So is one that its context does not see. -/
theorem hidden_unavailable :
    let hidden : Contribution Unit Unit :=
      ⟨{ (sampleContribution "demo.note" [] none).descriptor with scope := .task "task-2" }, "plugin", ()⟩
    checkRegistration sampleChecks ⟨[], []⟩ sampleHost.hosts sampleAuthority [hidden] = .ok () ∧
      publish sampleChecks ⟨[], []⟩ sampleHost (fun _ => true) false [hidden] = .ok ⟨[hidden.descriptor], []⟩ ∧
      hidden.descriptor ∉ authorizedIn sampleAuthority ⟨["task-1"], []⟩ [hidden.descriptor] := by
  refine ⟨?_, rfl, by decide⟩
  refine forM_ok_iff.2 (List.forall_mem_singleton.2 ?_)
  rw [checkAlong, if_neg List.not_mem_nil]
  rfl

end Capability
