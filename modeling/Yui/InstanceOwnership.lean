import Mathlib.Data.List.Nodup
import Yui.Checked
import Yui.InstanceHost

/-!
# Who owns an instance, and when it is disposed of

An instance is either in use or it has one disposal, which started after the instance was detached with no
handle outstanding. A second disposal can only start from inside the first one, while its first disposer is
called and its promise is not stored.
-/

open FallibleRun Checked

section

variable {δ : Type}

def outstanding (handles : List ImplementationHandle) (ref : ImplementationRef) : ℕ :=
  handles.countP fun handle => handle.implementation = ref ∧ handle.released = false

/-- An instance that is not disposed of, or that has one disposal. -/
inductive Instance.Phase (inst : Instance δ) : Prop where
  | inUse (hloops : inst.loops = []) (hdisposal : inst.disposal = none) (hstarted : inst.started = [])
      (hfailures : inst.failures = []) (hdrained : inst.drained = .pending)
      (hdisposers : inst.disposers = inst.registered)
  | disposing (loop : DisposalLoop δ) (hloops : inst.loops = [loop]) (hdetached : inst.detached = true)
      (hreferences : inst.references = 0)
      (hdisposal : inst.disposal = if loop.opening then none else some 0)
      (hsplit : inst.started ++ loop.remaining = inst.registered.reverse)
      (hcurrent : loop.current = none → loop.remaining = []) (herrors : loop.errors = inst.failures)
      (hdrained : inst.drained = .pending ∨ (loop.opening = false ∧ loop.current = none ∧
        inst.drained = if loop.errors = [] then .resolved else .rejected))

namespace Instance

/-- No disposal of the instance is inside the call of its first disposer. -/
def Settled (inst : Instance δ) : Prop := ∀ loop ∈ inst.loops, loop.opening = false

theorem advance_phase {inst : Instance δ} {old loop : DisposalLoop δ} (hloops : inst.loops = [old])
    (hdetached : inst.detached = true) (hreferences : inst.references = 0)
    (hdisposal : inst.disposal = if loop.opening then none else some 0)
    (hsplit : inst.started ++ loop.remaining = inst.registered.reverse)
    (herrors : loop.errors = inst.failures) (hdrained : inst.drained = .pending) : Phase (inst.advance 0 loop) := by
  unfold advance
  cases hremaining : loop.remaining with
  | cons next rest =>
    refine .disposing { loop with remaining := rest, current := some next } ?_ hdetached hreferences
      hdisposal ?_ (by simp) herrors (.inl hdrained)
    · simp [hloops]
    · rw [← hsplit, hremaining]
      simp
  | nil =>
    refine .disposing { loop with current := none } ?_ hdetached hreferences hdisposal ?_
      (fun _ => hremaining) herrors (.inl hdrained)
    · simp [hloops, hremaining]
    · exact hsplit

theorem Phase.dispose {inst : Instance δ} (h : Phase inst) (hdetached : inst.detached = true)
    (hreferences : inst.references = 0) (hsettled : inst.Settled) : Phase inst.dispose := by
  cases h with
  | inUse hloops hdisposal hstarted hfailures hdrained hdisposers =>
    have hfirst : inst.dispose = { inst with
        loops := [⟨inst.disposers.reverse, none, true, []⟩] }.advance 0
          ⟨inst.disposers.reverse, none, true, []⟩ := by
      unfold Instance.dispose
      rw [hdisposal]
      simp only [hloops, List.length_nil, List.nil_append]
    rw [hfirst]
    refine advance_phase rfl hdetached hreferences hdisposal ?_ hfailures.symm hdrained
    simp [hstarted, hdisposers]
  | disposing loop hloops hdetached' hreferences' hdisposal hsplit hcurrent herrors hdrained =>
    have hopening : loop.opening = false := hsettled loop (by simp [hloops])
    have hkept : inst.dispose = inst := by
      unfold Instance.dispose
      rw [hdisposal, hopening]
      rfl
    rw [hkept]
    exact .disposing loop hloops hdetached' hreferences' hdisposal hsplit hcurrent herrors hdrained

theorem Phase.detach {inst : Instance δ} (h : Phase inst) (hsettled : inst.Settled) : Phase inst.detach := by
  have hdetached : Phase { inst with detached := true } := by
    cases h with
    | inUse hloops hdisposal hstarted hfailures hdrained hdisposers =>
      exact .inUse hloops hdisposal hstarted hfailures hdrained hdisposers
    | disposing loop hloops hdetached hreferences hdisposal hsplit hcurrent herrors hdrained =>
      exact .disposing loop hloops rfl hreferences hdisposal hsplit hcurrent herrors hdrained
  unfold Instance.detach
  split_ifs with hreferences
  · exact hdetached.dispose rfl hreferences hsettled
  · exact hdetached

theorem Phase.release {inst : Instance δ} (h : Phase inst) (hreferences : 1 ≤ inst.references) :
    Phase inst.release := by
  cases h with
  | inUse hloops hdisposal hstarted hfailures hdrained hdisposers =>
    have hless : Phase { inst with references := inst.references - 1 } :=
      .inUse hloops hdisposal hstarted hfailures hdrained hdisposers
    unfold Instance.release
    split_ifs with hlast
    · apply hless.dispose hlast.1 hlast.2
      intro loop hloop
      simp [hloops] at hloop
    · exact hless
  | disposing loop hloops hdetached hnone => omega

variable {inst next : Instance δ} {index : ℕ}

theorem Phase.opened (h : Phase inst) (hopened : inst.opened index = .ok next) : Phase next := by
  unfold Instance.opened at hopened
  cases h with
  | inUse hloops =>
    rw [show inst.loops[index]? = none by simp [hloops]] at hopened
    cases hopened
  | disposing loop hloops hdetached hreferences hdisposal hsplit hcurrent herrors hdrained =>
    cases index with
    | succ index =>
      rw [show inst.loops[index + 1]? = none by simp [hloops]] at hopened
      cases hopened
    | zero =>
      rw [show inst.loops[0]? = some loop by simp [hloops]] at hopened
      simp only at hopened
      split_ifs at hopened with hopening
      injection hopened with hopened
      subst hopened
      refine .disposing { loop with opening := false } (by simp [hloops]) hdetached hreferences rfl hsplit hcurrent
        herrors (.inl ?_)
      rcases hdrained with hpending | ⟨hclosed, _⟩
      · exact hpending
      · rw [hclosed] at hopening
        cases hopening

theorem Phase.disposerEnds {failed : Bool} (h : Phase inst)
    (hends : inst.disposerEnds index failed = .ok next) : Phase next := by
  unfold Instance.disposerEnds at hends
  cases h with
  | inUse hloops =>
    rw [show inst.loops[index]? = none by simp [hloops]] at hends
    cases hends
  | disposing loop hloops hdetached hreferences hdisposal hsplit hcurrent herrors hdrained =>
    cases index with
    | succ index =>
      rw [show inst.loops[index + 1]? = none by simp [hloops]] at hends
      cases hends
    | zero =>
      rw [show inst.loops[0]? = some loop by simp [hloops]] at hends
      simp only at hends
      split at hends
      · cases hends
      · next disposer hdisposer =>
          injection hends with hends
          subst hends
          refine advance_phase hloops hdetached hreferences hdisposal hsplit ?_ ?_
          · simp only [herrors]
          · rcases hdrained with hpending | ⟨_, hnone, _⟩
            · exact hpending
            · rw [hnone] at hdisposer
              cases hdisposer

theorem Phase.settle (h : Phase inst) (hsettle : inst.settle index = .ok next) : Phase next := by
  unfold Instance.settle at hsettle
  cases h with
  | inUse hloops =>
    rw [show inst.loops[index]? = none by simp [hloops]] at hsettle
    cases hsettle
  | disposing loop hloops hdetached hreferences hdisposal hsplit hcurrent herrors hdrained =>
    cases index with
    | succ index =>
      rw [show inst.loops[index + 1]? = none by simp [hloops]] at hsettle
      cases hsettle
    | zero =>
      rw [show inst.loops[0]? = some loop by simp [hloops]] at hsettle
      simp only at hsettle
      split at hsettle
      · cases hsettle
      · next hended =>
          injection hsettle with hsettle
          subst hsettle
          rw [not_or, not_or, Bool.not_eq_true, Bool.not_eq_true, Option.isSome_eq_false_iff,
            Option.isNone_iff_eq_none] at hended
          by_cases hpending : inst.drained = .pending
          · rw [if_pos hpending]
            exact .disposing loop hloops hdetached hreferences hdisposal hsplit hcurrent herrors
              (.inr ⟨hended.1, hended.2.1, rfl⟩)
          · rw [if_neg hpending]
            exact .disposing loop hloops hdetached hreferences hdisposal hsplit hcurrent herrors hdrained

/-- What no step of an instance changes, and that it stays detached. -/
structure Follows (inst next : Instance δ) : Prop where
  implementation : next.implementation = inst.implementation
  registered : next.registered = inst.registered
  detached : inst.detached = true → next.detached = true

theorem advance_follows (inst : Instance δ) (index : ℕ) (loop : DisposalLoop δ) :
    Follows inst (inst.advance index loop) ∧ (inst.advance index loop).references = inst.references := by
  unfold advance
  split
  · exact ⟨⟨rfl, rfl, id⟩, rfl⟩
  · exact ⟨⟨rfl, rfl, id⟩, rfl⟩

theorem dispose_follows (inst : Instance δ) :
    Follows inst inst.dispose ∧ inst.dispose.references = inst.references := by
  unfold dispose
  split
  · exact ⟨⟨rfl, rfl, id⟩, rfl⟩
  · obtain ⟨hfollows, hreferences⟩ := advance_follows { inst with
      loops := inst.loops ++ [⟨inst.disposers.reverse, none, true, []⟩] } inst.loops.length
      ⟨inst.disposers.reverse, none, true, []⟩
    exact ⟨⟨hfollows.implementation, hfollows.registered, hfollows.detached⟩, hreferences⟩

theorem detach_follows (inst : Instance δ) : Follows inst inst.detach ∧ inst.detach.references = inst.references ∧
      inst.detach.detached = true := by
  unfold detach
  split_ifs with hreferences
  · obtain ⟨hfollows, hkept⟩ := dispose_follows { inst with detached := true }
    exact ⟨⟨hfollows.implementation, hfollows.registered, fun _ => hfollows.detached rfl⟩, hkept,
      hfollows.detached rfl⟩
  · exact ⟨⟨rfl, rfl, fun _ => rfl⟩, rfl, rfl⟩

theorem release_follows (inst : Instance δ) :
    Follows inst inst.release ∧ inst.release.references = inst.references - 1 := by
  unfold release
  split_ifs with hlast
  · obtain ⟨hfollows, hkept⟩ := dispose_follows { inst with references := inst.references - 1 }
    exact ⟨⟨hfollows.implementation, hfollows.registered, hfollows.detached⟩, hkept⟩
  · exact ⟨⟨rfl, rfl, id⟩, rfl⟩

theorem opened_follows (h : inst.opened index = .ok next) :
    Follows inst next ∧ next.references = inst.references := by
  unfold opened at h
  split at h
  · cases h
  · split_ifs at h
    injection h with h
    subst h
    exact ⟨⟨rfl, rfl, id⟩, rfl⟩

theorem disposerEnds_follows {failed : Bool} (h : inst.disposerEnds index failed = .ok next) :
    Follows inst next ∧ next.references = inst.references := by
  unfold disposerEnds at h
  split at h
  · cases h
  · split at h
    · cases h
    · next disposer _ =>
        injection h with h
        subst h
        obtain ⟨hfollows, hkept⟩ := advance_follows { inst with
          failures := inst.failures ++ if failed then [disposer] else [] } index _
        exact ⟨⟨hfollows.implementation, hfollows.registered, hfollows.detached⟩, hkept⟩

theorem settle_follows (h : inst.settle index = .ok next) :
    Follows inst next ∧ next.references = inst.references := by
  unfold settle at h
  split at h
  · cases h
  · split at h
    · cases h
    · injection h with h
      subst h
      split
      · exact ⟨⟨rfl, rfl, id⟩, rfl⟩
      · exact ⟨⟨rfl, rfl, id⟩, rfl⟩

end Instance

namespace InstanceHost

variable {ref : ImplementationRef}

theorem find_some {host : InstanceHost δ} {inst : Instance δ}
    (h : host.find ref = some inst) : inst ∈ host.instances ∧ inst.implementation = ref :=
  ⟨List.mem_of_find?_eq_some h, by simpa using List.find?_some h⟩

theorem find_none {host : InstanceHost δ} (h : host.find ref = none) :
    ref ∉ host.instances.map Instance.implementation := by
  intro hmem
  obtain ⟨inst, hinst, himplementation⟩ := List.mem_map.1 hmem
  have hother := List.find?_eq_none.1 h inst hinst
  simp [himplementation] at hother

theorem implementationKey_ok {ref key : ImplementationRef} (h : implementationKey ref = .ok key) : key = ref := by
  unfold implementationKey at h
  split_ifs at h
  injection h with h
  exact h.symm

theorem update_keys (host : InstanceHost δ) (next : Instance δ) :
    (host.update next).instances.map Instance.implementation = host.instances.map Instance.implementation := by
  simp only [update, List.map_map]
  apply List.map_congr_left
  intro inst _
  simp only [Function.comp]
  split_ifs with hsame
  · exact hsame.symm
  · rfl

theorem mem_update {host : InstanceHost δ} {next inst : Instance δ}
    (h : inst ∈ (host.update next).instances) : inst = next ∨
      (inst ∈ host.instances ∧ inst.implementation ≠ next.implementation) := by
  obtain ⟨old, hold, hinst⟩ := List.mem_map.1 h
  split_ifs at hinst with hsame
  · exact .inl hinst.symm
  · subst hinst
    exact .inr ⟨hold, hsame⟩

/-- The host moves on: it stays closed, keeps its instances, and a detached one stays detached. -/
structure Extends (before after : InstanceHost δ) : Prop where
  closed : before.closed = true → after.closed = true
  instances : ∀ inst ∈ before.instances, ∃ next ∈ after.instances, inst.Follows next

theorem Extends.refl (host : InstanceHost δ) : Extends host host :=
  ⟨id, fun inst hinst => ⟨inst, hinst, rfl, rfl, id⟩⟩

theorem Extends.trans {a b c : InstanceHost δ} (h : Extends a b) (h' : Extends b c) : Extends a c := by
  refine ⟨fun hclosed => h'.closed (h.closed hclosed), fun inst hinst => ?_⟩
  obtain ⟨next, hnext, hfollows⟩ := h.instances inst hinst
  obtain ⟨last, hlast, hfollows'⟩ := h'.instances next hnext
  exact ⟨last, hlast, hfollows'.implementation.trans hfollows.implementation,
    hfollows'.registered.trans hfollows.registered,
    fun hdetached => hfollows'.detached (hfollows.detached hdetached)⟩

/-- The state of a host whose disposals were not disturbed. -/
structure Owned (host : InstanceHost δ) : Prop where
  distinct : (host.instances.map Instance.implementation).Nodup
  counted : ∀ inst ∈ host.instances,
    inst.references = outstanding host.handles inst.implementation
  phases : ∀ inst ∈ host.instances, inst.Phase
  attached : ∀ handle ∈ host.handles,
    handle.implementation ∈ host.instances.map Instance.implementation

theorem Owned.unique {host : InstanceHost δ} (h : Owned host) {first second : Instance δ}
    (hfirst : first ∈ host.instances) (hsecond : second ∈ host.instances)
    (hsame : first.implementation = second.implementation) : first = second :=
  List.inj_on_of_nodup_map h.distinct hfirst hsecond hsame

theorem extends_update {host : InstanceHost δ} (h : Owned host) {inst : Instance δ} (next : Instance δ)
    (hinst : inst ∈ host.instances) (hfollows : inst.Follows next) (handles : List ImplementationHandle) :
    Extends host { host.update next with handles := handles } := by
  refine ⟨id, fun other hother => ?_⟩
  by_cases hsame : other.implementation = next.implementation
  · have heq := h.unique hother hinst (hsame.trans hfollows.implementation)
    rw [heq]
    refine ⟨next, ?_, hfollows⟩
    exact List.mem_map.2 ⟨inst, hinst, if_pos hfollows.implementation.symm⟩
  · exact ⟨other, List.mem_map.2 ⟨other, hother, if_neg hsame⟩, rfl, rfl, id⟩

/-- One instance takes a step, and its handles may change. -/
theorem Owned.update {host : InstanceHost δ} (h : Owned host) (inst next : Instance δ)
    (himplementation : next.implementation = inst.implementation)
    (hphase : next.Phase) (handles : List ImplementationHandle)
    (hcounted : next.references = outstanding handles inst.implementation)
    (hothers : ∀ ref, ref ≠ inst.implementation → outstanding handles ref = outstanding host.handles ref)
    (hattached : ∀ handle ∈ handles, handle.implementation ∈ host.instances.map Instance.implementation) :
    Owned { host.update next with handles := handles } := by
  refine ⟨?_, ?_, ?_, by rw [update_keys]; exact hattached⟩
  · rw [update_keys]
    exact h.distinct
  · intro other hother
    rcases mem_update hother with rfl | ⟨hold, hne⟩
    · rw [himplementation]
      exact hcounted
    · simp only
      rw [hothers other.implementation (himplementation ▸ hne)]
      exact h.counted other hold
  · intro other hother
    rcases mem_update hother with rfl | ⟨hold, _⟩
    · exact hphase
    · exact h.phases other hold

theorem outstanding_snoc (handles : List ImplementationHandle) (ref other : ImplementationRef) :
    outstanding (handles ++ [⟨ref, false⟩]) other = outstanding handles other + if ref = other then 1 else 0 := by
  simp only [outstanding, List.countP_append, List.countP_singleton, and_true, decide_eq_true_eq]

theorem outstanding_released {handles : List ImplementationHandle} {index : ℕ}
    {handle : ImplementationHandle} (h : handles[index]? = some handle) (hopen : handle.released = false)
    (other : ImplementationRef) : outstanding (handles.set index { handle with released := true }) other +
      (if handle.implementation = other then 1 else 0) = outstanding handles other := by
  obtain ⟨hindex, hget⟩ := List.getElem?_eq_some_iff.1 h
  unfold outstanding
  rw [List.countP_set hindex, hget]
  by_cases hsame : handle.implementation = other
  · have hpos : 0 < handles.countP fun entry =>
        decide (entry.implementation = other ∧ entry.released = false) := by
      apply List.countP_pos_iff.2
      exact ⟨handle, List.mem_of_getElem? h, by simp [hsame, hopen]⟩
    simp only [hsame, hopen, and_self, decide_true, if_true, Bool.true_eq_false, and_false,
      decide_false, Bool.false_eq_true, if_false]
    omega
  · simp [hsame]

/-- `detach` and `close` are not called from inside the first disposer of the instance they detach. -/
def Apart (host : InstanceHost δ) : HostOp δ → Prop
  | .detach ref => ∀ inst ∈ host.find ref, inst.Settled
  | .closeNext => ∀ ref ∈ host.closing.head?, ∀ inst ∈ host.find ref, inst.Settled
  | _ => True

variable {host after : InstanceHost δ}

theorem Owned.closingChanged (h : Owned host) (closed : Bool) (closing : List ImplementationRef) :
    Owned { host with closed := closed, closing := closing } :=
  ⟨h.distinct, h.counted, h.phases, h.attached⟩

theorem Owned.outstanding_new (h : Owned host) (hnew : host.find ref = none) : outstanding host.handles ref = 0 := by
  apply List.countP_eq_zero.2
  intro handle hhandle hopen
  have hsame : handle.implementation = ref ∧ handle.released = false := by simpa using hopen
  exact find_none hnew (hsame.1 ▸ h.attached handle hhandle)

theorem Owned.attach (h : Owned host) {ownedDisposers : List δ}
    (hattach : host.attach ref ownedDisposers = .ok after) : Owned after ∧ Extends host after ∧ host.closed = false ∧
      ref ∉ host.instances.map Instance.implementation := by
  unfold InstanceHost.attach at hattach
  split_ifs at hattach with hclosed
  · cases hattach
  obtain ⟨key, hkey, hrest⟩ := bind_ok hattach
  rw [implementationKey_ok hkey] at hrest
  cases hfound : host.find ref with
  | some inst =>
    rw [hfound] at hrest
    cases hrest
  | none =>
    rw [hfound] at hrest
    cases hrest
    have hnew := find_none hfound
    refine ⟨⟨?_, ?_, ?_, ?_⟩, ⟨id, ?_⟩, by simpa using hclosed, hnew⟩
    · rw [List.map_append]
      apply List.Nodup.append h.distinct (List.nodup_singleton _)
      rw [List.disjoint_singleton]
      exact hnew
    · intro inst hinst
      rcases List.mem_append.1 hinst with hold | hlast
      · exact h.counted inst hold
      · rw [List.mem_singleton.1 hlast]
        simp [h.outstanding_new hfound]
    · intro inst hinst
      rcases List.mem_append.1 hinst with hold | hlast
      · exact h.phases inst hold
      · rw [List.mem_singleton.1 hlast]
        exact .inUse rfl rfl rfl rfl rfl rfl
    · intro handle hhandle
      rw [List.map_append]
      exact List.mem_append_left _ (h.attached handle hhandle)
    · intro inst hinst
      exact ⟨inst, List.mem_append_left _ hinst, rfl, rfl, id⟩

theorem Owned.acquire (h : Owned host) (hacquire : host.acquire ref = .ok after) : Owned after ∧ Extends host after ∧
      host.closed = false ∧ ∃ inst ∈ host.instances, inst.implementation = ref ∧ inst.detached = false := by
  unfold InstanceHost.acquire at hacquire
  obtain ⟨key, hkey, hrest⟩ := bind_ok hacquire
  rw [implementationKey_ok hkey] at hrest
  split at hrest
  · cases hrest
  · next inst hfound =>
      obtain ⟨hinst, himplementation⟩ := find_some hfound
      split_ifs at hrest with hrefused
      rw [not_or, Bool.not_eq_true, Bool.not_eq_true] at hrefused
      injection hrest with hrest
      subst hrest
      refine ⟨?_, ?_, hrefused.1, inst, hinst, himplementation, hrefused.2⟩
      · apply h.update inst { inst with references := inst.references + 1 } rfl
        · cases h.phases inst hinst with
          | inUse hloops hdisposal hstarted hfailures hdrained hdisposers =>
            exact .inUse hloops hdisposal hstarted hfailures hdrained hdisposers
          | disposing loop hloops hdetached =>
            rw [hdetached] at hrefused
            cases hrefused.2
        · rw [outstanding_snoc, if_pos himplementation.symm]
          simp only
          rw [h.counted inst hinst]
          push_cast
          rfl
        · intro other hother
          rw [outstanding_snoc, if_neg (by rw [← himplementation]; exact hother.symm), Nat.add_zero]
        · intro handle hhandle
          rcases List.mem_append.1 hhandle with hold | hlast
          · exact h.attached handle hold
          · rw [List.mem_singleton.1 hlast, ← himplementation]
            exact List.mem_map_of_mem hinst
      · exact extends_update h { inst with references := inst.references + 1 } hinst ⟨rfl, rfl, id⟩ _

theorem Owned.release (h : Owned host) {index : ℕ} (hrelease : host.release index = .ok after) :
    Owned after ∧ Extends host after := by
  unfold InstanceHost.release at hrelease
  split at hrelease
  · cases hrelease
  · next handle hhandle =>
      split_ifs at hrelease with hreleased
      · cases hrelease
        exact ⟨h, .refl host⟩
      · rw [Bool.not_eq_true] at hreleased
        split at hrelease
        · cases hrelease
        · next inst hfound =>
            cases hrelease
            obtain ⟨hinst, himplementation⟩ := find_some hfound
            obtain ⟨hfollows, hreferences⟩ := inst.release_follows
            have hmine := outstanding_released hhandle hreleased inst.implementation
            rw [if_pos himplementation.symm] at hmine
            have hcounted := h.counted inst hinst
            refine ⟨?_, extends_update h _ hinst hfollows _⟩
            apply h.update inst _ hfollows.implementation
            · apply (h.phases inst hinst).release
              rw [hcounted, ← hmine]
              push_cast
              omega
            · rw [hreferences, hcounted, ← hmine]
              push_cast
              omega
            · intro other hother
              have hothers := outstanding_released hhandle hreleased other
              rw [if_neg (by rw [← himplementation]; exact hother.symm), Nat.add_zero] at hothers
              exact hothers
            · intro entry hentry
              rcases List.mem_or_eq_of_mem_set hentry with hold | rfl
              · exact h.attached entry hold
              · exact h.attached handle (List.mem_of_getElem? hhandle)

/-- A step of an instance that keeps its handles. -/
theorem Owned.kept (h : Owned host) {inst next : Instance δ} (hinst : inst ∈ host.instances)
    (hfollows : inst.Follows next) (hreferences : next.references = inst.references)
    (hphase : next.Phase) : Owned (host.update next) ∧ Extends host (host.update next) := by
  refine ⟨?_, extends_update h next hinst hfollows host.handles⟩
  apply h.update inst next hfollows.implementation hphase host.handles
  · rw [hreferences]
    exact h.counted inst hinst
  · exact fun _ _ => rfl
  · exact h.attached

theorem Owned.detach (h : Owned host)
    (hsettled : ∀ inst ∈ host.find ref, inst.Settled) (hdetach : host.detach ref = .ok after) :
    Owned after ∧ Extends host after := by
  unfold InstanceHost.detach at hdetach
  obtain ⟨key, hkey, hrest⟩ := bind_ok hdetach
  rw [implementationKey_ok hkey] at hrest
  split at hrest
  · cases hrest
  · next inst hfound =>
      cases hrest
      obtain ⟨hinst, _⟩ := find_some hfound
      obtain ⟨hfollows, hreferences, _⟩ := inst.detach_follows
      exact h.kept hinst hfollows hreferences ((h.phases inst hinst).detach (hsettled inst hfound))

theorem Owned.within (h : Owned host) {step : Instance δ → Except String (Instance δ)}
    (hstep : ∀ inst next, step inst = .ok next → inst.Phase →
      inst.Follows next ∧ next.references = inst.references ∧ next.Phase)
    (hwithin : host.within ref step = .ok after) : Owned after ∧ Extends host after := by
  unfold InstanceHost.within at hwithin
  split at hwithin
  · cases hwithin
  · next inst hfound =>
      obtain ⟨next, hnext, hok⟩ := bind_ok hwithin
      cases hok
      obtain ⟨hinst, _⟩ := find_some hfound
      obtain ⟨hfollows, hreferences, hphase⟩ := hstep inst next hnext (h.phases inst hinst)
      exact h.kept hinst hfollows hreferences hphase

theorem Owned.of_op (h : Owned host) {op : HostOp δ} (hapart : Apart host op)
    (hop : op.apply host = .ok after) : Owned after ∧ Extends host after := by
  cases op with
  | attach ref ownedDisposers =>
    obtain ⟨howned, hextends, _⟩ := h.attach hop
    exact ⟨howned, hextends⟩
  | acquire ref =>
    obtain ⟨howned, hextends, _⟩ := h.acquire hop
    exact ⟨howned, hextends⟩
  | release index => exact h.release hop
  | detach ref => exact h.detach hapart hop
  | close =>
    cases hop
    exact ⟨h.closingChanged _ _, fun _ => rfl, fun inst hinst => ⟨inst, hinst, rfl, rfl, id⟩⟩
  | closeNext =>
    simp only [HostOp.apply] at hop
    split at hop
    · cases hop
    · next ref closing hclosing =>
        obtain ⟨next, hnext, hok⟩ := bind_ok hop
        cases hok
        obtain ⟨howned, hextends⟩ := h.detach (hapart ref (by simp [hclosing])) hnext
        exact ⟨howned.closingChanged _ _, hextends.closed, hextends.instances⟩
  | opened ref index =>
    apply h.within _ hop
    intro inst next hnext hphase
    obtain ⟨hfollows, hreferences⟩ := Instance.opened_follows hnext
    exact ⟨hfollows, hreferences, hphase.opened hnext⟩
  | disposerEnds ref index failed =>
    apply h.within _ hop
    intro inst next hnext hphase
    obtain ⟨hfollows, hreferences⟩ := Instance.disposerEnds_follows hnext
    exact ⟨hfollows, hreferences, hphase.disposerEnds hnext⟩
  | settle ref index =>
    apply h.within _ hop
    intro inst next hnext hphase
    obtain ⟨hfollows, hreferences⟩ := Instance.settle_follows hnext
    exact ⟨hfollows, hreferences, hphase.settle hnext⟩

theorem Owned.start : Owned (InstanceHost.start : InstanceHost δ) := by
  refine ⟨List.nodup_nil, ?_, ?_, ?_⟩
  · intro inst hinst
    cases hinst
  · intro inst hinst
    cases hinst
  · intro handle hhandle
    cases hhandle

/-- The ownership protocol in one state of the host. -/
structure Disciplined (host : InstanceHost δ) : Prop where
  order : ∀ inst ∈ host.instances, inst.started <+: inst.registered.reverse
  drainedFirst : ∀ inst ∈ host.instances, inst.started ≠ [] →
    inst.detached = true ∧ outstanding host.handles inst.implementation = 0
  counted : ∀ inst ∈ host.instances,
    inst.references = outstanding host.handles inst.implementation
  settles : ∀ inst ∈ host.instances, inst.drained ≠ .pending →
    outstanding host.handles inst.implementation = 0 ∧ inst.started = inst.registered.reverse ∧
      (∀ loop ∈ inst.loops, loop.current = none) ∧
      (inst.drained = .rejected ↔ inst.failures ≠ [])
  acquires : ∀ ref after, host.acquire ref = .ok after → host.closed = false ∧
    ∃ inst ∈ host.instances, inst.implementation = ref ∧ inst.detached = false
  attaches : ∀ ref ownedDisposers after, host.attach ref ownedDisposers = .ok after →
    ref ∉ host.instances.map Instance.implementation

theorem Owned.disciplined (h : Owned host) : Disciplined host := by
  refine ⟨?_, ?_, h.counted, ?_, fun ref after hacquire => (h.acquire hacquire).2.2,
    fun ref ownedDisposers after hattach => (h.attach hattach).2.2.2⟩
  · intro inst hinst
    cases h.phases inst hinst with
    | inUse hloops hdisposal hstarted =>
      rw [hstarted]
      exact List.nil_prefix
    | disposing loop hloops hdetached hreferences hdisposal hsplit =>
      rw [← hsplit]
      exact List.prefix_append _ _
  · intro inst hinst hsome
    cases h.phases inst hinst with
    | inUse hloops hdisposal hstarted => exact absurd hstarted hsome
    | disposing loop hloops hdetached hreferences =>
      have hcounted := h.counted inst hinst
      rw [hreferences] at hcounted
      exact ⟨hdetached, by omega⟩
  · intro inst hinst hsettled
    cases h.phases inst hinst with
    | inUse hloops hdisposal hstarted hfailures hdrained => exact absurd hdrained hsettled
    | disposing loop hloops hdetached hreferences hdisposal hsplit hcurrent herrors hdrained =>
      obtain ⟨_, hnone, hdrain⟩ := hdrained.resolve_left hsettled
      have hcounted := h.counted inst hinst
      rw [hreferences] at hcounted
      rw [hcurrent hnone, List.append_nil] at hsplit
      refine ⟨by omega, hsplit, ?_, ?_⟩
      · intro other hother
        rw [hloops, List.mem_singleton] at hother
        rw [hother]
        exact hnone
      · rw [hdrain, herrors]
        by_cases hclean : inst.failures = []
        · simp [hclean]
        · simp [hclean]

/-- In a run whose `detach` and `close` calls never come from inside the first disposer of the instance
they detach, every state follows the ownership protocol, the host stays closed, its instances stay
attached, and a detached instance stays detached. -/
theorem ownership_protocol (ops more : List (HostOp δ))
    (hapart : Along HostOp.apply Apart (InstanceHost.start : InstanceHost δ) (ops ++ more)) :
    Disciplined (run HostOp.apply (InstanceHost.start : InstanceHost δ) ops) ∧
      Extends (run HostOp.apply (InstanceHost.start : InstanceHost δ) ops)
        (run HostOp.apply InstanceHost.start (ops ++ more)) := by
  obtain ⟨hfirst, hlater⟩ := along_append.1 hapart
  have hrun : ∀ {host : InstanceHost δ} {ops : List (HostOp δ)}, Owned host →
      Along HostOp.apply Apart host ops →
        Owned (run HostOp.apply host ops) ∧ Extends host (run HostOp.apply host ops) := by
    intro host ops howned halong
    exact run_relates (fun host _ => Extends.refl host) (fun _ _ _ => Extends.trans)
      (fun _ _ _ h hmeets hop => h.of_op hmeets hop) howned halong
  have howned := (hrun Owned.start hfirst).1
  rw [run_append]
  exact ⟨howned.disciplined, (hrun howned hlater).2⟩

end InstanceHost

end

section Samples

def sampleRef : ImplementationRef := ⟨"provider", "1"⟩

/-- An instance with two disposers, of which the first registered one fails. -/
def sampleLife : List (HostOp ℕ) :=
  [.attach sampleRef [1, 2], .acquire sampleRef, .detach sampleRef, .release 0, .opened sampleRef 0,
    .disposerEnds sampleRef 0 false, .disposerEnds sampleRef 0 true, .settle sampleRef 0]

theorem ownership_protocol_sample :
    Along HostOp.apply InstanceHost.Apart (InstanceHost.start : InstanceHost ℕ) (sampleLife ++ [.close]) ∧
      InstanceHost.Disciplined (run HostOp.apply (InstanceHost.start : InstanceHost ℕ) sampleLife) ∧
      InstanceHost.Extends (run HostOp.apply (InstanceHost.start : InstanceHost ℕ) sampleLife)
        (run HostOp.apply InstanceHost.start (sampleLife ++ [.close])) := by
  have hapart : Along HostOp.apply InstanceHost.Apart (InstanceHost.start : InstanceHost ℕ)
      (sampleLife ++ [.close]) := by
    refine ⟨trivial, trivial, ?_, trivial, trivial, trivial, trivial, trivial, trivial, trivial⟩
    intro inst hinst loop hloop
    cases hinst
    cases hloop
  exact ⟨hapart, InstanceHost.ownership_protocol sampleLife [.close] hapart⟩

/-- A disposer that detaches its own instance is called a second time. -/
theorem disposer_called_twice : ¬ InstanceHost.Disciplined (run HostOp.apply (InstanceHost.start : InstanceHost ℕ)
      [.attach sampleRef [1], .detach sampleRef, .detach sampleRef]) := by
  intro h
  have hstarted : ∃ inst ∈ (run HostOp.apply (InstanceHost.start : InstanceHost ℕ)
      [.attach sampleRef [1], .detach sampleRef, .detach sampleRef]).instances,
      ¬ inst.started <+: inst.registered.reverse := by decide
  obtain ⟨inst, hinst, htwice⟩ := hstarted
  exact htwice (h.order inst hinst)

end Samples
