import Mathlib.Logic.Function.Basic
import Yui.FallibleRun

/-!
# The release workflow lock

The lock of a workflow is a directory: `mkdir` acquires it, a receipt in it names the owner, and a waiting
caller reclaims it when the process of the receipt is dead. Each move of a caller is one operation of the
file system. A process may die at any time, and takes its callers with it.
-/

open FallibleRun

namespace WorkflowFileLock

abbrev Caller := ℕ

structure OwnerReceipt where
  pid : ℕ
  token : ℕ
  deriving DecidableEq

/-- The lock directory. `maker` is the caller whose `mkdir` made it. -/
structure LockDir where
  maker : Caller
  owner : Option OwnerReceipt
  marker : Option ℕ
  temps : List ℕ

inductive Phase where
  | idle
  | wanting
  | made
  | written (token : ℕ)
  | holding (token : ℕ)
  | releasing (token : ℕ)
  | abandoning
  | blocked
  | judging (receipt : OwnerReceipt)
  | found (receipt : OwnerReceipt)
  | marking (receipt : OwnerReceipt) (temp : ℕ)
  | contested (receipt : OwnerReceipt) (temp : ℕ)
  | doubting (receipt : OwnerReceipt) (temp pid : ℕ)
  | clearing (receipt : OwnerReceipt) (temp : ℕ)
  | relinking (receipt : OwnerReceipt) (temp : ℕ)
  | dropping (temp : ℕ)
  | checking (receipt : OwnerReceipt)
  | removing (receipt : OwnerReceipt)
  | unmarking
  deriving DecidableEq

inductive Entry where
  | owner | marker
  | temp (name : ℕ)
  deriving DecidableEq

/-- `unlink` and `rmdir` are the steps of a recursive removal. `fails` is a timeout, a failed rename or a
removal that finds the directory not empty. -/
inductive Move where
  | proceed | fails | rmdir | die
  | unlink (entry : Entry)
  deriving DecidableEq

structure State where
  dir : Option LockDir
  phase : Caller → Phase
  alive : ℕ → Bool
  fresh : ℕ

structure Effect where
  phase : Phase
  dir : Option LockDir
  fresh : ℕ

def LockDir.addTemp (dir : LockDir) (name : ℕ) : LockDir := { dir with temps := name :: dir.temps }

def LockDir.unlink (dir : LockDir) : Entry → LockDir
  | .owner => { dir with owner := none }
  | .marker => { dir with marker := none }
  | .temp name => { dir with temps := dir.temps.erase name }

def LockDir.isEmpty (dir : LockDir) : Bool :=
  decide (dir.owner = none ∧ dir.marker = none ∧ dir.temps = [])

section Operations

variable (pidOf : Caller → ℕ)

/-- `readOwnerReceipt`. -/
def State.receipt (s : State) : Option OwnerReceipt := s.dir.bind LockDir.owner

/-- An operation that leaves the directory as it is. -/
def State.goes (s : State) (phase : Phase) : Effect := ⟨phase, s.dir, s.fresh⟩

/-- `linkSync` of the temp file to the marker. -/
def State.link (s : State) (c : Caller) (receipt : OwnerReceipt) (temp : ℕ) (exists_ : Phase) : Effect :=
  match s.dir with
  | none => s.goes .wanting
  | some dir =>
    if temp ∉ dir.temps then s.goes .wanting
    else
      match dir.marker with
      | none => ⟨.checking receipt, some { dir with marker := some (pidOf c) }, s.fresh⟩
      | some _ => s.goes exists_

/-- The receipt read again under the marker: the same token, and a dead process. A dead process stays
dead, so the time between the read and the test does not matter. -/
def State.confirms (s : State) (receipt : OwnerReceipt) : Bool :=
  s.receipt.any fun current => decide (current.token = receipt.token) && !s.alive current.pid

def proceed (s : State) (c : Caller) : Phase → Effect
  | .idle => s.goes .wanting
  | .wanting =>
    match s.dir with
    | none => ⟨.made, some ⟨c, none, none, []⟩, s.fresh⟩
    | some _ => s.goes .blocked
  | .made =>
    match s.dir with
    | none => s.goes .idle
    | some dir => ⟨.written s.fresh, some (dir.addTemp s.fresh), s.fresh + 1⟩
  | .written token =>
    match s.dir with
    | none => s.goes .abandoning
    | some dir =>
      if token ∉ dir.temps then s.goes .abandoning
      else ⟨.holding token, some { dir with
        owner := some ⟨pidOf c, token⟩
        temps := dir.temps.erase token }, s.fresh⟩
  | .holding token =>
    if s.receipt.map OwnerReceipt.token = some token then s.goes (.releasing token) else s.goes .idle
  | .releasing token => s.goes (.releasing token)
  | .abandoning => s.goes .abandoning
  | .blocked =>
    match s.receipt with
    | none => s.goes .wanting
    | some receipt => s.goes (.judging receipt)
  | .judging receipt => if s.alive receipt.pid = true then s.goes .wanting else s.goes (.found receipt)
  | .found receipt =>
    match s.dir with
    | none => s.goes .wanting
    | some dir => ⟨.marking receipt s.fresh, some (dir.addTemp s.fresh), s.fresh + 1⟩
  | .marking receipt temp => s.link pidOf c receipt temp (.contested receipt temp)
  | .contested receipt temp =>
    match s.dir.bind LockDir.marker with
    | none => s.goes .wanting
    | some pid => s.goes (.doubting receipt temp pid)
  | .doubting receipt temp pid =>
    if s.alive pid = true then s.goes .wanting else s.goes (.clearing receipt temp)
  | .clearing receipt temp =>
    ⟨.relinking receipt temp, s.dir.map fun dir => dir.unlink .marker, s.fresh⟩
  | .relinking receipt temp => s.link pidOf c receipt temp (.dropping temp)
  | .dropping temp => ⟨.idle, s.dir.map fun dir => dir.unlink (.temp temp), s.fresh⟩
  | .checking receipt => if s.confirms receipt = true then s.goes (.removing receipt) else s.goes .unmarking
  | .removing receipt => s.goes (.removing receipt)
  | .unmarking => ⟨.wanting, s.dir.map fun dir => dir.unlink .marker, s.fresh⟩

def Phase.afterRemoval : Phase → Option Phase
  | .releasing _ | .abandoning => some .idle
  | .removing _ => some .unmarking
  | _ => none

def operate (s : State) (c : Caller) : Move → Except Unit Effect
  | .proceed => .ok (proceed pidOf s c (s.phase c))
  | .fails =>
    match s.phase c, (s.phase c).afterRemoval with
    | .wanting, _ => .ok (s.goes .idle)
    | .written _, _ => .ok (s.goes .abandoning)
    | _, some after => .ok (s.goes after)
    | _, none => .error ()
  | .unlink entry =>
    match (s.phase c).afterRemoval with
    | none => .error ()
    | some _ => .ok ⟨s.phase c, s.dir.map fun dir => dir.unlink entry, s.fresh⟩
  | .rmdir =>
    match (s.phase c).afterRemoval with
    | none => .error ()
    | some after =>
      if s.dir.all LockDir.isEmpty = true then .ok ⟨after, none, s.fresh⟩ else .error ()
  | .die => .error ()

def State.apply (s : State) (c : Caller) (effect : Effect) : State where
  dir := effect.dir
  phase := Function.update s.phase c effect.phase
  alive := s.alive
  fresh := effect.fresh

def step (s : State) : Caller × Move → Except Unit State
  | (c, .die) =>
    .ok { s with alive := Function.update s.alive (pidOf c) false }
  | (c, move) =>
    if s.alive (pidOf c) = false then .error ()
    else (operate pidOf s c move).map (s.apply c)

def State.initial : State := ⟨none, fun _ => .idle, fun _ => true, 0⟩

end Operations

/-- A caller between its `mkdir` and the end of its release. -/
def Phase.owns : Phase → Bool
  | .made | .written _ | .holding _ | .releasing _ | .abandoning => true
  | _ => false

/-- A caller between its check under the marker and the end of its removal. -/
def Phase.reclaims : Phase → Bool
  | .removing _ => true
  | _ => false

section Exclusion

variable (pidOf : Caller → ℕ)

def State.Live (s : State) (c : Caller) : Prop := s.alive (pidOf c) = true

/-- No caller passes its check under the marker while another live one is past its own. -/
def Serial (s : State) (i : Caller × Move) : Prop :=
  ∀ receipt, s.phase i.1 = .checking receipt → i.2 = .proceed → s.confirms receipt = true →
    ∀ c, s.Live pidOf c → (s.phase c).reclaims = false

/-- The directory belongs to its maker while that lives, and a reclaim works on the directory of a dead
maker only. -/
structure Guarded (s : State) : Prop where
  owned : ∀ c, s.Live pidOf c → (s.phase c).owns = true → ∃ dir, s.dir = some dir ∧ dir.maker = c
  named : ∀ dir receipt, s.dir = some dir → dir.owner = some receipt → receipt.pid = pidOf dir.maker
  held : ∀ c token, s.Live pidOf c → s.phase c = .holding token →
    s.receipt = some ⟨pidOf c, token⟩
  released : ∀ c token, s.Live pidOf c → s.phase c = .releasing token →
    s.receipt = none ∨ s.receipt = some ⟨pidOf c, token⟩
  dead : ∀ c, s.Live pidOf c → (s.phase c).reclaims = true →
    ∃ dir, s.dir = some dir ∧ s.alive (pidOf dir.maker) = false
  single : ∀ c c', s.Live pidOf c → s.Live pidOf c' → (s.phase c).reclaims = true →
    (s.phase c').reclaims = true → c = c'

theorem initial_guarded : Guarded pidOf State.initial where
  owned _ _ h := by cases h
  named _ _ h := by cases h
  held _ _ _ h := by cases h
  released _ _ _ h := by cases h
  dead _ _ h := by cases h
  single _ _ _ _ h := by cases h

variable {pidOf} {s : State} {c : Caller}

theorem Guarded.die (h : Guarded pidOf s) (pid : ℕ) :
    Guarded pidOf { s with alive := Function.update s.alive pid false } := by
  have hlive : ∀ {c}, State.Live pidOf { s with alive := Function.update s.alive pid false } c →
      s.Live pidOf c := by
    intro c hc
    unfold State.Live at *
    by_cases hpid : pidOf c = pid
    · simp [hpid] at hc
    · simpa [hpid] using hc
  refine ⟨fun c hc => h.owned c (hlive hc), h.named, fun c token hc => h.held c token (hlive hc),
    fun c token hc => h.released c token (hlive hc), fun c hc hreclaims => ?_,
    fun c c' hc hc' => h.single c c' (hlive hc) (hlive hc')⟩
  obtain ⟨dir, hdir, hdead⟩ := h.dead c (hlive hc) hreclaims
  refine ⟨dir, hdir, ?_⟩
  by_cases hpid : pidOf dir.maker = pid
  · simp [hpid]
  · simpa [hpid] using hdead

/-- The maker and the receipt, which the other entries do not touch. -/
def LockDir.title (dir : LockDir) : Caller × Option OwnerReceipt := (dir.maker, dir.owner)

theorem receipt_of_title {dir dir' : Option LockDir} (h : dir'.map LockDir.title = dir.map LockDir.title) :
    dir'.bind LockDir.owner = dir.bind LockDir.owner := by
  cases dir <;> cases dir' <;> simp_all [LockDir.title]

theorem exists_of_title {dir dir' : Option LockDir} {d : LockDir}
    (h : dir'.map LockDir.title = dir.map LockDir.title) (hd : dir = some d) :
    ∃ d', dir' = some d' ∧ d'.maker = d.maker ∧ d'.owner = d.owner := by
  subst hd
  cases dir' with
  | none => simp at h
  | some d' =>
    simp only [Option.map_some, Option.some.injEq, LockDir.title, Prod.mk.injEq] at h
    exact ⟨d', rfl, h.1, h.2⟩

@[simp] theorem apply_phase_self (s : State) (c : Caller) (e : Effect) : (s.apply c e).phase c = e.phase := by
  simp [State.apply]

theorem apply_phase_other {c' : Caller} (s : State) (e : Effect) (h : c' ≠ c) :
    (s.apply c e).phase c' = s.phase c' := by
  simp [State.apply, h]

variable {e : Effect}

theorem Guarded.kept (h : Guarded pidOf s) (hc : s.Live pidOf c)
    (htitle : e.dir.map LockDir.title = s.dir.map LockDir.title)
    (howns : e.phase.owns = true → (s.phase c).owns = true)
    (hholds : ∀ token, e.phase = .holding token → s.phase c = .holding token)
    (hreleases : ∀ token, e.phase = .releasing token → s.receipt = none ∨ s.receipt = some ⟨pidOf c, token⟩)
    (hreclaims : e.phase.reclaims = true → (∃ dir, s.dir = some dir ∧ s.alive (pidOf dir.maker) = false) ∧
        ∀ c', c' ≠ c → s.Live pidOf c' → (s.phase c').reclaims = false) : Guarded pidOf (s.apply c e) := by
  have hreceipt : (s.apply c e).receipt = s.receipt := receipt_of_title htitle
  constructor
  · intro c' hlive howned
    have hmade : ∃ dir, s.dir = some dir ∧ dir.maker = c' := by
      by_cases hsame : c' = c
      · subst hsame
        rw [apply_phase_self] at howned
        exact h.owned c' hlive (howns howned)
      · rw [apply_phase_other s e hsame] at howned
        exact h.owned c' hlive howned
    obtain ⟨dir, hdir, hmaker⟩ := hmade
    obtain ⟨dir', hdir', hmaker', _⟩ := exists_of_title htitle hdir
    exact ⟨dir', hdir', hmaker'.trans hmaker⟩
  · intro dir receipt hdir howner
    obtain ⟨dir', hdir', hmaker', howner'⟩ := exists_of_title htitle.symm hdir
    rw [← hmaker']
    exact h.named dir' receipt hdir' (howner'.trans howner)
  · intro c' token hlive hphase
    rw [hreceipt]
    by_cases hsame : c' = c
    · subst hsame
      rw [apply_phase_self] at hphase
      exact h.held c' token hlive (hholds token hphase)
    · rw [apply_phase_other s e hsame] at hphase
      exact h.held c' token hlive hphase
  · intro c' token hlive hphase
    rw [hreceipt]
    by_cases hsame : c' = c
    · subst hsame
      rw [apply_phase_self] at hphase
      exact hreleases token hphase
    · rw [apply_phase_other s e hsame] at hphase
      exact h.released c' token hlive hphase
  · intro c' hlive hphase
    have hdead : ∃ dir, s.dir = some dir ∧ s.alive (pidOf dir.maker) = false := by
      by_cases hsame : c' = c
      · subst hsame
        rw [apply_phase_self] at hphase
        exact (hreclaims hphase).1
      · rw [apply_phase_other s e hsame] at hphase
        exact h.dead c' hlive hphase
    obtain ⟨dir, hdir, hdead⟩ := hdead
    obtain ⟨dir', hdir', hmaker', _⟩ := exists_of_title htitle hdir
    refine ⟨dir', hdir', ?_⟩
    rw [hmaker']
    exact hdead
  · intro c1 c2 hlive1 hlive2 hphase1 hphase2
    by_cases h1 : c1 = c
    · by_cases h2 : c2 = c
      · rw [h1, h2]
      · rw [h1, apply_phase_self] at hphase1
        rw [apply_phase_other s e h2] at hphase2
        rw [(hreclaims hphase1).2 c2 h2 hlive2] at hphase2
        cases hphase2
    · rw [apply_phase_other s e h1] at hphase1
      by_cases h2 : c2 = c
      · rw [h2, apply_phase_self] at hphase2
        rw [(hreclaims hphase2).2 c1 h1 hlive1] at hphase1
        cases hphase1
      · rw [apply_phase_other s e h2] at hphase2
        exact h.single c1 c2 hlive1 hlive2 hphase1 hphase2

/-- A phase outside the lock. -/
structure Phase.Quiet (phase : Phase) : Prop where
  owns : phase.owns = false
  reclaims : phase.reclaims = false

variable {phase : Phase}

theorem Phase.Quiet.not_holding (h : phase.Quiet) (token : ℕ) : phase ≠ .holding token := by
  rintro rfl
  cases h.owns

theorem Phase.Quiet.not_releasing (h : phase.Quiet) (token : ℕ) : phase ≠ .releasing token := by
  rintro rfl
  cases h.owns

theorem Guarded.quiet (h : Guarded pidOf s) (hc : s.Live pidOf c)
    (htitle : e.dir.map LockDir.title = s.dir.map LockDir.title) (hquiet : e.phase.Quiet) :
    Guarded pidOf (s.apply c e) :=
  h.kept hc htitle (fun howns => absurd (hquiet.owns.symm.trans howns) (by simp))
    (fun token hphase => absurd hphase (hquiet.not_holding token))
    (fun token hphase => absurd hphase (hquiet.not_releasing token))
    (fun hreclaims => absurd (hquiet.reclaims.symm.trans hreclaims) (by simp))

/-- An owner that neither holds nor releases. -/
theorem Guarded.owning (h : Guarded pidOf s) (hc : s.Live pidOf c)
    (htitle : e.dir.map LockDir.title = s.dir.map LockDir.title)
    (howns : (s.phase c).owns = true) (hholds : ∀ token, e.phase ≠ .holding token)
    (hreleases : ∀ token, e.phase ≠ .releasing token) (hreclaims : e.phase.reclaims = false) :
    Guarded pidOf (s.apply c e) :=
  h.kept hc htitle (fun _ => howns) (fun token hphase => absurd hphase (hholds token))
    (fun token hphase => absurd hphase (hreleases token))
    (fun htrue => absurd (hreclaims.symm.trans htrue) (by simp))

theorem Guarded.mkdir (h : Guarded pidOf s) (hdir : s.dir = none) (fresh : ℕ) :
    Guarded pidOf (s.apply c ⟨.made, some ⟨c, none, none, []⟩, fresh⟩) := by
  have howned : ∀ c', s.Live pidOf c' → (s.phase c').owns = false := by
    intro c' hlive
    by_contra howns
    obtain ⟨dir, hsome, _⟩ := h.owned c' hlive (eq_true_of_ne_false howns)
    rw [hdir] at hsome
    cases hsome
  have hdead : ∀ c', s.Live pidOf c' → (s.phase c').reclaims = false := by
    intro c' hlive
    by_contra hreclaims
    obtain ⟨dir, hsome, _⟩ := h.dead c' hlive (eq_true_of_ne_false hreclaims)
    rw [hdir] at hsome
    cases hsome
  have hphase : ∀ c', s.Live pidOf c' → c' ≠ c →
      ((s.apply c ⟨.made, some ⟨c, none, none, []⟩, fresh⟩).phase c').Quiet := fun c' hlive hne => by
    rw [apply_phase_other s _ hne]
    exact ⟨howned c' hlive, hdead c' hlive⟩
  constructor
  · intro c' hlive howns
    by_cases hsame : c' = c
    · exact ⟨_, rfl, hsame.symm⟩
    · rw [(hphase c' hlive hsame).owns] at howns
      cases howns
  · intro dir receipt hsome howner
    cases hsome
    cases howner
  · intro c' token hlive hholding
    by_cases hsame : c' = c
    · rw [hsame, apply_phase_self] at hholding
      cases hholding
    · exact absurd hholding ((hphase c' hlive hsame).not_holding token)
  · intro c' token hlive hreleasing
    exact .inl rfl
  · intro c' hlive hreclaims
    by_cases hsame : c' = c
    · rw [hsame, apply_phase_self] at hreclaims
      cases hreclaims
    · rw [(hphase c' hlive hsame).reclaims] at hreclaims
      cases hreclaims
  · intro c1 c2 hlive1 hlive2 hreclaims1 hreclaims2
    by_cases hsame : c1 = c
    · rw [hsame, apply_phase_self] at hreclaims1
      cases hreclaims1
    · rw [(hphase c1 hlive1 hsame).reclaims] at hreclaims1
      cases hreclaims1

theorem Guarded.alone (h : Guarded pidOf s) (hc : s.Live pidOf c)
    (hinside : (s.phase c).owns = true ∨ (s.phase c).reclaims = true) {c' : Caller}
    (hlive : s.Live pidOf c') (hne : c' ≠ c) : (s.phase c').Quiet := by
  have hconflict : ∀ {c1 c2}, s.Live pidOf c1 → s.Live pidOf c2 → (s.phase c1).owns = true →
      (s.phase c2).reclaims = true → False := by
    intro c1 c2 hlive1 hlive2 howns hreclaims
    obtain ⟨dir, hdir, hmaker⟩ := h.owned c1 hlive1 howns
    obtain ⟨dir', hdir', hdead⟩ := h.dead c2 hlive2 hreclaims
    rw [hdir, Option.some.injEq] at hdir'
    rw [← hdir', hmaker] at hdead
    exact absurd (hlive1.symm.trans hdead) (by simp)
  constructor
  · by_contra howns
    have howns := eq_true_of_ne_false howns
    rcases hinside with hown | hreclaim
    · obtain ⟨dir, hdir, hmaker⟩ := h.owned c hc hown
      obtain ⟨dir', hdir', hmaker'⟩ := h.owned c' hlive howns
      rw [hdir, Option.some.injEq] at hdir'
      exact hne (hmaker'.symm.trans (hdir' ▸ hmaker))
    · exact hconflict hlive hc howns hreclaim
  · by_contra hreclaims
    have hreclaims := eq_true_of_ne_false hreclaims
    rcases hinside with hown | hreclaim
    · exact hconflict hc hlive hown hreclaims
    · exact hne (h.single c' c hlive hc hreclaims hreclaim)

theorem Guarded.rework (h : Guarded pidOf s) (hc : s.Live pidOf c)
    (hinside : (s.phase c).owns = true ∨ (s.phase c).reclaims = true)
    (howns : e.phase.owns = true → ∃ dir, e.dir = some dir ∧ dir.maker = c)
    (hnamed : ∀ dir receipt, e.dir = some dir → dir.owner = some receipt → receipt.pid = pidOf dir.maker)
    (hholds : ∀ token, e.phase = .holding token → e.dir.bind LockDir.owner = some ⟨pidOf c, token⟩)
    (hreleases : ∀ token, e.phase = .releasing token → e.dir.bind LockDir.owner = none ∨
      e.dir.bind LockDir.owner = some ⟨pidOf c, token⟩)
    (hdead : e.phase.reclaims = true → ∃ dir, e.dir = some dir ∧ s.alive (pidOf dir.maker) = false) :
    Guarded pidOf (s.apply c e) := by
  have hother : ∀ c', s.Live pidOf c' → c' ≠ c → ((s.apply c e).phase c').Quiet :=
    fun c' hlive hne => by
      rw [apply_phase_other s e hne]
      exact h.alone hc hinside hlive hne
  constructor
  · intro c' hlive howned
    by_cases hsame : c' = c
    · rw [hsame, apply_phase_self] at howned
      rw [hsame]
      exact howns howned
    · rw [(hother c' hlive hsame).owns] at howned
      cases howned
  · exact hnamed
  · intro c' token hlive hphase
    by_cases hsame : c' = c
    · rw [hsame, apply_phase_self] at hphase
      rw [hsame]
      exact hholds token hphase
    · exact absurd hphase ((hother c' hlive hsame).not_holding token)
  · intro c' token hlive hphase
    by_cases hsame : c' = c
    · rw [hsame, apply_phase_self] at hphase
      rw [hsame]
      exact hreleases token hphase
    · exact absurd hphase ((hother c' hlive hsame).not_releasing token)
  · intro c' hlive hphase
    by_cases hsame : c' = c
    · rw [hsame, apply_phase_self] at hphase
      exact hdead hphase
    · rw [(hother c' hlive hsame).reclaims] at hphase
      cases hphase
  · intro c1 c2 hlive1 hlive2 hphase1 hphase2
    by_cases h1 : c1 = c
    · by_cases h2 : c2 = c
      · rw [h1, h2]
      · rw [(hother c2 hlive2 h2).reclaims] at hphase2
        cases hphase2
    · rw [(hother c1 hlive1 h1).reclaims] at hphase1
      cases hphase1

theorem inside_of_afterRemoval {phase after : Phase} (h : phase.afterRemoval = some after) :
    (phase.owns = true ∨ phase.reclaims = true) ∧ after.Quiet := by
  unfold Phase.afterRemoval at h
  split at h
  · cases h
    exact ⟨.inl rfl, rfl, rfl⟩
  · cases h
    exact ⟨.inl rfl, rfl, rfl⟩
  · cases h
    exact ⟨.inr rfl, rfl, rfl⟩
  · cases h

theorem unlink_title (dir : LockDir) {entry : Entry} (h : entry ≠ .owner) : (dir.unlink entry).title = dir.title := by
  cases entry with
  | owner => exact absurd rfl h
  | marker => rfl
  | temp name => rfl

theorem map_unlink_title (dir : Option LockDir) {entry : Entry} (h : entry ≠ .owner) :
    (dir.map fun dir => dir.unlink entry).map LockDir.title = dir.map LockDir.title := by
  cases dir with
  | none => rfl
  | some dir => exact congrArg some (unlink_title dir h)

theorem unlink_maker (dir : LockDir) (entry : Entry) : (dir.unlink entry).maker = dir.maker := by
  cases entry <;> rfl

theorem unlink_owner (dir : LockDir) (entry : Entry) :
    (dir.unlink entry).owner = dir.owner ∨ (dir.unlink entry).owner = none := by
  cases entry with
  | owner => exact .inr rfl
  | marker => exact .inl rfl
  | temp name => exact .inl rfl

theorem Guarded.unlink (h : Guarded pidOf s) (hc : s.Live pidOf c) {after : Phase}
    (hremoves : (s.phase c).afterRemoval = some after) (entry : Entry) :
    Guarded pidOf (s.apply c ⟨s.phase c, s.dir.map fun dir => dir.unlink entry, s.fresh⟩) := by
  have hreceipt : (s.dir.map fun dir => dir.unlink entry).bind LockDir.owner = s.receipt ∨
      (s.dir.map fun dir => dir.unlink entry).bind LockDir.owner = none := by
    unfold State.receipt
    cases s.dir with
    | none => exact .inl rfl
    | some dir => exact unlink_owner dir entry
  have hdir : ∀ {dir}, s.dir = some dir → (s.dir.map fun dir => dir.unlink entry) =
      some (dir.unlink entry) := fun hsome => by rw [hsome]; rfl
  apply h.rework hc (inside_of_afterRemoval hremoves).1
  · intro howns
    obtain ⟨dir, hsome, hmaker⟩ := h.owned c hc howns
    exact ⟨_, hdir hsome, (unlink_maker dir entry).trans hmaker⟩
  · intro dir receipt hsome howner
    obtain ⟨dir', hsome', rfl⟩ := Option.map_eq_some_iff.1 hsome
    rw [unlink_maker]
    rcases unlink_owner dir' entry with hsame | hnone
    · exact h.named dir' receipt hsome' (hsame ▸ howner)
    · rw [hnone] at howner
      cases howner
  · intro token hphase
    have hphase : s.phase c = .holding token := hphase
    rw [hphase] at hremoves
    cases hremoves
  · intro token hphase
    rcases hreceipt with hsame | hnone
    · rw [hsame]
      exact h.released c token hc hphase
    · exact .inl hnone
  · intro hreclaims
    obtain ⟨dir, hsome, hdead⟩ := h.dead c hc hreclaims
    refine ⟨_, hdir hsome, ?_⟩
    rw [unlink_maker]
    exact hdead

theorem Guarded.rmdir (h : Guarded pidOf s) (hc : s.Live pidOf c) {after : Phase}
    (hremoves : (s.phase c).afterRemoval = some after) : Guarded pidOf (s.apply c ⟨after, none, s.fresh⟩) := by
  obtain ⟨hinside, hquiet⟩ := inside_of_afterRemoval hremoves
  apply h.rework hc hinside
  · exact fun howns => absurd (hquiet.owns.symm.trans howns) (by simp)
  · exact fun _ _ hsome => by cases hsome
  · exact fun token hphase => absurd hphase (hquiet.not_holding token)
  · exact fun token hphase => absurd hphase (hquiet.not_releasing token)
  · exact fun hreclaims => absurd (hquiet.reclaims.symm.trans hreclaims) (by simp)

theorem Guarded.rename (h : Guarded pidOf s) (hc : s.Live pidOf c) {token : ℕ} {dir : LockDir}
    (hphase : s.phase c = .written token) (hdir : s.dir = some dir) (fresh : ℕ) :
    Guarded pidOf (s.apply c ⟨.holding token, some { dir with
      owner := some ⟨pidOf c, token⟩, temps := dir.temps.erase token }, fresh⟩) := by
  have howns : (s.phase c).owns = true := by rw [hphase]; rfl
  obtain ⟨dir', hdir', hmaker⟩ := h.owned c hc howns
  rw [hdir, Option.some.injEq] at hdir'
  rw [← hdir'] at hmaker
  apply h.rework hc (.inl howns)
  · exact fun _ => ⟨_, rfl, hmaker⟩
  · intro other receipt hother howner
    cases hother
    cases howner
    exact congrArg pidOf hmaker.symm
  · intro other hother
    cases hother
    rfl
  · exact nofun
  · exact nofun

/-- The marker and the temp files of a reclaim. -/
theorem Guarded.link (h : Guarded pidOf s) (hc : s.Live pidOf c) (receipt : OwnerReceipt)
    (temp : ℕ) (hquiet : phase.Quiet) : Guarded pidOf (s.apply c (s.link pidOf c receipt temp phase)) := by
  unfold State.link
  cases hdir : s.dir with
  | none => exact h.quiet hc rfl ⟨rfl, rfl⟩
  | some dir =>
    dsimp only
    by_cases htemp : temp ∉ dir.temps
    · rw [if_pos htemp]
      exact h.quiet hc rfl ⟨rfl, rfl⟩
    · rw [if_neg htemp]
      cases hmarker : dir.marker with
      | none =>
        have htitle : (some { dir with marker := some (pidOf c) }).map LockDir.title =
            s.dir.map LockDir.title := by
          rw [hdir]
          rfl
        exact h.quiet (e := ⟨.checking receipt, _, s.fresh⟩) hc htitle ⟨rfl, rfl⟩
      | some _ => exact h.quiet (e := s.goes phase) hc rfl hquiet

theorem confirms_iff {receipt : OwnerReceipt} : s.confirms receipt = true ↔
    ∃ current, s.receipt = some current ∧ current.token = receipt.token ∧ s.alive current.pid = false := by
  unfold State.confirms
  cases s.receipt with
  | none => simp
  | some current => simp

theorem proceed_guarded (h : Guarded pidOf s) (hc : s.Live pidOf c) (hserial : Serial pidOf s (c, .proceed)) :
    Guarded pidOf (s.apply c (proceed pidOf s c (s.phase c))) := by
  have hgoes : ∀ {phase : Phase}, phase.Quiet → Guarded pidOf (s.apply c (s.goes phase)) :=
    fun hquiet => h.quiet hc rfl hquiet
  cases hphase : s.phase c with
  | idle => exact hgoes ⟨rfl, rfl⟩
  | wanting =>
    unfold proceed
    cases hdir : s.dir with
    | none => exact h.mkdir hdir s.fresh
    | some dir => exact hgoes ⟨rfl, rfl⟩
  | made =>
    unfold proceed
    cases hdir : s.dir with
    | none => exact hgoes ⟨rfl, rfl⟩
    | some dir =>
      apply h.owning hc
      · rw [hdir]
        rfl
      · rw [hphase]
        rfl
      · exact fun token hholding => by cases hholding
      · exact fun token hreleasing => by cases hreleasing
      · rfl
  | written token =>
    have hleaves : Guarded pidOf (s.apply c (s.goes .abandoning)) :=
      h.owning hc rfl (by rw [hphase]; rfl) (fun _ hother => by cases hother)
        (fun _ hother => by cases hother) rfl
    unfold proceed
    cases hdir : s.dir with
    | none => exact hleaves
    | some dir =>
      dsimp only
      by_cases htemp : token ∉ dir.temps
      · rw [if_pos htemp]
        exact hleaves
      · rw [if_neg htemp]
        exact h.rename hc hphase hdir s.fresh
  | holding token =>
    unfold proceed
    dsimp only
    split_ifs
    · apply h.kept hc rfl
      · exact fun _ => by rw [hphase]; rfl
      · exact fun _ hother => by cases hother
      · intro other hother
        cases hother
        exact .inr (h.held c token hc hphase)
      · exact fun hreclaims => by cases hreclaims
    · exact hgoes ⟨rfl, rfl⟩
  | releasing token =>
    apply h.kept hc rfl
    · exact fun _ => by rw [hphase]; rfl
    · exact fun _ hother => by cases hother
    · intro other hother
      cases hother
      exact h.released c token hc hphase
    · exact fun hreclaims => by cases hreclaims
  | abandoning =>
    exact h.owning hc rfl (by rw [hphase]; rfl) (fun _ hother => by cases hother)
      (fun _ hother => by cases hother) rfl
  | blocked =>
    unfold proceed
    cases s.receipt with
    | none => exact hgoes ⟨rfl, rfl⟩
    | some receipt => exact hgoes ⟨rfl, rfl⟩
  | judging receipt =>
    unfold proceed
    dsimp only
    split_ifs
    · exact hgoes ⟨rfl, rfl⟩
    · exact hgoes ⟨rfl, rfl⟩
  | found receipt =>
    unfold proceed
    cases hdir : s.dir with
    | none => exact hgoes ⟨rfl, rfl⟩
    | some dir => exact h.quiet hc (by rw [hdir]; rfl) ⟨rfl, rfl⟩
  | marking receipt temp => exact h.link hc receipt temp ⟨rfl, rfl⟩
  | contested receipt temp =>
    unfold proceed
    cases s.dir.bind LockDir.marker with
    | none => exact hgoes ⟨rfl, rfl⟩
    | some pid => exact hgoes ⟨rfl, rfl⟩
  | doubting receipt temp pid =>
    unfold proceed
    dsimp only
    split_ifs
    · exact hgoes ⟨rfl, rfl⟩
    · exact hgoes ⟨rfl, rfl⟩
  | clearing receipt temp => exact h.quiet hc (map_unlink_title s.dir (by simp)) ⟨rfl, rfl⟩
  | relinking receipt temp => exact h.link hc receipt temp ⟨rfl, rfl⟩
  | dropping temp => exact h.quiet hc (map_unlink_title s.dir (by simp)) ⟨rfl, rfl⟩
  | checking receipt =>
    unfold proceed
    dsimp only
    by_cases hconfirms : s.confirms receipt = true
    · rw [if_pos hconfirms]
      obtain ⟨current, hcurrent, _, hdead⟩ := confirms_iff.1 hconfirms
      obtain ⟨dir, hdir, howner⟩ := Option.bind_eq_some_iff.1 hcurrent
      apply h.kept hc rfl
      · exact fun howns => by cases howns
      · exact fun _ hother => by cases hother
      · exact fun _ hother => by cases hother
      · refine fun _ => ⟨⟨dir, hdir, ?_⟩, fun c' _ hlive => hserial receipt hphase rfl hconfirms c' hlive⟩
        rw [← h.named dir current hdir howner]
        exact hdead
    · rw [if_neg hconfirms]
      exact hgoes ⟨rfl, rfl⟩
  | removing receipt =>
    apply h.kept hc rfl
    · exact fun howns => by cases howns
    · exact fun _ hother => by cases hother
    · exact fun _ hother => by cases hother
    · refine fun _ => ⟨h.dead c hc (by rw [hphase]; rfl), fun c' hne hlive => ?_⟩
      exact (h.alone hc (.inr (by rw [hphase]; rfl)) hlive hne).reclaims
  | unmarking => exact h.quiet hc (map_unlink_title s.dir (by simp)) ⟨rfl, rfl⟩

theorem operate_guarded (h : Guarded pidOf s) (hc : s.Live pidOf c) {move : Move}
    (hserial : Serial pidOf s (c, move)) (he : operate pidOf s c move = .ok e) : Guarded pidOf (s.apply c e) := by
  cases move with
  | proceed =>
    cases he
    exact proceed_guarded h hc hserial
  | fails =>
    unfold operate at he
    dsimp only at he
    split at he
    · cases he
      exact h.quiet hc rfl ⟨rfl, rfl⟩
    · next token hphase =>
        cases he
        exact h.owning hc rfl (by rw [hphase]; rfl) (fun _ hother => by cases hother)
          (fun _ hother => by cases hother) rfl
    · next after hafter _ _ =>
        cases he
        exact h.quiet hc rfl (inside_of_afterRemoval hafter).2
    · cases he
  | unlink entry =>
    unfold operate at he
    dsimp only at he
    split at he
    · cases he
    · next after hafter =>
        cases he
        exact h.unlink hc hafter entry
  | rmdir =>
    unfold operate at he
    dsimp only at he
    split at he
    · cases he
    · next after hafter =>
        split_ifs at he
        cases he
        exact h.rmdir hc hafter
  | die => cases he

theorem step_guarded {i : Caller × Move} {t : State} (h : Guarded pidOf s)
    (hserial : Serial pidOf s i) (hstep : step pidOf s i = .ok t) : Guarded pidOf t := by
  obtain ⟨c, move⟩ := i
  by_cases hdie : move = .die
  · subst hdie
    cases hstep
    exact h.die (pidOf c)
  · have hmove : step pidOf s (c, move) = if s.alive (pidOf c) = false then .error ()
        else (operate pidOf s c move).map (s.apply c) := by
      cases move with
      | die => exact absurd rfl hdie
      | _ => rfl
    rw [hmove] at hstep
    split_ifs at hstep with hdead
    cases he : operate pidOf s c move with
    | error e =>
      rw [he] at hstep
      cases hstep
    | ok e =>
      rw [he] at hstep
      cases hstep
      exact operate_guarded h (eq_true_of_ne_false hdead) hserial he

/-- In every run whose reclaims remove one at a time, the lock has one live owner, a release removes a
directory that still names its caller, and a reclaim removes the directory of a dead owner. -/
theorem lock_excludes (pidOf : Caller → ℕ) (moves : List (Caller × Move))
    (h : Along (step pidOf) (Serial pidOf) State.initial moves) :
    let s := run (step pidOf) State.initial moves
    (∀ c c' token token', s.Live pidOf c → s.Live pidOf c' → s.phase c = .holding token →
        s.phase c' = .holding token' → c = c') ∧
      (∀ c token, s.Live pidOf c → s.phase c = .releasing token → ∃ dir, s.dir = some dir ∧
        dir.maker = c ∧ (dir.owner = none ∨ dir.owner = some ⟨pidOf c, token⟩)) ∧
      ∀ c receipt, s.Live pidOf c → s.phase c = .removing receipt → ∃ dir, s.dir = some dir ∧
        s.alive (pidOf dir.maker) = false ∧ (∀ current, dir.owner = some current → s.alive current.pid = false) ∧
        ∀ c', s.Live pidOf c' → (s.phase c').owns = false := by
  intro s
  have hguarded : Guarded pidOf s :=
    (run_relates (R := fun _ _ => True) (fun _ _ => trivial) (fun _ _ _ _ _ => trivial)
      (fun _ _ _ hinv hmeets hstep => ⟨step_guarded hinv hmeets hstep, trivial⟩)
      (initial_guarded pidOf) h).1
  refine ⟨fun c c' token token' hlive hlive' hphase hphase' => ?_, fun c token hlive hphase => ?_,
    fun c receipt hlive hphase => ?_⟩
  · obtain ⟨dir, hdir, hmaker⟩ := hguarded.owned c hlive (by rw [hphase]; rfl)
    obtain ⟨dir', hdir', hmaker'⟩ := hguarded.owned c' hlive' (by rw [hphase']; rfl)
    rw [hdir, Option.some.injEq] at hdir'
    rw [← hmaker, ← hmaker', hdir']
  · obtain ⟨dir, hdir, hmaker⟩ := hguarded.owned c hlive (by rw [hphase]; rfl)
    have howner := hguarded.released c token hlive hphase
    unfold State.receipt at howner
    rw [hdir] at howner
    exact ⟨dir, hdir, hmaker, howner⟩
  · have hreclaims : (s.phase c).reclaims = true := by rw [hphase]; rfl
    obtain ⟨dir, hdir, hdead⟩ := hguarded.dead c hlive hreclaims
    refine ⟨dir, hdir, hdead, fun current howner => ?_, fun c' hlive' => ?_⟩
    · rw [hguarded.named dir current hdir howner]
      exact hdead
    · by_cases hsame : c' = c
      · rw [hsame, hphase]
        rfl
      · exact (hguarded.alone hlive (.inr hreclaims) hlive' hsame).owns

end Exclusion

section Samples

def Outside (c : Caller) (s : State) : Prop := s.phase c = .idle

/-- A caller without moves stays outside. -/
theorem run_untouched {pidOf : Caller → ℕ} {moves : List (Caller × Move)} {c : Caller}
    (h : ∀ i ∈ moves, i.1 ≠ c) : (run (step pidOf) State.initial moves).phase c = .idle := by
  have hkeeps : ∀ i ∈ moves, ∀ s t : State, Outside c s → step pidOf s i = .ok t → Outside c t := by
    intro i hi s t hs hstep
    obtain ⟨c', move⟩ := i
    have hother : c ≠ c' := (h _ hi).symm
    have hkept : ∀ e, (s.apply c' e).phase c = .idle := fun e =>
      (apply_phase_other s e hother).trans hs
    unfold step at hstep
    split at hstep
    · cases hstep
      exact hs
    · next caller move _ heq =>
        cases heq
        split_ifs at hstep
        cases he : operate pidOf s c' move with
        | error e =>
          rw [he] at hstep
          cases hstep
        | ok e =>
          rw [he] at hstep
          cases hstep
          exact hkept e
  have hrun : Outside c (run (step pidOf) State.initial moves) := run_preserves moves rfl hkeeps
  exact hrun

def proceeds (c : Caller) (n : ℕ) : List (Caller × Move) := List.replicate n (c, .proceed)

/-- Caller 0 acquires the lock and its process dies. -/
def deadOwner : List (Caller × Move) := proceeds 0 4 ++ [((0 : Caller), Move.die)]

/-- Caller 1 reclaims the lock of the dead owner, and caller 2 acquires it. -/
def reclaimedMoves : List (Caller × Move) :=
  deadOwner ++ proceeds 1 7 ++
    [((1 : Caller), Move.unlink .owner), (1, .unlink .marker), (1, .unlink (.temp 1)), (1, .rmdir)] ++
    proceeds 2 4

/-- No move of the list is a check under the marker. -/
def unchecked (pidOf : Caller → ℕ) : State → List (Caller × Move) → Bool
  | _, [] => true
  | s, i :: moves =>
    (match s.phase i.1 with
      | .checking _ => false
      | _ => true) && unchecked pidOf (attempt (step pidOf) s i) moves

theorem along_of_unchecked {pidOf : Caller → ℕ} {s : State} {moves : List (Caller × Move)}
    (h : unchecked pidOf s moves = true) : Along (step pidOf) (Serial pidOf) s moves := by
  induction moves generalizing s with
  | nil => trivial
  | cons i moves ih =>
    unfold unchecked at h
    rw [Bool.and_eq_true] at h
    refine ⟨fun receipt hphase => ?_, ih h.2⟩
    rw [hphase] at h
    cases h.1

theorem reclaimedMoves_serial : Along (step id) (Serial id) State.initial reclaimedMoves := by
  have hcheck : Serial id (run (step id) State.initial (deadOwner ++ proceeds 1 6)) (1, .proceed) := by
    intro receipt _ _ _ c _
    by_cases h0 : c = 0
    · subst h0
      rfl
    · by_cases h1 : c = 1
      · subst h1
        rfl
      · rw [run_untouched]
        · rfl
        · intro i hi
          have hcallers : ∀ i ∈ deadOwner ++ proceeds 1 6, i.1 = 0 ∨ i.1 = 1 := by decide
          rcases hcallers i hi with hi | hi
          · exact fun heq => h0 (heq.symm.trans hi)
          · exact fun heq => h1 (heq.symm.trans hi)
  have hsplit : reclaimedMoves = (deadOwner ++ proceeds 1 6) ++ ((1, .proceed) ::
      ([((1 : Caller), Move.unlink .owner), (1, .unlink .marker), (1, .unlink (.temp 1)), (1, .rmdir)] ++
        proceeds 2 4)) := rfl
  rw [hsplit, along_append]
  exact ⟨along_of_unchecked (by rfl), hcheck, along_of_unchecked (by rfl)⟩

theorem lock_excludes_reclaimed :
    let s := run (step id) State.initial reclaimedMoves
    s.phase 2 = .holding 2 ∧ ∀ c token, s.Live id c → s.phase c = .holding token → c = 2 := by
  intro s
  have hholds : s.phase 2 = .holding 2 := by rfl
  have hlive : s.alive 2 = true := by rfl
  exact ⟨hholds, fun c token hc hphase =>
    (lock_excludes id reclaimedMoves reclaimedMoves_serial).1 c 2 token 2 hc hlive hphase hholds⟩

/-- A reclaim dies under its marker. Callers 2 and 3 both find the marker stale, so both remove the lock
of the dead owner, and the second removal hits the lock that caller 4 acquired in between. -/
def racedMoves : List (Caller × Move) :=
  deadOwner ++ proceeds 1 6 ++ [((1 : Caller), Move.die)] ++ proceeds 2 8 ++ proceeds 3 11 ++ proceeds 2 3 ++
    [((2 : Caller), Move.unlink .marker), (2, .unlink .owner), (2, .unlink (.temp 1)),
      (2, .unlink (.temp 2)), (2, .unlink (.temp 3)), (2, .rmdir)] ++ proceeds 4 4 ++
    [((3 : Caller), Move.unlink .owner), (3, .rmdir)] ++ proceeds 5 4

theorem two_owners : ¬ ∀ (pidOf : Caller → ℕ) (moves : List (Caller × Move)) (c c' : Caller) (token token' : ℕ),
    let s := run (step pidOf) State.initial moves
    s.Live pidOf c → s.Live pidOf c' → s.phase c = .holding token → s.phase c' = .holding token' → c = c' := by
  intro h
  have hrun : let s := run (step id) State.initial racedMoves
      s.alive 4 = true ∧ s.alive 5 = true ∧ s.phase 4 = .holding 4 ∧ s.phase 5 = .holding 5 := by
    decide +kernel
  have hclaim := h id racedMoves 4 5 4 5
  dsimp only at hclaim hrun
  generalize run (step id) State.initial racedMoves = s at hclaim hrun
  obtain ⟨hlive, hlive', hphase, hphase'⟩ := hrun
  cases hclaim hlive hlive' hphase hphase'

end Samples

end WorkflowFileLock
