import Mathlib.Logic.Function.Basic
import Mathlib.Data.List.Nodup

/-!
# Logs that grow by conditional writes

A write creates the log of a key, or appends one entry to it at the length it expects. In a valid history
every write found what it expects, from the given logs on. The appends of a key then have the positions of
their entries, so two appends with one expected length are the same append.
-/

namespace AppendLog

variable {κ ε : Type*} [DecidableEq κ]

inductive Write (κ ε : Type*) where
  | create (key : κ)
  | append (key : κ) (expected : ℕ) (entry : ε)

def Write.key : Write κ ε → κ
  | .create key | .append key _ _ => key

def Write.expected : Write κ ε → Option ℕ
  | .create _ => none
  | .append _ expected _ => some expected

def Write.entry : Write κ ε → Option ε
  | .create _ => none
  | .append _ _ entry => some entry

def Write.log (write : Write κ ε) (log : Option (List ε)) : List ε :=
  log.getD [] ++ write.entry.toList

def perform (logs : κ → Option (List ε)) (write : Write κ ε) : κ → Option (List ε) :=
  Function.update logs write.key (some (write.log (logs write.key)))

def logsOf (base : κ → Option (List ε)) (history : List (Write κ ε)) : κ → Option (List ε) :=
  history.foldl perform base

/-- The length that the write expects. -/
def Write.Fits (logs : κ → Option (List ε)) (write : Write κ ε) : Prop :=
  (logs write.key).map List.length = write.expected

inductive Valid (base : κ → Option (List ε)) : List (Write κ ε) → Prop
  | nil : Valid base []
  | snoc {history : List (Write κ ε)} {write : Write κ ε} :
      Valid base history → write.Fits (logsOf base history) → Valid base (history ++ [write])

variable {history : List (Write κ ε)} {write : Write κ ε} {base logs : κ → Option (List ε)} {key : κ}

theorem logsOf_snoc (base : κ → Option (List ε)) (history : List (Write κ ε)) (write : Write κ ε) :
    logsOf base (history ++ [write]) = perform (logsOf base history) write := by
  simp only [logsOf, List.foldl_append, List.foldl_cons, List.foldl_nil]

theorem perform_key (logs : κ → Option (List ε)) (write : Write κ ε) :
    perform logs write write.key = some (write.log (logs write.key)) := Function.update_self ..

theorem perform_other (h : key ≠ write.key) : perform logs write key = logs key := Function.update_of_ne h _ _

variable {expected : ℕ}

theorem perform_append {log : List ε} {entry : ε} (h : logs key = some log) :
    perform logs (.append key expected entry) key = some (log ++ [entry]) := by
  have hkey := perform_key logs (Write.append key expected entry)
  simpa [Write.key, Write.log, Write.entry, h] using hkey

theorem perform_create (h : logs key = none) : perform logs (.create key) key = some [] := by
  have hkey := perform_key logs (Write.create key)
  simpa [Write.key, Write.log, Write.entry, h] using hkey

theorem perform_prefix (write : Write κ ε) {log : List ε} (h : logs key = some log) :
    ∃ more, perform logs write key = some more ∧ log <+: more := by
  by_cases hkey : key = write.key
  · subst hkey
    refine ⟨_, perform_key logs write, ?_⟩
    rw [h]
    exact List.prefix_append log _
  · exact ⟨log, (perform_other hkey).trans h, List.prefix_rfl⟩

theorem Valid.fits (h : Valid base (history ++ [write])) : write.Fits (logsOf base history) := by
  generalize hwhole : history ++ [write] = whole at h
  cases h with
  | nil => simp at hwhole
  | snoc _ hfits =>
    obtain ⟨rfl, hlast⟩ := List.append_inj' hwhole rfl
    rw [List.singleton_inj] at hlast
    rw [hlast]
    exact hfits

section Entries

variable {δ : Type*} (f : ε → δ)

def Write.mapEntry : Write κ ε → Write κ δ
  | .create key => .create key
  | .append key expected entry => .append key expected (f entry)

/-- The logs with another form of their entries. -/
def mapLogs (logs : κ → Option (List ε)) : κ → Option (List δ) := fun key => (logs key).map (List.map f)

omit [DecidableEq κ] in
@[simp] theorem Write.mapEntry_key (write : Write κ ε) : (write.mapEntry f).key = write.key := by
  cases write <;> rfl

omit [DecidableEq κ] in
@[simp] theorem Write.mapEntry_expected (write : Write κ ε) : (write.mapEntry f).expected = write.expected := by
  cases write <;> rfl

omit [DecidableEq κ] in
theorem mapEntry_fits : (write.mapEntry f).Fits (mapLogs f logs) ↔ write.Fits logs := by
  unfold Write.Fits mapLogs
  rw [Write.mapEntry_key, Write.mapEntry_expected, Option.map_map]
  have hlength : List.length ∘ List.map f = List.length := by
    funext log
    simp
  rw [hlength]

theorem mapLogs_perform : mapLogs f (perform logs write) = perform (mapLogs f logs) (write.mapEntry f) := by
  funext key
  by_cases hkey : key = write.key
  · subst hkey
    have hkey := Write.mapEntry_key f write
    conv_rhs => rw [← hkey, perform_key, hkey]
    unfold mapLogs
    rw [perform_key, Option.map_some]
    cases logs write.key <;> cases write <;> simp [Write.log, Write.entry, Write.mapEntry]
  · rw [perform_other (by rwa [Write.mapEntry_key])]
    unfold mapLogs
    rw [perform_other hkey]

end Entries

theorem Valid.entry_at (h : Valid base history) {entry : ε} (hmem : Write.append key expected entry ∈ history) :
    ∃ log, logsOf base history key = some log ∧ log[expected]? = some entry := by
  induction h with
  | nil => cases hmem
  | @snoc history write _ hfits ih =>
    rw [logsOf_snoc]
    rcases List.mem_append.1 hmem with hold | hnew
    · obtain ⟨log, hlog, hentry⟩ := ih hold
      obtain ⟨more, hmore, hprefix⟩ := perform_prefix write hlog
      refine ⟨more, hmore, ?_⟩
      obtain ⟨rest, rfl⟩ := hprefix
      rw [List.getElem?_append_left (List.getElem?_eq_some_iff.1 hentry).1]
      exact hentry
    · cases List.mem_singleton.1 hnew
      obtain ⟨log, hlog, hlength⟩ := Option.map_eq_some_iff.1 hfits
      refine ⟨_, perform_append hlog, ?_⟩
      rw [← hlength, List.getElem?_concat_length]

theorem Valid.append_unique (h : Valid base history) {entry entry' : ε}
    (hmem : Write.append key expected entry ∈ history)
    (hmem' : Write.append key expected entry' ∈ history) : entry = entry' := by
  obtain ⟨log, hlog, hentry⟩ := h.entry_at hmem
  obtain ⟨log', hlog', hentry'⟩ := h.entry_at hmem'
  rw [hlog] at hlog'
  rw [Option.some.inj hlog', hentry'] at hentry
  exact (Option.some.inj hentry).symm

theorem Valid.created (h : Valid base history) (hmem : Write.create key ∈ history) :
    (logsOf base history key).isSome = true := by
  induction h with
  | nil => cases hmem
  | @snoc history write _ hfits ih =>
    rw [logsOf_snoc]
    rcases List.mem_append.1 hmem with hold | hnew
    · obtain ⟨log, hlog⟩ := Option.isSome_iff_exists.1 (ih hold)
      obtain ⟨more, hmore, _⟩ := perform_prefix write hlog
      rw [hmore]
      rfl
    · cases List.mem_singleton.1 hnew
      have hnone : logsOf base history key = none := Option.map_eq_none_iff.1 hfits
      rw [perform_create hnone]
      rfl

/-- No write takes effect twice. -/
theorem Valid.nodup (h : Valid base history) : history.Nodup := by
  induction h with
  | nil => exact List.nodup_nil
  | @snoc history write hvalid hfits ih =>
    refine List.nodup_append.2 ⟨ih, List.nodup_singleton write, fun old hold new hnew heq => ?_⟩
    rw [List.mem_singleton.1 hnew] at heq
    subst heq
    cases old with
    | create key =>
      have hsome := hvalid.created hold
      have hnone : logsOf base history key = none := Option.map_eq_none_iff.1 hfits
      rw [hnone] at hsome
      cases hsome
    | append key expected entry =>
      obtain ⟨log, hlog, hentry⟩ := hvalid.entry_at hold
      obtain ⟨log', hlog', hlength⟩ := Option.map_eq_some_iff.1 hfits
      have hshort := (List.getElem?_eq_some_iff.1 hentry).1
      have hsame : log = log' := Option.some.inj (hlog.symm.trans hlog')
      rw [hsame, hlength] at hshort
      exact Nat.lt_irrefl _ hshort

end AppendLog
