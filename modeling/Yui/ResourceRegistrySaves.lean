import Yui.DurableJobValid
import Yui.ResourceRegistry

/-!
# Concurrent saves of the resource registry

Any number of writers load the registry, edit what they loaded and save it. As long as no record has the
name of an inherited property for its id, a save is accepted exactly when the records that it changes still
are what its caller loaded, and it changes nothing else.
-/

open JsText Checked FallibleRun SnapshotDelta

namespace ResourceRegistry

section Json

variable [JsHost] {α : Type} {key : String}

omit [JsHost] in
theorem whenDefined_json {write : α → α} {check : α → Except String Unit}
    (h : ∀ a, check (write a) = check a) (property : Property α) :
    whenDefined (property.json write) check = whenDefined property check := by
  cases property with
  | absent => rfl
  | undefined => rfl
  | value a => exact h a

omit [JsHost] in
theorem json_json {write : α → α} (h : ∀ a, write (write a) = write a) (property : Property α) :
    (property.json write).json write = property.json write := by
  cases property with
  | absent => rfl
  | undefined => rfl
  | value a => exact congrArg Property.value (h a)

omit [JsHost] in
theorem whenDefined_kept {check : α → Except String Unit} (property : Property α) :
    whenDefined property.kept check = whenDefined property check :=
  whenDefined_json (fun _ => rfl) property

omit [JsHost] in
theorem kept_kept (property : Property α) : property.kept.kept = property.kept := json_json (fun _ => rfl) property

omit [JsHost] in
theorem checkOwner_json (owner : ResourceOwner) : checkOwner key owner.json = checkOwner key owner := by
  unfold checkOwner ResourceOwner.json
  simp only [whenDefined_kept]

omit [JsHost] in
theorem checkGit_json (git : ResourceGitMetadata) : checkGit key git.json = checkGit key git := by
  unfold checkGit ResourceGitMetadata.json
  simp only [whenDefined_kept]

omit [JsHost] in
theorem checkRestore_json (restore : GitRestore) : checkRestore key restore.json = checkRestore key restore := by
  unfold checkRestore GitRestore.json
  simp only [whenDefined_kept]

theorem checkQuarantine_json (quarantine : ResourceQuarantineState) :
    checkQuarantine key quarantine.json = checkQuarantine key quarantine := by
  unfold checkQuarantine ResourceQuarantineState.json
  simp only [whenDefined_json checkRestore_json]

omit [JsHost] in
theorem checkSize_json (size : ByteCount) : checkSize key size.json = checkSize key size := by
  cases size with
  | finite value => rfl
  | negativeZero => exact refuse_of_not (lt_irrefl 0) _
  | nonFinite => rfl

theorem checkRecord_json (record : ResourceRecord) : checkRecord key record.json = checkRecord key record := by
  unfold checkRecord ResourceRecord.json
  simp only [whenDefined_json (checkSize_json), whenDefined_json (checkGit_json),
    whenDefined_json (checkQuarantine_json), checkOwner_json, whenDefined_kept]

omit [JsHost] in
theorem ResourceRecord.json_json (record : ResourceRecord) : record.json.json = record.json := by
  have hsize : ∀ size : ByteCount, size.json.json = size.json := by rintro (_ | _ | _) <;> rfl
  have howner : ∀ owner : ResourceOwner, owner.json.json = owner.json := fun owner => by
    unfold ResourceOwner.json
    simp only [kept_kept]
  have hgit : ∀ git : ResourceGitMetadata, git.json.json = git.json := fun git => by
    unfold ResourceGitMetadata.json
    simp only [kept_kept]
  have hrestore : ∀ restore : GitRestore, restore.json.json = restore.json := fun restore => by
    unfold GitRestore.json
    simp only [kept_kept]
  have hquarantine : ∀ quarantine : ResourceQuarantineState, quarantine.json.json = quarantine.json :=
    fun quarantine => by
      unfold ResourceQuarantineState.json
      simp only [ResourceRegistry.json_json hrestore]
  unfold ResourceRecord.json
  simp only [ResourceRegistry.json_json hsize, ResourceRegistry.json_json hgit,
    ResourceRegistry.json_json hquarantine, howner, kept_kept]

end Json

section Views

variable {entries : Entries} {id : String} {record : ResourceRecord}

def view (entries : Entries) (id : String) : Option ResourceRecord :=
  (KeyedTable.get Prod.fst entries id).map Prod.snd

/-- The entries of an object of which no key is the name of an inherited property. -/
structure Plain (entries : Entries) : Prop where
  distinct : (entries.map Prod.fst).Nodup
  ordinary : ∀ entry ∈ entries, entry.1 ∉ inheritedNames

theorem view_eq_some (h : view entries id = some record) : (id, record) ∈ entries := by
  obtain ⟨entry, hentry, rfl⟩ := Option.map_eq_some_iff.1 h
  have hkey := KeyedTable.key_of_get hentry
  have hmem := KeyedTable.mem_of_get hentry
  rwa [← hkey]

theorem view_of_mem (h : Plain entries) {entry : String × ResourceRecord} (hentry : entry ∈ entries) :
    view entries entry.1 = some entry.2 := by
  unfold view
  rw [KeyedTable.get_of_mem h.distinct hentry]
  rfl

theorem view_eq_none (h : id ∉ entries.map Prod.fst) : view entries id = none := by
  cases hview : view entries id with
  | none => rfl
  | some record => exact absurd (List.mem_map.2 ⟨_, view_eq_some hview, rfl⟩) h

theorem view_save (entry : String × ResourceRecord) :
    view (KeyedTable.save Prod.fst entries entry) id = if entry.1 = id then some entry.2 else view entries id := by
  unfold view
  rw [KeyedTable.get_save]
  split_ifs <;> rfl

theorem view_remove (removed : String) :
    view (entries.filter fun entry => entry.1 ≠ removed) id = if removed = id then none else view entries id := by
  unfold view KeyedTable.get
  rw [List.find?_filter]
  split_ifs with h
  · subst h
    rw [List.find?_eq_none.2]
    · rfl
    · intro entry _ hboth
      simp at hboth
  · congr 1
    refine List.find?_congr fun entry _ => ?_
    by_cases hkey : entry.1 = id
    · simp [hkey, Ne.symm h]
    · simp [hkey]

theorem Plain.save (h : Plain entries) {entry : String × ResourceRecord} (hentry : entry.1 ∉ inheritedNames) :
    Plain (KeyedTable.save Prod.fst entries entry) where
  distinct := KeyedTable.keys_save h.distinct entry
  ordinary other hother := by
    unfold KeyedTable.save at hother
    split_ifs at hother
    · obtain ⟨before, hbefore, rfl⟩ := List.mem_map.1 hother
      split_ifs with hkey
      · exact hentry
      · exact h.ordinary before hbefore
    · rcases List.mem_append.1 hother with hother | hother
      · exact h.ordinary other hother
      · rw [List.mem_singleton.1 hother]
        exact hentry

theorem Plain.remove (h : Plain entries) (removed : String) :
    Plain (entries.filter fun entry => entry.1 ≠ removed) where
  distinct := h.distinct.sublist (List.filter_sublist.map _)
  ordinary entry hentry := h.ordinary entry (List.mem_of_mem_filter hentry)

theorem mem_save {entry other : String × ResourceRecord}
    (h : other ∈ KeyedTable.save Prod.fst entries entry) : other = entry ∨ other ∈ entries := by
  unfold KeyedTable.save at h
  split_ifs at h
  · obtain ⟨before, hbefore, rfl⟩ := List.mem_map.1 h
    split_ifs
    · exact .inl rfl
    · exact .inr hbefore
  · rcases List.mem_append.1 h with h | h
    · exact .inr h
    · exact .inl (List.mem_singleton.1 h)

end Views

section Parsing

variable [JsHost] {entries rows : Entries} {id : String}

structure ValidEntry (entry : String × ResourceRecord) : Prop where
  checked : checkRecord entry.1 entry.2 = .ok ()
  named : entry.2.id = entry.1

def Valid (entries : Entries) : Prop := ∀ entry ∈ entries, ValidEntry entry

theorem parseEntries_iff {records parsed : Records} : parseEntries records entries = .ok parsed ↔
      Valid entries ∧ parsed = entries.foldl (fun records entry => records.assign entry.1 entry.2) records := by
  induction entries generalizing records with
  | nil => simp [parseEntries, Valid, eq_comm]
  | cons entry entries ih =>
    obtain ⟨key, record⟩ := entry
    unfold parseEntries
    constructor
    · intro h
      obtain ⟨found, hfound, h⟩ := bind_ok h
      obtain ⟨hchecked, hfound⟩ := seq_iff.1 hfound
      cases hfound
      rw [seq_iff, refuse_iff, not_not] at h
      obtain ⟨hvalid, hparsed⟩ := ih.1 h.2
      refine ⟨fun other hother => ?_, hparsed⟩
      rcases List.mem_cons.1 hother with rfl | hother
      · exact ⟨hchecked, h.1⟩
      · exact hvalid other hother
    · rintro ⟨hvalid, hparsed⟩
      have hentry := hvalid (key, record) (by simp)
      have hfound : parseResourceRecord record key = .ok record := by
        unfold parseResourceRecord
        rw [hentry.checked, ok_bind]
      rw [hfound, ok_bind, seq_iff, refuse_iff, not_not]
      exact ⟨hentry.named, ih.2 ⟨fun other hother => hvalid other (by simp [hother]), hparsed⟩⟩

omit [JsHost] in
theorem foldl_assign {own : Entries} (h : Plain (own ++ entries)) :
    entries.foldl (fun records entry => records.assign entry.1 entry.2) (⟨own, none⟩ : Records) =
      ⟨own ++ entries, none⟩ := by
  induction entries generalizing own with
  | nil => simp
  | cons entry entries ih =>
    have hproto : entry.1 ≠ "__proto__" := by
      intro hkey
      refine h.ordinary entry (by simp) ?_
      rw [hkey]
      decide
    have hnew : entry.1 ∉ own.map Prod.fst := by
      have hdistinct := h.distinct
      rw [List.map_append, List.nodup_append] at hdistinct
      exact fun hmem => hdistinct.2.2 _ hmem _ (by simp) rfl
    have hget : KeyedTable.get Prod.fst own entry.1 = none :=
      List.find?_eq_none.2 fun other hother heq =>
        hnew (List.mem_map.2 ⟨other, hother, by simpa using heq⟩)
    rw [List.foldl_cons, Records.assign, if_neg hproto]
    have hsave : KeyedTable.save Prod.fst own (entry.1, entry.2) = own ++ [entry] := by
      unfold KeyedTable.save
      rw [hget]
      rfl
    rw [hsave, ih (by simpa using h)]
    simp

theorem parse_iff {state : ResourceRegistryState} {parsed : Records} (h : Plain state.records) :
    parseResourceRegistryState state = .ok parsed ↔
      state.schemaVersion = 1 ∧ Valid state.records ∧ parsed = ⟨state.records, none⟩ := by
  unfold parseResourceRegistryState
  rw [seq_iff, refuse_iff, not_not, parseEntries_iff, foldl_assign (by simpa using h)]
  simp

/-- A property access that finds an own property or nothing. -/
def Lookup.ofView : Option ResourceRecord → Lookup
  | none => .undefined
  | some found => .record found

omit [JsHost] in
theorem Lookup.ofView_inj {left right : Option ResourceRecord} :
    Lookup.ofView left = Lookup.ofView right ↔ left = right := by
  cases left <;> cases right <;> simp [Lookup.ofView]

omit [JsHost] in
theorem get_eq (hid : id ∉ inheritedNames) :
    (⟨entries, none⟩ : Records).get id = Lookup.ofView (view entries id) := by
  unfold Records.get view
  dsimp only
  cases KeyedTable.get Prod.fst entries id with
  | some entry => rfl
  | none =>
    dsimp only
    rw [if_neg (by simpa using hid)]
    rfl

end Parsing

section Saves

variable [JsHost] {rows : Entries} {id : String} {state previous : ResourceRegistryState}

structure Sound (rows : Entries) : Prop where
  plain : Plain rows
  valid : Valid rows
  written : ∀ row ∈ rows, row.2.json = row.2

/-- What is loaded is sound and holds what the rows hold. -/
structure Loaded (state : ResourceRegistryState) : Prop where
  version : state.schemaVersion = 1
  plain : Plain state.records
  valid : Valid state.records

theorem loadRows_ok {records : Entries} (hplain : Plain (records ++ rows)) (hvalid : Valid rows) :
    loadRows records rows = .ok (records ++ rows) := by
  induction rows generalizing records with
  | nil => simp [loadRows]
  | cons row rows ih =>
    have hrow : Plain [row] := ⟨by simp, fun entry hentry => by
      rw [List.mem_singleton.1 hentry]
      exact hplain.ordinary row (by simp)⟩
    have hparsed : parseResourceRegistryState ⟨1, [row]⟩ = .ok ⟨[row], none⟩ :=
      (parse_iff hrow).2 ⟨rfl, fun entry hentry => by
        rw [List.mem_singleton.1 hentry]
        exact hvalid row (by simp), rfl⟩
    have hnew : KeyedTable.get Prod.fst records row.1 = none := by
      have hdistinct := hplain.distinct
      rw [List.map_append, List.nodup_append] at hdistinct
      refine List.find?_eq_none.2 fun other hother heq => ?_
      exact hdistinct.2.2 other.1 (List.mem_map_of_mem hother) row.1 (by simp) (by simpa using heq)
    have hsave : KeyedTable.save Prod.fst records row = records ++ [row] := by
      unfold KeyedTable.save
      rw [hnew]
      rfl
    unfold loadRows
    rw [hparsed, ok_bind]
    dsimp only [List.foldl_cons, List.foldl_nil]
    rw [hsave, ih (by simpa using hplain) fun other hother => hvalid other (by simp [hother])]
    simp

theorem load_ok (h : Sound rows) : load rows = .ok ⟨1, rows⟩ := by
  unfold load
  rw [loadRows_ok (by simpa using h.plain) h.valid, ok_bind]
  simp

theorem currentRecord_ok (h : Sound rows) (hid : id ∉ inheritedNames) :
    currentRecord rows id = .ok (Lookup.ofView (view rows id)) := by
  unfold currentRecord
  cases hget : KeyedTable.get Prod.fst rows id with
  | none =>
    dsimp only
    rw [view, hget]
    rfl
  | some row =>
    have hkey := KeyedTable.key_of_get hget
    have hrow := h.valid row (KeyedTable.mem_of_get hget)
    subst hkey
    have hplain : Plain [(row.1, row.2)] := ⟨by simp, fun entry hentry => by
      rw [List.mem_singleton.1 hentry]
      exact hid⟩
    have hparsed : parseResourceRegistryState ⟨1, [(row.1, row.2)]⟩ = .ok ⟨[(row.1, row.2)], none⟩ :=
      (parse_iff hplain).2 ⟨rfl, fun entry hentry => by
        rw [List.mem_singleton.1 hentry]
        exact hrow, rfl⟩
    dsimp only
    rw [hparsed, ok_bind, get_eq hid, view_of_mem hplain (List.mem_singleton_self _), view, hget]
    rfl

omit [JsHost] in
theorem mem_changedIds {before next : Entries} (hbefore : Plain before) (hnext : Plain next) :
    id ∈ changedIds ⟨before, none⟩ ⟨next, none⟩ ↔ id ∉ inheritedNames ∧ view before id ≠ view next id := by
  unfold changedIds
  rw [List.mem_filter, List.mem_eraseDups, List.mem_append]
  constructor
  · rintro ⟨hkey, hdiffers⟩
    have hid : id ∉ inheritedNames := by
      rcases hkey with hkey | hkey
      · obtain ⟨entry, hentry, rfl⟩ := List.mem_map.1 hkey
        exact hbefore.ordinary entry hentry
      · obtain ⟨entry, hentry, rfl⟩ := List.mem_map.1 hkey
        exact hnext.ordinary entry hentry
    rw [get_eq hid, get_eq hid, decide_eq_true_eq, Ne, Lookup.ofView_inj] at hdiffers
    exact ⟨hid, hdiffers⟩
  · rintro ⟨hid, hdiffers⟩
    rw [get_eq hid, get_eq hid, decide_eq_true_eq, Ne, Lookup.ofView_inj]
    refine ⟨?_, hdiffers⟩
    by_contra hneither
    rw [not_or] at hneither
    exact hdiffers ((view_eq_none hneither.1).trans (view_eq_none hneither.2).symm)

omit [JsHost] in
theorem view_eq_none_of_inherited (h : Plain rows) (hid : id ∈ inheritedNames) : view rows id = none := by
  refine view_eq_none fun hkey => ?_
  obtain ⟨entry, hentry, rfl⟩ := List.mem_map.1 hkey
  exact h.ordinary entry hentry hid

theorem foldlM_write {next : Entries} (hvalid : Valid next) {ids : List String}
    (hids : ∀ id ∈ ids, id ∉ inheritedNames) (h : Sound rows) :
    ∃ after, ids.foldlM (writeRecord ⟨next, none⟩) rows = .ok after ∧ Sound after ∧
      ∀ id, view after id = if id ∈ ids then (view next id).map ResourceRecord.json else view rows id := by
  induction ids generalizing rows with
  | nil => exact ⟨rows, rfl, h, fun id => by simp⟩
  | cons written ids ih =>
    have hwritten := hids written (by simp)
    have hfirst : ∃ middle, writeRecord ⟨next, none⟩ rows written = .ok middle ∧ Sound middle ∧
        ∀ id, view middle id =
          if written = id then (view next id).map ResourceRecord.json else view rows id := by
      unfold writeRecord
      rw [get_eq hwritten]
      cases hview : view next written with
      | none =>
        refine ⟨_, rfl, ⟨h.plain.remove written, fun row hrow => h.valid row (List.mem_of_mem_filter hrow),
          fun row hrow => h.written row (List.mem_of_mem_filter hrow)⟩, fun id => ?_⟩
        rw [view_remove]
        split_ifs with hsame
        · rw [← hsame, hview]
          rfl
        · rfl
      | some record =>
        have hentry := hvalid _ (view_eq_some hview)
        have hname : record.id = written := hentry.named
        refine ⟨_, rfl, ⟨h.plain.save (hname.symm ▸ hwritten), ?_, ?_⟩, fun id => ?_⟩
        · intro row hrow
          rcases mem_save hrow with rfl | hrow
          · refine ⟨?_, rfl⟩
            dsimp only
            rw [checkRecord_json, hname]
            exact hentry.checked
          · exact h.valid row hrow
        · intro row hrow
          rcases mem_save hrow with rfl | hrow
          · exact record.json_json
          · exact h.written row hrow
        · rw [view_save]
          dsimp only
          rw [hname]
          split_ifs with hsame
          · rw [← hsame, hview]
            rfl
          · rfl
    obtain ⟨middle, hmiddle, hsound, hmiddleView⟩ := hfirst
    obtain ⟨after, hafter, hsoundAfter, hafterView⟩ := ih (fun id hid => hids id (by simp [hid])) hsound
    refine ⟨after, ?_, hsoundAfter, fun id => ?_⟩
    · rw [List.foldlM_cons, hmiddle]
      exact hafter
    · rw [hafterView, hmiddleView]
      by_cases hlater : id ∈ ids
      · simp [hlater]
      · by_cases hsame : written = id
        · subst hsame
          simp
        · simp [hlater, hsame, Ne.symm hsame]

theorem save_iff (h : Sound rows) (hprevious : Loaded previous) (hstate : Plain state.records)
    (hversion : state.schemaVersion = 1) : ((∃ after, save rows state previous = .ok after) ↔
        Valid state.records ∧ Unmoved (view rows) (view previous.records) (view state.records)) ∧
      ∀ after, save rows state previous = .ok after → Sound after ∧
        view after = apply ResourceRecord.json (view rows) (view previous.records) (view state.records) := by
  have hbefore := (parse_iff hprevious.plain).2 ⟨hprevious.version, hprevious.valid, rfl⟩
  have hmem := @mem_changedIds
  have hchecks : (checkAll (changedIds ⟨previous.records, none⟩ ⟨state.records, none⟩) fun id => do
      let current ← currentRecord rows id
      refuse (current ≠ (⟨previous.records, none⟩ : Records).get id)
        s!"Resource registry record changed since inspection: {id}. Inspect and retry.") = .ok () ↔
        Unmoved (view rows) (view previous.records) (view state.records) := by
    rw [checkAll_iff]
    constructor
    · intro hall id hdiffers
      by_cases hid : id ∈ inheritedNames
      · rw [view_eq_none_of_inherited h.plain hid, view_eq_none_of_inherited hprevious.plain hid]
      · have hcheck := hall id ((hmem hprevious.plain hstate).2 ⟨hid, hdiffers⟩)
        rw [currentRecord_ok h hid, ok_bind, refuse_iff, not_not, get_eq hid, Lookup.ofView_inj] at hcheck
        exact hcheck
    · intro hunmoved id hid
      obtain ⟨hordinary, hdiffers⟩ := (hmem hprevious.plain hstate).1 hid
      rw [currentRecord_ok h hordinary, ok_bind, refuse_iff, not_not, get_eq hordinary, Lookup.ofView_inj]
      exact hunmoved id hdiffers
  have hsave : ∀ after, save rows state previous = .ok after → Valid state.records ∧
      Unmoved (view rows) (view previous.records) (view state.records) ∧
      (changedIds ⟨previous.records, none⟩ ⟨state.records, none⟩).foldlM
        (writeRecord ⟨state.records, none⟩) rows = .ok after := by
    intro after hok
    obtain ⟨next, hnext, hok⟩ := bind_ok hok
    obtain ⟨-, hvalid, rfl⟩ := (parse_iff hstate).1 hnext
    rw [hbefore, ok_bind, seq_iff, hchecks] at hok
    exact ⟨hvalid, hok.1, hok.2⟩
  have hids : ∀ id ∈ changedIds ⟨previous.records, none⟩ ⟨state.records, none⟩, id ∉ inheritedNames :=
    fun id hid => ((hmem hprevious.plain hstate).1 hid).1
  refine ⟨⟨fun ⟨after, hok⟩ => ⟨(hsave after hok).1, (hsave after hok).2.1⟩, fun ⟨hvalid, hunmoved⟩ => ?_⟩,
    fun after hok => ?_⟩
  · obtain ⟨after, hafter, -⟩ := foldlM_write hvalid hids h
    refine ⟨after, ?_⟩
    unfold save
    rw [(parse_iff hstate).2 ⟨hversion, hvalid, rfl⟩, ok_bind, hbefore, ok_bind]
    dsimp only
    rw [hchecks.2 hunmoved, ok_bind]
    exact hafter
  · obtain ⟨hvalid, -, hwrites⟩ := hsave after hok
    obtain ⟨written, hwritten, hsound, hview⟩ := foldlM_write hvalid hids h
    rw [hwritten] at hwrites
    cases hwrites
    refine ⟨hsound, funext fun id => ?_⟩
    rw [hview]
    by_cases hdiffers : view previous.records id = view state.records id
    · rw [apply_of_eq hdiffers, if_neg fun hid => ((hmem hprevious.plain hstate).1 hid).2 hdiffers]
    · rw [apply_of_ne hdiffers]
      by_cases hid : id ∈ inheritedNames
      · rw [if_neg fun hmemId => ((hmem hprevious.plain hstate).1 hmemId).1 hid,
          view_eq_none_of_inherited hstate hid, view_eq_none_of_inherited h.plain hid]
        rfl
      · rw [if_pos ((hmem hprevious.plain hstate).2 ⟨hid, hdiffers⟩)]

end Saves

section Runs

variable [JsHost]

inductive Edit where
  | upsert (record : ResourceRecord)
  | remove (id : String)

def Edit.apply (state : ResourceRegistryState) : Edit → ResourceRegistryState
  | .upsert record => upsertResourceRecord state record
  | .remove id => removeResourceRecord state id

def edited (previous : ResourceRegistryState) (edits : List Edit) : ResourceRegistryState :=
  edits.foldl Edit.apply previous

/-- The table, what each writer loaded last, and the accepted saves in commit order. -/
structure Registry where
  rows : Entries
  loaded : ℕ → Option ResourceRegistryState
  log : List (ResourceRegistryState × ResourceRegistryState)

def start (rows : Entries) : Registry := ⟨rows, fun _ => none, []⟩

inductive Op where
  | load (writer : ℕ)
  | save (writer : ℕ) (edits : List Edit)

def step (s : Registry) : Op → Except String Registry
  | .load writer => do
    let state ← load s.rows
    .ok { s with loaded := Function.update s.loaded writer (some state) }
  | .save writer edits =>
    match s.loaded writer with
    | none => .error "Nothing was loaded."
    | some previous => do
      let rows ← save s.rows (edited previous edits) previous
      .ok { s with rows, log := s.log ++ [(previous, edited previous edits)] }

/-- No record that is put in has the name of an inherited property for its id. -/
def OrdinaryEdits (edits : List Edit) : Prop := ∀ record, .upsert record ∈ edits → record.id ∉ inheritedNames

def Ordinary (_ : Registry) : Op → Prop
  | .load _ => True
  | .save _ edits => OrdinaryEdits edits

omit [JsHost] in
theorem edited_plain {previous : ResourceRegistryState} {edits : List Edit} (h : Plain previous.records)
    (hedits : OrdinaryEdits edits) : Plain (edited previous edits).records := by
  unfold edited
  induction edits generalizing previous with
  | nil => exact h
  | cons edit edits ih =>
    refine ih ?_ fun record hrecord => hedits record (List.mem_cons_of_mem _ hrecord)
    cases edit with
    | upsert record => exact h.save (hedits record List.mem_cons_self)
    | remove id => exact h.remove id

omit [JsHost] in
theorem edited_version (previous : ResourceRegistryState) (edits : List Edit) :
    (edited previous edits).schemaVersion = previous.schemaVersion := by
  unfold edited
  induction edits generalizing previous with
  | nil => rfl
  | cons edit edits ih =>
    rw [List.foldl_cons, ih]
    cases edit <;> rfl

/-- The registry after the accepted saves, one after the other. -/
noncomputable def replayed (rows : Entries) (log : List (ResourceRegistryState × ResourceRegistryState)) :
    String → Option ResourceRecord :=
  log.foldl (fun table entry => SnapshotDelta.apply ResourceRecord.json table (view entry.1.records)
    (view entry.2.records)) (view rows)

structure Inv (rows : Entries) (s : Registry) : Prop where
  sound : Sound s.rows
  loaded : ∀ writer state, s.loaded writer = some state → Loaded state
  replayed : view s.rows = replayed rows s.log

variable {rows : Entries} {s t : Registry} {writer : ℕ} {edits : List Edit} {previous : ResourceRegistryState}

theorem step_load (s : Registry) (writer : ℕ) : step s (.load writer) = (do
    let state ← load s.rows
    .ok { s with loaded := Function.update s.loaded writer (some state) }) := rfl

theorem step_save (hloaded : s.loaded writer = some previous) : step s (.save writer edits) = (do
    let rows ← save s.rows (edited previous edits) previous
    .ok { s with rows, log := s.log ++ [(previous, edited previous edits)] }) := by
  unfold step
  dsimp only
  rw [hloaded]

theorem Inv.save_iff (h : Inv rows s) (hloaded : s.loaded writer = some previous) (hedits : OrdinaryEdits edits) :
    ((∃ t, step s (.save writer edits) = .ok t) ↔ Valid (edited previous edits).records ∧
        Unmoved (view s.rows) (view previous.records) (view (edited previous edits).records)) ∧
      ∀ t, step s (.save writer edits) = .ok t → Sound t.rows ∧
        view t.rows = SnapshotDelta.apply ResourceRecord.json (view s.rows) (view previous.records)
          (view (edited previous edits).records) ∧
        t.loaded = s.loaded ∧ t.log = s.log ++ [(previous, edited previous edits)] := by
  have hprevious := h.loaded writer previous hloaded
  obtain ⟨hiff, hresult⟩ := ResourceRegistry.save_iff h.sound hprevious (edited_plain hprevious.plain hedits)
    ((edited_version previous edits).trans hprevious.version)
  refine ⟨?_, fun t ht => ?_⟩
  · rw [← hiff, step_save hloaded]
    constructor
    · rintro ⟨t, ht⟩
      obtain ⟨after, hafter, -⟩ := bind_ok ht
      exact ⟨after, hafter⟩
    · rintro ⟨after, hafter⟩
      exact ⟨_, by rw [hafter, ok_bind]⟩
  · rw [step_save hloaded] at ht
    obtain ⟨after, hafter, ht⟩ := bind_ok ht
    cases ht
    exact ⟨(hresult after hafter).1, (hresult after hafter).2, rfl, rfl⟩

theorem Inv.step {op : Op} (h : Inv rows s) (hordinary : Ordinary s op) (ht : step s op = .ok t) : Inv rows t := by
  cases op with
  | load writer =>
    rw [step_load, load_ok h.sound, ok_bind] at ht
    cases ht
    refine ⟨h.sound, fun other state hstate => ?_, h.replayed⟩
    dsimp only at hstate
    by_cases hwriter : other = writer
    · subst hwriter
      rw [Function.update_self, Option.some.injEq] at hstate
      subst hstate
      exact ⟨rfl, h.sound.plain, h.sound.valid⟩
    · rw [Function.update_of_ne hwriter] at hstate
      exact h.loaded other state hstate
  | save writer edits =>
    cases hloaded : s.loaded writer with
    | none =>
      unfold ResourceRegistry.step at ht
      dsimp only at ht
      rw [hloaded] at ht
      cases ht
    | some previous =>
      obtain ⟨hsound, hview, hsame, hlog⟩ := (h.save_iff hloaded hordinary).2 t ht
      refine ⟨hsound, fun other state hstate => h.loaded other state (hsame ▸ hstate), ?_⟩
      rw [hview, hlog, ResourceRegistry.replayed, List.foldl_append, h.replayed]
      rfl

/-- The saves of any number of writers lose no update: the table is what the accepted saves made of it one
after the other, a load gives the table, and a save changes exactly what its caller changed, from exactly
what its caller loaded, or nothing at all. -/
theorem saves_lose_no_update (hrows : Sound rows) (ops : List Op) (hordinary : Along step Ordinary (start rows) ops) :
    let s := run step (start rows) ops
    view s.rows = replayed rows s.log ∧
    (∀ writer, ∃ t state, step s (.load writer) = .ok t ∧ t.loaded writer = some state ∧
      view state.records = view s.rows ∧ t.rows = s.rows) ∧
    ∀ writer previous edits, s.loaded writer = some previous → OrdinaryEdits edits →
      ((∃ t, step s (.save writer edits) = .ok t) ↔ Valid (edited previous edits).records ∧
        Unmoved (view s.rows) (view previous.records) (view (edited previous edits).records)) ∧
      ∀ t, step s (.save writer edits) = .ok t →
        view t.rows = SnapshotDelta.apply ResourceRecord.json (view s.rows) (view previous.records)
          (view (edited previous edits).records) ∧
        ∀ other previous' edits', s.loaded other = some previous' → OrdinaryEdits edits' →
          (∀ id, view previous.records id ≠ view (edited previous edits).records id →
            view previous'.records id = view (edited previous' edits').records id) →
          (∃ t', step s (.save other edits') = .ok t') → ∃ t', step t (.save other edits') = .ok t' := by
  intro s
  have h : Inv rows s := by
    have hboth := run_relates (R := fun _ _ => True) (fun _ _ => trivial) (fun _ _ _ _ _ => trivial)
      (fun _ _ _ hinv hmeets hstep => ⟨Inv.step hinv hmeets hstep, trivial⟩)
      (⟨hrows, nofun, rfl⟩ : Inv rows (start rows)) hordinary
    exact hboth.1
  refine ⟨h.replayed, fun writer => ?_, fun writer previous edits hloaded hedits => ?_⟩
  · refine ⟨{ s with loaded := Function.update s.loaded writer (some ⟨1, s.rows⟩) }, ⟨1, s.rows⟩, ?_,
      Function.update_self .., rfl, rfl⟩
    rw [step_load, load_ok h.sound, ok_bind]
  · refine ⟨(h.save_iff hloaded hedits).1, fun t ht => ?_⟩
    obtain ⟨-, hview, hsame, -⟩ := (h.save_iff hloaded hedits).2 t ht
    refine ⟨hview, fun other previous' edits' hloaded' hedits' hdisjoint haccepted => ?_⟩
    have hordinary : Ordinary s (.save writer edits) := hedits
    have hinv : Inv rows t := h.step hordinary ht
    obtain ⟨hvalid, hunmoved⟩ := (h.save_iff hloaded' hedits').1.1 haccepted
    refine (hinv.save_iff (hsame ▸ hloaded') hedits').1.2 ⟨hvalid, ?_⟩
    rw [hview]
    exact hunmoved.apply hdisjoint

end Runs

section Sample

/-- A host that reads one timestamp. -/
@[reducible] def registryClock : JsHost where
  dateParse text := if text = "2026-01-05T08:00:00.000Z" then some 1767600000000 else none

def sampleRecord (id : String) : ResourceRecord where
  schemaVersion := 1
  id := id
  kind := .worktree
  path := "/home/worktrees/alpha"
  owner := ⟨"/home", .value "project", .absent, .absent, .absent, .absent, .durableRecord⟩
  git := .absent
  createdAt := .absent
  lastReferencedAt := .absent
  sizeBytes := .absent
  cleanliness := .clean
  activeRefs := []
  disposition := .active
  blocker := .absent
  quarantine := .absent
  cleanupReceipt := .absent
  updatedAt := "2026-01-05T08:00:00.000Z"

/-- The only writer of an empty registry puts in a record. The record is valid and nothing has changed, the
save is refused. -/
theorem inherited_name_refused :
    letI := registryClock
    (step (start []) (.load 0)).map Registry.rows = .ok [] ∧
      parseResourceRecord (sampleRecord "toString") "toString" = .ok (sampleRecord "toString") ∧
      save [] (upsertResourceRecord emptyResourceRegistry (sampleRecord "toString")) emptyResourceRegistry =
        .error "Resource registry record changed since inspection: toString. Inspect and retry." := by
  decide +kernel

theorem ordinary_upsert [JsHost] {id : String} (hid : id ∉ inheritedNames) :
    OrdinaryEdits [.upsert (sampleRecord id)] := by
  intro record hrecord
  rw [List.mem_singleton, Edit.upsert.injEq] at hrecord
  exact hrecord ▸ hid

/-- The copy of an empty table, with one record put in. -/
def upserted (id : String) : ResourceRegistryState := edited ⟨1, []⟩ [.upsert (sampleRecord id)]

theorem view_upserted {id other : String} (hne : other ≠ id) : view (upserted other).records id = none := by
  change (KeyedTable.get Prod.fst [(other, sampleRecord other)] id).map Prod.snd = none
  simp [KeyedTable.get, hne]

theorem sound_nil [JsHost] : Sound [] where
  plain := ⟨List.nodup_nil, fun _ h => absurd h List.not_mem_nil⟩
  valid _ h := absurd h List.not_mem_nil
  written _ h := absurd h List.not_mem_nil

/-- Two writers load the empty registry, and each puts in a record of its own. -/
theorem saves_lose_no_update_disjoint : letI := registryClock
    let s := run step (start []) [.load 0, .load 1]
    view s.rows = replayed [] s.log ∧ (∃ t state, step s (.load 0) = .ok t ∧
        t.loaded 0 = some state ∧ view state.records = view s.rows) ∧
      ∃ t t', step s (.save 0 [.upsert (sampleRecord "alpha")]) = .ok t ∧
        view t.rows = SnapshotDelta.apply ResourceRecord.json (view s.rows) (view []) (view (upserted "alpha").records) ∧
        step t (.save 1 [.upsert (sampleRecord "beta")]) = .ok t' := by
  let _ := registryClock
  have hordinary : Along step Ordinary (start []) [.load 0, .load 1] := by
    simp only [Along]
    exact ⟨trivial, trivial, trivial⟩
  obtain ⟨hview, hload, hsaves⟩ := saves_lose_no_update sound_nil [.load 0, .load 1] hordinary
  obtain ⟨t₀, state, hload₀, hloaded, hstate, -⟩ := hload 0
  obtain ⟨-, hkept⟩ := hsaves 0 ⟨1, []⟩ [.upsert (sampleRecord "alpha")] (by rfl) (ordinary_upsert (by decide))
  obtain ⟨t, ht⟩ : ∃ t, step (run step (start []) [.load 0, .load 1]) (.save 0 [.upsert (sampleRecord "alpha")]) = .ok t :=
    exists_of_isOk (by decide +kernel)
  obtain ⟨hmoved, hothers⟩ := hkept t ht
  have hdisjoint : ∀ id, view [] id ≠ view (upserted "alpha").records id →
      view [] id = view (upserted "beta").records id := by
    intro id hchanged
    by_cases halpha : "alpha" = id
    · subst halpha
      exact (view_upserted (by decide)).symm
    · exact absurd (view_upserted halpha).symm hchanged
  obtain ⟨t', ht'⟩ := hothers 1 ⟨1, []⟩ [.upsert (sampleRecord "beta")] (by rfl) (ordinary_upsert (by decide))
    hdisjoint (exists_of_isOk (by decide +kernel))
  exact ⟨hview, ⟨t₀, state, hload₀, hloaded, hstate⟩, t, t', ht, hmoved, ht'⟩

end Sample

end ResourceRegistry
