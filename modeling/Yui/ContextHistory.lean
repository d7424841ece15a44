import Yui.ContextProjection

/-!
# Units of a projected history

The groups of a history are its messages in order, each group one message with all results of its calls.
What must be kept of a history lies in units that are required.
-/

open Checked

namespace Context

/-- A message that is not a result, followed by exactly the results of its calls. -/
def WholeBatch : List Message → Prop
  | [] => False
  | .assistant _ calls :: results =>
    ∃ answered : List (String × String), answered.Perm (callPairs calls) ∧
      List.Forall₂ (fun result call => ∃ outcome, result = .tool call.1 call.2 outcome) results answered
  | .tool _ _ _ :: _ => False
  | _ :: results => results = []

variable {pending : List (String × String)}

theorem perm_deletePending {id name : String}
    (hnodup : (pending.map Prod.fst).Nodup) (h : pending.lookup id = some name) :
    ((id, name) :: deletePending pending id).Perm pending := by
  induction pending with
  | nil => cases h
  | cons entry pending ih =>
    obtain ⟨first, second⟩ := entry
    rw [List.map_cons, List.nodup_cons] at hnodup
    by_cases hid : id = first
    · subst hid
      rw [List.lookup_cons, beq_self_eq_true] at h
      cases h
      have hrest : deletePending ((id, name) :: pending) id = pending := by
        rw [deletePending, List.filter_cons_of_neg (by simp), List.filter_eq_self]
        intro entry hentry
        have hne : entry.1 ≠ id := by
          rintro rfl
          exact hnodup.1 (List.mem_map.2 ⟨entry, hentry, rfl⟩)
        simpa using hne
      rw [hrest]
    · rw [List.lookup_cons, beq_eq_false_iff_ne.2 hid] at h
      have hkeep : deletePending ((first, second) :: pending) id =
          (first, second) :: deletePending pending id := by
        rw [deletePending, List.filter_cons_of_pos (by simpa using Ne.symm hid)]
        rfl
      rw [hkeep]
      exact (List.Perm.swap _ _ _).trans ((ih hnodup.2 h).cons _)

theorem nodup_deletePending (id : String)
    (hnodup : (pending.map Prod.fst).Nodup) : ((deletePending pending id).map Prod.fst).Nodup :=
  hnodup.sublist (List.filter_sublist.map Prod.fst)

theorem takeResults_batch {messages results after : List Message} (hnodup : (pending.map Prod.fst).Nodup)
    (h : takeResults pending messages = .ok (results, after)) :
    ∃ answered : List (String × String), answered.Perm pending ∧
      List.Forall₂ (fun result call => ∃ outcome, result = .tool call.1 call.2 outcome) results answered := by
  induction messages generalizing pending results with
  | nil =>
    cases pending with
    | nil =>
      rw [takeResults] at h
      cases h
      exact ⟨[], List.Perm.refl _, List.Forall₂.nil⟩
    | cons entry pending =>
      rw [takeResults] at h
      cases h
  | cons message messages ih =>
    cases pending with
    | nil =>
      rw [takeResults] at h
      cases h
      exact ⟨[], List.Perm.refl _, List.Forall₂.nil⟩
    | cons entry pending =>
      cases message with
      | tool id name outcome =>
        simp only [takeResults] at h
        split_ifs at h with hlookup
        · split at h
          · cases h
          · obtain ⟨⟨more, last⟩, hmore, hrest⟩ := bind_ok h
            cases hrest
            obtain ⟨answered, hperm, hall⟩ := ih (nodup_deletePending id hnodup) hmore
            exact ⟨(id, name) :: answered,
              (hperm.cons _).trans (perm_deletePending hnodup hlookup),
              List.Forall₂.cons ⟨outcome, rfl⟩ hall⟩
        · cases h
      | _ => cases h

theorem newCalls_nodup {calls : List ToolCall} {used after : List String} (hused : used.Nodup)
    (h : newCalls used calls = .ok after) : after = used ++ calls.map ToolCall.id ∧ after.Nodup := by
  induction calls generalizing used with
  | nil =>
    rw [newCalls] at h
    cases h
    exact ⟨by simp, hused⟩
  | cons call calls ih =>
    rw [newCalls] at h
    split_ifs at h with hbad
    · cases h
    · have hnew : call.id ∉ used := fun hmem => hbad (.inr (.inr hmem))
      have hnext : (used ++ [call.id]).Nodup := by
        rw [List.nodup_append]
        refine ⟨hused, List.nodup_singleton _, ?_⟩
        intro first hfirst second hsecond heq
        rw [List.mem_singleton.1 hsecond] at heq
        exact hnew (heq ▸ hfirst)
      obtain ⟨hafter, hnodup⟩ := ih hnext h
      exact ⟨by simp [hafter], hnodup⟩

theorem historyGroups_whole {used : List String} {messages : List Message}
    {groups : List (List Message)} (hused : used.Nodup) (h : historyGroups used messages = .ok groups) :
    groups.flatten = messages ∧ ∀ group ∈ groups, WholeBatch group := by
  induction used, messages using historyGroups.induct generalizing groups with
  | case1 used =>
    rw [historyGroups] at h
    cases h
    exact ⟨rfl, fun group hgroup => by cases hgroup⟩
  | case2 used rest id name outcome =>
    rw [historyGroups] at h
    cases h
  | case3 used rest content calls ih =>
    rw [historyGroups] at h
    obtain ⟨used', hnew, hmatch⟩ := bind_ok h
    obtain ⟨hused', hnodup⟩ := newCalls_nodup hused hnew
    split at hmatch
    · cases hmatch
    · rename_i results after htake
      obtain ⟨more, hmore, hrest⟩ := bind_ok hmatch
      cases hrest
      obtain ⟨hflat, hwhole⟩ := ih used' results after htake hnodup hmore
      have hids : ((callPairs calls).map Prod.fst).Nodup := by
        rw [hused', List.nodup_append] at hnodup
        simpa [callPairs, Function.comp_def] using hnodup.2.1
      constructor
      · rw [List.flatten_cons, hflat, List.cons_append, ← takeResults_append htake]
      · intro group hgroup
        rcases List.mem_cons.1 hgroup with rfl | hmem
        · exact takeResults_batch hids htake
        · exact hwhole group hmem
  | case4 used message rest htool hassistant ih =>
    have hstep : historyGroups used (message :: rest) =
        historyGroups used rest >>= fun groups => .ok ([message] :: groups) := by
      cases message with
      | tool id name outcome => exact (htool id name outcome rfl).elim
      | assistant content calls => exact (hassistant content calls rfl).elim
      | _ => rw [historyGroups] <;> simp
    rw [hstep] at h
    obtain ⟨more, hmore, hrest⟩ := bind_ok h
    cases hrest
    obtain ⟨hflat, hwhole⟩ := ih hused hmore
    constructor
    · rw [List.flatten_cons, hflat, List.singleton_append]
    · intro group hgroup
      rcases List.mem_cons.1 hgroup with rfl | hmem
      · cases message with
        | tool id name outcome => exact (htool id name outcome rfl).elim
        | assistant content calls => exact (hassistant content calls rfl).elim
        | _ => rfl
      · exact hwhole group hmem

theorem WholeBatch.tail_isTool {group : List Message} (h : WholeBatch group) :
    ∃ first results, group = first :: results ∧ first.isTool = false ∧
      ∀ message ∈ results, message.isTool = true := by
  match group, h with
  | .assistant content calls :: results, h =>
    obtain ⟨answered, -, hall⟩ := h
    refine ⟨_, results, rfl, rfl, ?_⟩
    clear h
    induction hall with
    | nil => exact fun message hmem => by cases hmem
    | cons hfirst _ ih =>
      intro message hmem
      rcases List.mem_cons.1 hmem with rfl | hrest
      · obtain ⟨outcome, rfl⟩ := hfirst
        rfl
      · exact ih message hrest
  | .system content :: results, h => exact ⟨_, results, rfl, rfl, by rw [h]; simp⟩
  | .user content :: results, h => exact ⟨_, results, rfl, rfl, by rw [h]; simp⟩

def IsUserAt (messages : List Message) (index : ℕ) : Prop :=
  ∃ content, messages[index]? = some (.user content)

/-- What a projection must keep of a history: system messages, the first user message, everything from the
latest user message on, and protected ranges. -/
inductive MustKeep (messages : List Message) (ranges : List (ℤ × ℤ)) (index : ℕ) : Prop where
  | system (content : String) (h : messages[index]? = some (.system content))
  | firstUser (huser : IsUserAt messages index) (hfirst : ∀ i < index, ¬ IsUserAt messages i)
  | current (latest : ℕ) (huser : IsUserAt messages latest)
      (hlatest : ∀ i, IsUserAt messages i → i ≤ latest) (hle : latest ≤ index)
  | guarded (range : ℤ × ℤ) (hrange : range ∈ ranges) (hstart : range.1 ≤ index)
      (hstop : index < range.2)

theorem mem_userIndices {messages : List Message} {index : ℕ} :
    index ∈ userIndices messages ↔ IsUserAt messages index := by
  unfold userIndices IsUserAt
  simp only [List.mem_map, List.mem_filter, Prod.exists, exists_eq_right, List.mem_zipIdx_iff_getElem?]
  constructor
  · rintro ⟨message, hget, huser⟩
    cases message with
    | user content => exact ⟨content, hget⟩
    | _ => cases huser
  · rintro ⟨content, hget⟩
    exact ⟨.user content, hget, rfl⟩

theorem userIndices_pairwise (messages : List Message) : (userIndices messages).Pairwise (· < ·) := by
  have hall : (messages.zipIdx.map Prod.snd).Pairwise (· < ·) := by
    rw [List.zipIdx_map_snd]
    exact List.pairwise_lt_range'
  exact hall.sublist (List.filter_sublist.map Prod.snd)

/-- Consecutive ranges from one index to another. -/
def Tiles : ℕ → List (ℕ × ℕ) → ℕ → Prop
  | start, [], stop => start = stop
  | start, range :: ranges, stop => range.1 = start ∧ range.1 < range.2 ∧ Tiles range.2 ranges stop

/-- A unit is a whole batch of the history, and required where the history must be kept. -/
structure HistoryUnit (messages : List Message) (ranges : List (ℤ × ℤ)) (unit : ContextUnit)
    (start stop : ℕ) : Prop where
  range : unit.entry.historyRange = some (start, stop)
  slice : unit.messages = (messages.take stop).drop start
  whole : WholeBatch unit.messages
  retained : unit.entry.action = .retained
  kept : ∀ index, start ≤ index → index < stop → MustKeep messages ranges index →
    unit.required = true

theorem keepsGroup_of_mustKeep {messages before after group : List Message}
    {ranges : List (ℤ × ℤ)} (hmessages : messages = before ++ (group ++ after))
    (hwhole : WholeBatch group) {index : ℕ} (hstart : before.length ≤ index)
    (hstop : index < before.length + group.length) (hkeep : MustKeep messages ranges index) :
    keepsGroup messages ranges group before.length (before.length + group.length) = true := by
  obtain ⟨first, results, rfl, -, htools⟩ := hwhole.tail_isTool
  have hget : ∀ i, before.length ≤ i → i < before.length + (first :: results).length →
      messages[i]? = (first :: results)[i - before.length]? := by
    intro i hle hlt
    rw [hmessages, List.getElem?_append_right hle, List.getElem?_append_left (by omega)]
  have hhead : ∀ i message, before.length ≤ i → i < before.length + (first :: results).length →
      messages[i]? = some message → message.isTool = false → i = before.length := by
    intro i message hle hlt hsome hnot
    by_contra hne
    rw [hget i hle hlt, show i - before.length = (i - before.length - 1) + 1 by omega,
      List.getElem?_cons_succ] at hsome
    rw [htools message (List.mem_of_getElem? hsome)] at hnot
    cases hnot
  have huserHead : ∀ i, before.length ≤ i → i < before.length + (first :: results).length →
      IsUserAt messages i → i = before.length := by
    rintro i hle hlt ⟨content, hsome⟩
    exact hhead i _ hle hlt hsome rfl
  unfold keepsGroup
  simp only [Bool.or_eq_true]
  cases hkeep with
  | system content hsystem =>
    left; left; left
    have hindex := hhead index _ hstart hstop hsystem rfl
    rw [hget index hstart hstop, hindex, Nat.sub_self, List.getElem?_cons_zero] at hsystem
    cases hsystem
    rfl
  | firstUser huser hfirst =>
    left; left; right
    have hindex := huserHead index hstart hstop huser
    have hmem := mem_userIndices.2 huser
    have hsorted := userIndices_pairwise messages
    cases hlist : userIndices messages with
    | nil =>
      rw [hlist] at hmem
      cases hmem
    | cons earliest others =>
      have hearliest : IsUserAt messages earliest := mem_userIndices.1 (hlist ▸ List.mem_cons_self)
      have hge : index ≤ earliest := by
        by_contra hlt
        exact hfirst earliest (by omega) hearliest
      rw [hlist] at hmem hsorted
      have hle : earliest ≤ index := by
        rcases List.mem_cons.1 hmem with rfl | hother
        · exact Nat.le_refl _
        · exact Nat.le_of_lt ((List.pairwise_cons.1 hsorted).1 index hother)
      rw [List.head?_cons, beq_iff_eq]
      congr 1
      omega
  | current latest huser hlatest hle =>
    left; right
    have hmem := mem_userIndices.2 huser
    obtain ⟨last, hlast⟩ : ∃ last, (userIndices messages).getLast? = some last := by
      cases hlist : (userIndices messages).getLast? with
      | none =>
        rw [List.getLast?_eq_none_iff.1 hlist] at hmem
        cases hmem
      | some last => exact ⟨last, rfl⟩
    have hlastUser := mem_userIndices.1 (List.mem_of_getLast? hlast)
    have hbound := hlatest last hlastUser
    rw [hlast, Option.any_some, decide_eq_true_eq]
    by_contra hafter
    have := huserHead last (by omega) (by omega) hlastUser
    omega
  | guarded range hrange hfrom hto =>
    right
    rw [List.any_eq_true]
    refine ⟨range, hrange, ?_⟩
    rw [decide_eq_true_eq]
    constructor
    · push_cast
      omega
    · omega

variable (enc : Encoding)

theorem groupUnits_spec (request : ModelRequest) (ranges : List (ℤ × ℤ))
    (groups : List (List Message)) (before : List Message) (hmessages : request.messages = before ++ groups.flatten)
    (hwhole : ∀ group ∈ groups, WholeBatch group) : Tiles before.length
        ((groupUnits enc request ranges before.length groups).filterMap fun unit =>
          unit.entry.historyRange) request.messages.length ∧
      ∀ unit ∈ groupUnits enc request ranges before.length groups,
        ∃ start stop, HistoryUnit request.messages ranges unit start stop := by
  induction groups generalizing before with
  | nil =>
    rw [groupUnits]
    constructor
    · rw [hmessages]
      simp [Tiles]
    · intro unit hunit
      cases hunit
  | cons group groups ih =>
    rw [List.flatten_cons] at hmessages
    have hgroup := hwhole group List.mem_cons_self
    have hnext := ih (before ++ group) (by rw [hmessages, List.append_assoc])
      fun other hother => hwhole other (List.mem_cons_of_mem _ hother)
    rw [List.length_append] at hnext
    obtain ⟨htiles, hunits⟩ := hnext
    obtain ⟨first, results, hcons, -, -⟩ := hgroup.tail_isTool
    rw [groupUnits]
    constructor
    · simp only [List.filterMap_cons]
      refine ⟨rfl, ?_, htiles⟩
      rw [hcons, List.length_cons]
      omega
    · intro unit hunit
      rcases List.mem_cons.1 hunit with rfl | hmore
      · refine ⟨before.length, before.length + group.length, rfl, ?_, hgroup, rfl, ?_⟩
        · rw [hmessages, ← List.append_assoc, ← List.length_append, List.take_left, List.drop_left]
        · intro index hstart hstop hkeep
          exact keepsGroup_of_mustKeep hmessages hgroup hstart hstop hkeep
      · exact hunits unit hmore

/-- What `historyUnits` says of the history: its ranges tile it, its units are whole batches, required
where the history must be kept, and the last ones are required. -/
structure HistoryKept (request : ModelRequest) (keep : ℤ) (ranges : List (ℤ × ℤ))
    (units : List ContextUnit) : Prop where
  tiles : Tiles 0 (units.filterMap fun unit => unit.entry.historyRange) request.messages.length
  each : ∀ unit ∈ units, ∃ start stop, HistoryUnit request.messages ranges unit start stop
  recent : ∀ (index : ℕ) unit, units[index]? = some unit → (units.length : ℤ) - keep ≤ index →
    unit.required = true

theorem length_keepRecent (keep : ℤ) (units : List ContextUnit) : (keepRecent keep units).length = units.length := by
  simp [keepRecent]
  omega

theorem HistoryKept.of_keepRecent {request : ModelRequest} {ranges : List (ℤ × ℤ)}
    {units : List ContextUnit} (keep : ℤ)
    (htiles : Tiles 0 (units.filterMap fun unit => unit.entry.historyRange) request.messages.length)
    (hunits : ∀ unit ∈ units, ∃ start stop, HistoryUnit request.messages ranges unit start stop) :
    HistoryKept request keep ranges (keepRecent keep units) := by
  constructor
  · have hsame : (keepRecent keep units).filterMap (fun unit => unit.entry.historyRange) =
        units.filterMap fun unit => unit.entry.historyRange := by
      rw [keepRecent, List.filterMap_append, List.filterMap_map]
      conv_rhs => rw [← List.take_append_drop (max 0 ((units.length : ℤ) - keep)).toNat units,
        List.filterMap_append]
      rfl
    rw [hsame]
    exact htiles
  · intro unit hunit
    rcases List.mem_append.1 hunit with hold | hnew
    · exact hunits unit (List.mem_of_mem_take hold)
    · obtain ⟨original, horiginal, rfl⟩ := List.mem_map.1 hnew
      obtain ⟨start, stop, hspec⟩ := hunits original (List.mem_of_mem_drop horiginal)
      exact ⟨start, stop, hspec.range, hspec.slice, hspec.whole, hspec.retained, fun _ _ _ _ => rfl⟩
  · intro index unit hget hrecent
    rw [length_keepRecent] at hrecent
    have hlt : index < units.length := by
      rw [← length_keepRecent keep units]
      exact (List.getElem?_eq_some_iff.1 hget).1
    rw [keepRecent, List.getElem?_append_right (by rw [List.length_take]; omega),
      List.getElem?_map, Option.map_eq_some_iff] at hget
    obtain ⟨original, -, rfl⟩ := hget
    rfl

theorem historyUnits_kept {request : ModelRequest} {keep : ℤ} {ranges : List (JsNumber × JsNumber)}
    {units : List ContextUnit} (h : historyUnits enc request keep ranges = .ok units) :
    ∃ bounds, (∀ start stop, (some start, some stop) ∈ ranges → (start, stop) ∈ bounds) ∧
      HistoryKept request keep bounds units := by
  unfold historyUnits at h
  obtain ⟨-, -, bounds, hbounds, groups, hfound, hlast⟩ := bind_ok₃ h
  cases hlast
  obtain ⟨hflat, hwhole⟩ := historyGroups_whole List.nodup_nil hfound
  obtain ⟨htiles, hunits⟩ := groupUnits_spec enc request bounds groups [] hflat.symm hwhole
  refine ⟨bounds, ?_, HistoryKept.of_keepRecent keep htiles hunits⟩
  clear hfound hflat hwhole htiles hunits h
  induction ranges generalizing bounds with
  | nil => exact fun start stop hmem => by cases hmem
  | cons range ranges ih =>
    rw [List.mapM_cons] at hbounds
    obtain ⟨first, hfirst, others, hothers, hcons⟩ := bind_ok₂ hbounds
    cases hcons
    intro start stop hmem
    rcases List.mem_cons.1 hmem with rfl | hmore
    · simp only [checkRange] at hfirst
      split_ifs at hfirst
      · cases hfirst
        exact List.mem_cons_self
      · cases hfirst
    · exact List.mem_cons_of_mem _ (ih others hothers start stop hmore)

end Context
