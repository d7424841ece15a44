import Yui.FilePatterns

/-!
# Matching with the bounded glob and regex engines

The matchers of `nativeAgent/filePatterns.ts`. Every matcher has one result and one amount of work
for each text: a budget that covers the work gives the result, and a smaller one gives
`pattern_limit`. The result is membership in the language of the parsed pattern.
-/

namespace FilePatterns

open Checked Quantified

/-! ## The matchers -/

def closure : List Atom → List Bool → Budgeted (List Bool)
  | atom :: atoms, here :: next :: rest => do
    tick
    let closed ← closure atoms ((next || (here && atom.optional)) :: rest)
    return here :: closed
  | _, states => return states

/-- The states after `ch`. `carry` is what the atom before this one has already set. -/
def nextStates (ch : ℕ) : Bool → List Atom → List Bool → Budgeted (List Bool)
  | carry, atom :: atoms, here :: rest => do
    tick
    let next ← nextStates ch (here && atom.test ch) atoms rest
    return (carry || (here && atom.test ch && atom.repeats)) :: next
  | carry, _, _ => return [carry]

def sequenceFrom (atoms : List Atom) (startAnchor endAnchor : Bool) :
    List Bool → List ℕ → Budgeted Bool
  | active, [] => return active.getD atoms.length false
  | active, ch :: text =>
    if !endAnchor && active.getD atoms.length false then return true
    else do
      let next ← nextStates ch (!startAnchor) atoms active
      let closed ← closure atoms next
      sequenceFrom atoms startAnchor endAnchor closed text

def sequence (atoms : List Atom) (text : List ℕ) (startAnchor endAnchor : Bool) :
    Budgeted Bool := do
  let active ← closure atoms (true :: List.replicate atoms.length false)
  sequenceFrom atoms startAnchor endAnchor active (codePoints text)

def regex (pattern : List ℕ) : Except FileFault (List ℕ → Budgeted Bool) := do
  let parsed ← parseRegex pattern
  return fun text => sequence parsed.atoms text parsed.startAnchor parsed.endAnchor

/-- One pattern segment along the parts of the path. `carry` is the mark at this position for a
segment, and the mark before it for `**`. -/
def globRow (segment : Option (List Atom)) :
    Bool → List (List ℕ) → List Bool → Budgeted (List Bool)
  | carry, part :: parts, here :: rest => do
    tick
    match segment with
    | none =>
      let next ← globRow segment (here || carry) parts rest
      return (here || carry) :: next
    | some atoms =>
      let found ← (if here then sequence atoms part true true else pure false)
      let next ← globRow segment found parts rest
      return carry :: next
  | carry, _, here :: _ => do
    tick
    return [if segment.isNone then here || carry else carry]
  | _, _, [] => return []

def globRows (parts : List (List ℕ)) :
    List (Option (List Atom)) → List Bool → Budgeted (List Bool)
  | [], active => return active
  | segment :: segments, active => do
    let next ← globRow segment false parts active
    globRows parts segments next

def glob (pattern : List ℕ) : Except FileFault (List ℕ → Budgeted Bool) := do
  let segments ← parseGlob pattern
  return fun text => do
    let parts := splitPath text
    let active ← globRows parts segments (true :: List.replicate parts.length false)
    return active.getD parts.length false

/-! ## What a run costs -/

/-- A run that has `value` for every budget that covers `cost`, and no value for any other. -/
def Costs {α : Type} (run : Budgeted α) (value : α) (cost : ℕ) : Prop :=
  ∀ remaining : ℤ, run remaining =
    if cost ≤ remaining.toNat then .ok (value, remaining - cost) else .error patternLimit

section Costs

variable {α β : Type} {run : Budgeted α} {next : α → Budgeted β} {a : α} {b : β} {n m : ℕ}

theorem Costs.pure (a : α) : Costs (pure a) a 0 := by
  intro remaining
  have hkept : remaining - ((0 : ℕ) : ℤ) = remaining := by omega
  rw [if_pos (Nat.zero_le _), hkept]
  rfl

theorem Costs.bind (hrun : Costs run a n) (hnext : Costs (next a) b m) : Costs (run >>= next) b (n + m) := by
  intro remaining
  change (run remaining >>= fun s => next s.1 s.2) = _
  rw [hrun remaining]
  by_cases hn : n ≤ remaining.toNat
  · rw [if_pos hn, ok_bind, hnext]
    by_cases hm : m ≤ (remaining - n).toNat
    · have hleft : remaining - n - m = remaining - ((n + m : ℕ) : ℤ) := by omega
      rw [if_pos hm, if_pos (by omega), hleft]
    · rw [if_neg hm, if_neg (by omega)]
  · rw [if_neg hn, if_neg (by omega), error_bind]

theorem Costs.bind_pure {f : α → β} (hrun : Costs run a n) : Costs (run >>= fun a => Pure.pure (f a)) (f a) n :=
  Costs.bind (m := 0) hrun (Costs.pure (f a))

theorem costs_tick : Costs tick () 1 := by
  intro remaining
  rw [tick]
  by_cases h : remaining - 1 < 0
  · rw [if_pos h, if_neg (by omega)]
  · rw [if_neg h, if_pos (by omega)]
    rfl

theorem costs_closure (atoms : List Atom) : ∀ states : List Bool, states.length = atoms.length + 1 →
      Costs (closure atoms states) (closeFrom atoms states) atoms.length := by
  induction atoms with
  | nil =>
    intro states _
    cases states <;> exact Costs.pure _
  | cons atom atoms ih =>
    intro states hlength
    obtain ⟨here, next, rest, rfl⟩ : ∃ here next rest, states = here :: next :: rest := by
      match states, hlength with
      | here :: next :: rest, _ => exact ⟨here, next, rest, rfl⟩
    have hrest := ih ((next || (here && atom.optional)) :: rest) (by simpa using hlength)
    rw [List.length_cons, add_comm]
    exact costs_tick.bind hrest.bind_pure

theorem costs_nextStates (ch : ℕ) (atoms : List Atom) :
    ∀ (carry : Bool) (states : List Bool), states.length = atoms.length + 1 →
      Costs (nextStates ch carry atoms states) (nextFrom ch carry atoms states) atoms.length := by
  induction atoms with
  | nil =>
    intro carry states _
    cases states <;> exact Costs.pure _
  | cons atom atoms ih =>
    intro carry states hlength
    obtain ⟨here, rest, rfl⟩ := List.exists_cons_of_length_eq_add_one hlength
    have hrest := ih (here && atom.test ch) rest (by simpa using hlength)
    rw [List.length_cons, add_comm]
    exact costs_tick.bind hrest.bind_pure

theorem length_nextFrom (ch : ℕ) (atoms : List Atom) :
    ∀ (carry : Bool) (states : List Bool), states.length = atoms.length + 1 →
      (nextFrom ch carry atoms states).length = atoms.length + 1 := by
  induction atoms with
  | nil => intro carry states _; cases states <;> rfl
  | cons atom atoms ih =>
    intro carry states hlength
    obtain ⟨here, rest, rfl⟩ := List.exists_cons_of_length_eq_add_one hlength
    simp [nextFrom, ih _ rest (by simpa using hlength)]

theorem costs_sequenceFrom (atoms : List Atom) (startAnchor endAnchor : Bool) (text : List ℕ) :
    ∀ states : List Bool, states.length = atoms.length + 1 →
      ∃ cost, Costs (sequenceFrom atoms startAnchor endAnchor states text)
        (scan startAnchor endAnchor atoms states text) cost := by
  induction text with
  | nil => exact fun states _ => ⟨0, Costs.pure _⟩
  | cons ch text ih =>
    intro states hlength
    rw [sequenceFrom, scan]
    by_cases hdone : (!endAnchor && states.getD atoms.length false) = true
    · rw [if_pos hdone, hdone, Bool.true_or]
      exact ⟨0, Costs.pure true⟩
    · have hnext := costs_nextStates ch atoms (!startAnchor) states hlength
      have hclosed := costs_closure atoms _ (length_nextFrom ch atoms (!startAnchor) states hlength)
      rw [closeFrom_nextFrom ch _ _ _ hlength] at hclosed
      obtain ⟨cost, hrest⟩ := ih _ (length_advance ch (!startAnchor) atoms states hlength)
      rw [if_neg hdone, Bool.eq_false_iff.2 hdone, Bool.false_or]
      exact ⟨_, hnext.bind (hclosed.bind hrest)⟩

end Costs

/-! ## The engines and their grammars -/

/-- For every budget, the run answers whether `P` holds or reports that the budget is too small. -/
def Decides (run : Budgeted Bool) (P : Prop) : Prop :=
  ∃ (found : Bool) (cost : ℕ), (found = true ↔ P) ∧ Costs run found cost

theorem costs_sequence (atoms : List Atom) (text : List ℕ) (startAnchor endAnchor : Bool) :
    ∃ cost, Costs (sequence atoms text startAnchor endAnchor)
      (scan startAnchor endAnchor atoms (opening true atoms) (codePoints text)) cost := by
  have hopen := costs_closure atoms (true :: List.replicate atoms.length false) (by simp)
  rw [closeFrom_replicate] at hopen
  obtain ⟨cost, hscan⟩ := costs_sequenceFrom atoms startAnchor endAnchor (codePoints text)
    (opening true atoms) (length_opening true atoms)
  exact ⟨_, hopen.bind hscan⟩

/-- The parts of a path are matched in order by the segments of a glob. -/
inductive PathMatch : List (Option (List Atom)) → List (List ℕ) → Prop where
  | nil : PathMatch [] []
  | segment {atoms segments part parts} : codePoints part ∈ sequenceLanguage atoms →
      PathMatch segments parts → PathMatch (some atoms :: segments) (part :: parts)
  | deep {segments parts} (skipped : List (List ℕ)) :
      PathMatch segments parts → PathMatch (none :: segments) (skipped ++ parts)

def segmentFound (atoms : List Atom) (part : List ℕ) : Bool :=
  scan true true atoms (opening true atoms) (codePoints part)

theorem segmentFound_iff (atoms : List Atom) (part : List ℕ) :
    segmentFound atoms part = true ↔ codePoints part ∈ sequenceLanguage atoms := by
  rw [segmentFound, scan_iff_found, found_whole_iff]

/-- A segment as a quantified letter over the parts of a path. -/
def segmentAtom : Option (List Atom) → Quantified (List ℕ)
  | none => many
  | some atoms => once (segmentFound atoms)

theorem mem_sequenceLanguage_iff_pathMatch (segments : List (Option (List Atom))) (parts : List (List ℕ)) :
    parts ∈ sequenceLanguage (segments.map segmentAtom) ↔ PathMatch segments parts := by
  induction segments generalizing parts with
  | nil =>
    change parts ∈ (1 : Language (List ℕ)) ↔ _
    rw [Language.mem_one]
    constructor
    · rintro rfl
      exact .nil
    · rintro ⟨⟩
      rfl
  | cons segment segments ih =>
    change parts ∈ (segmentAtom segment).language * sequenceLanguage (segments.map segmentAtom) ↔ _
    cases segment with
    | none =>
      constructor
      · rintro ⟨skipped, _, rest, hrest, rfl⟩
        exact .deep skipped ((ih rest).1 hrest)
      · rintro (_ | _ | ⟨skipped, hrest⟩)
        exact ⟨skipped, mem_many skipped, _, (ih _).2 hrest, rfl⟩
    | some atoms =>
      constructor
      · rintro ⟨_, ⟨part, hpart, rfl⟩, rest, hrest, rfl⟩
        exact .segment ((segmentFound_iff atoms part).1 hpart) ((ih rest).1 hrest)
      · rintro (_ | ⟨hpart, hrest⟩)
        exact ⟨[_], ⟨_, (segmentFound_iff atoms _).2 hpart, rfl⟩, _, (ih _).2 hrest, rfl⟩

theorem costs_deepRow (parts : List (List ℕ)) :
    ∀ (carry : Bool) (states : List Bool), states.length = parts.length + 1 →
      ∃ cost, Costs (globRow none carry parts states) (manyRow carry states) cost := by
  induction parts with
  | nil =>
    intro carry states hlength
    obtain ⟨here, rfl⟩ := List.length_eq_one_iff.1 hlength
    exact ⟨_, costs_tick.bind (Costs.pure [here || carry])⟩
  | cons part parts ih =>
    intro carry states hlength
    obtain ⟨here, rest, rfl⟩ := List.exists_cons_of_length_eq_add_one hlength
    obtain ⟨cost, hrest⟩ := ih (here || carry) rest (by simpa using hlength)
    exact ⟨_, costs_tick.bind hrest.bind_pure⟩

theorem costs_segmentRow (atoms : List Atom) (parts : List (List ℕ)) :
    ∀ (carry : Bool) (states : List Bool), states.length = parts.length + 1 →
      ∃ cost, Costs (globRow (some atoms) carry parts states)
        (onceRow (segmentFound atoms) carry parts states) cost := by
  induction parts with
  | nil =>
    intro carry states hlength
    obtain ⟨here, rfl⟩ := List.length_eq_one_iff.1 hlength
    exact ⟨_, costs_tick.bind (Costs.pure [carry])⟩
  | cons part parts ih =>
    intro carry states hlength
    obtain ⟨here, rest, rfl⟩ := List.exists_cons_of_length_eq_add_one hlength
    obtain ⟨cost, hrest⟩ := ih (here && segmentFound atoms part) rest (by simpa using hlength)
    obtain ⟨work, hfound⟩ : ∃ work, Costs (if here then sequence atoms part true true else pure false)
        (here && segmentFound atoms part) work := by
      cases here with
      | false => exact ⟨0, Costs.pure false⟩
      | true => exact costs_sequence atoms part true true
    exact ⟨_, costs_tick.bind (hfound.bind hrest.bind_pure)⟩

theorem globRow_covers {L : Language (List ℕ)} {parts : List (List ℕ)} {states : List Bool}
    (segment : Option (List Atom)) (h : Covers L [] parts states) :
    ∃ next cost, Costs (globRow segment false parts states) next cost ∧
      Covers (L * (segmentAtom segment).language) [] parts next := by
  cases segment with
  | none =>
    obtain ⟨cost, hcost⟩ := costs_deepRow parts false states h.length
    exact ⟨_, cost, hcost, covers_manyRow (iff_of_false Bool.false_ne_true nil_notMem_mul_base) h⟩
  | some atoms =>
    obtain ⟨cost, hcost⟩ := costs_segmentRow atoms parts false states h.length
    exact ⟨_, cost, hcost, covers_onceRow (iff_of_false Bool.false_ne_true nil_notMem_mul_base) h⟩

theorem globRows_covers (segments : List (Option (List Atom))) (parts : List (List ℕ)) :
    ∀ {L : Language (List ℕ)} {states : List Bool}, Covers L [] parts states →
      ∃ last cost, Costs (globRows parts segments states) last cost ∧
        Covers (L * sequenceLanguage (segments.map segmentAtom)) [] parts last := by
  induction segments with
  | nil =>
    intro L states h
    refine ⟨states, 0, Costs.pure states, ?_⟩
    rwa [List.map_nil, sequenceLanguage, List.map_nil, List.prod_nil, mul_one]
  | cons segment segments ih =>
    intro L states h
    obtain ⟨next, work, hnext, hcovers⟩ := globRow_covers segment h
    obtain ⟨last, cost, hlast, hdone⟩ := ih hcovers
    refine ⟨last, _, hnext.bind hlast, ?_⟩
    rw [mul_assoc] at hdone
    exact hdone

theorem glob_decides (segments : List (Option (List Atom))) (text : List ℕ) : Decides (do
        let active ← globRows (splitPath text) segments
          (true :: List.replicate (splitPath text).length false) return active.getD (splitPath text).length false)
      (PathMatch segments (splitPath text)) := by
  obtain ⟨last, cost, hcost, hcovers⟩ := globRows_covers segments (splitPath text) (covers_opening (splitPath text))
  refine ⟨_, cost, ?_, hcost.bind_pure⟩
  rw [hcovers.last, one_mul, List.nil_append, mem_sequenceLanguage_iff_pathMatch]

/-- A compiled regex finds a word of its atoms' language where its anchors allow, and a compiled
glob matches the parts of a path in order. The budget decides only whether the answer is given. -/
theorem engines_implement_grammars : (∀ pattern matcher, regex pattern = .ok matcher →
      ∃ parsed, parseRegex pattern = .ok parsed ∧ ∀ text, Decides (matcher text)
        (Found parsed.startAnchor parsed.endAnchor (sequenceLanguage parsed.atoms) (codePoints text))) ∧
    (∀ pattern matcher, glob pattern = .ok matcher →
      ∃ segments, parseGlob pattern = .ok segments ∧ ∀ text, Decides (matcher text)
        (PathMatch segments (splitPath text))) := by
  constructor
  · intro pattern matcher h
    obtain ⟨parsed, hparsed, hmatcher⟩ := bind_ok h
    refine ⟨parsed, hparsed, fun text => ?_⟩
    obtain rfl := Except.ok.inj hmatcher
    obtain ⟨cost, hcost⟩ := costs_sequence parsed.atoms text parsed.startAnchor parsed.endAnchor
    exact ⟨_, cost, scan_iff_found _ _ _ _, hcost⟩
  · intro pattern matcher h
    obtain ⟨segments, hsegments, hmatcher⟩ := bind_ok h
    refine ⟨segments, hsegments, fun text => ?_⟩
    obtain rfl := Except.ok.inj hmatcher
    exact glob_decides segments text

theorem regex_plus : regex (['^', 'a', '+'].map Char.toNat) =
    .ok (fun text => sequence [⟨fun value => value == 'a'.toNat, true, false⟩] text true false) := by
  have h : regexAtoms (['a', '+'].map Char.toNat) =
      .ok ([⟨fun value => value == 'a'.toNat, true, false⟩], false) := by
    rw [List.map_cons, regexAtoms]
    change (regexAtoms [] >>= fun parsed => pure (_ :: parsed.1, parsed.2)) = _
    rw [regexAtoms]
    rfl
  change (regexAtoms (['a', '+'].map Char.toNat) >>= _) >>= _ = _
  rw [h]
  rfl

theorem parseGlob_deep : parseGlob (['a', '/', '*', '*'].map Char.toNat) = .ok [some [literal 'a'.toNat], none] := by
  have h : globAtoms (['a'].map Char.toNat) = .ok [literal 'a'.toNat] := by
    rw [List.map_cons, globAtoms]
    change (do let atoms ← globAtoms []; pure (literal 'a'.toNat :: atoms)) = _
    rw [globAtoms]
    rfl
  change (do
    let first ← some <$> globAtoms (['a'].map Char.toNat)
    let second ← Except.ok none
    pure [first, second]) = _
  rw [h]
  rfl

theorem engines_implement_grammars_sample :
    (∃ parsed, parseRegex (['^', 'a', '+'].map Char.toNat) = .ok parsed ∧ ∀ text,
      Decides (sequence [⟨fun value => value == 'a'.toNat, true, false⟩] text true false)
        (Found parsed.startAnchor parsed.endAnchor (sequenceLanguage parsed.atoms) (codePoints text))) ∧
    (∃ segments, parseGlob (['a', '/', '*', '*'].map Char.toNat) = .ok segments ∧ ∀ text, Decides (do
          let active ← globRows (splitPath text) [some [literal 'a'.toNat], none]
            (true :: List.replicate (splitPath text).length false) return active.getD (splitPath text).length false)
        (PathMatch segments (splitPath text))) :=
  ⟨engines_implement_grammars.1 _ _ regex_plus,
    engines_implement_grammars.2 _ _ (by rw [glob, parseGlob_deep]; rfl)⟩

end FilePatterns
