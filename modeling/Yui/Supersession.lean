import Mathlib.Data.List.Chain
import Mathlib.Data.List.Induction
import Mathlib.Data.List.Nodup

/-!
# Chains of superseding records

Records that name the record they supersede. In a linear history, where each record supersedes the one
before it, exactly one record is superseded by none, the last one, and the walk from it along what is
superseded ends at the first one, however the records are listed.
-/

namespace Supersession

universe u

variable {α : Type u} {κ : Type u} [DecidableEq κ] (id : α → κ) (previous : α → Option κ)

theorem countP_unseen_lt {records : List α} {seen : List κ} {record : α} (hmem : record ∈ records)
    (hnew : id record ∉ seen) : records.countP (fun other => id other ∉ id record :: seen) <
      records.countP fun other => id other ∉ seen := by
  rw [List.countP_eq_length_filter, List.countP_eq_length_filter]
  have hsub : (records.filter fun other => id other ∉ id record :: seen) =
      (records.filter fun other => id other ∉ seen).filter fun other => id other ≠ id record := by
    rw [List.filter_filter]
    refine List.filter_congr fun other _ => ?_
    simp [not_or]
  rw [hsub]
  exact List.length_filter_lt_length_iff_exists.2 ⟨record, by simpa using ⟨hmem, hnew⟩, by simp⟩

/-- `new Map(records.map(record => [id(record), record])).get(key)`. -/
def find (records : List α) (key : κ) : Option α := records.reverse.find? fun record => id record = key

theorem find_mem {records : List α} {key : κ} {record : α} (h : find id records key = some record) :
    record ∈ records := List.mem_reverse.1 (List.mem_of_find?_eq_some h)

/-- The records that none supersedes. -/
def roots (records : List α) : List α :=
  records.filter fun record => id record ∉ records.filterMap previous

inductive WalkFault (α κ : Type u) where
  | cycle (record : α)
  | missing (record : α) (target : κ)

/-- From a record along what it supersedes, until one supersedes nothing. -/
def walk (records : List α) (seen : List κ) (current : α) (_hmem : current ∈ records) : Except (WalkFault α κ) Unit :=
  match previous current with
  | none => .ok ()
  | some target =>
    if _hseen : id current ∈ seen then .error (.cycle current)
    else
      match hfound : find id records target with
      | none => .error (.missing current target)
      | some earlier => walk records (id current :: seen) earlier (find_mem id hfound)
  termination_by records.countP fun other => id other ∉ seen
  decreasing_by exact countP_unseen_lt id _hmem _hseen

/-- The walk from any record. -/
def walkFrom (records : List α) (current : α) : Except (WalkFault α κ) Unit :=
  match previous current with
  | none => .ok ()
  | some target =>
    match hfound : find id records target with
    | none => .error (.missing current target)
    | some earlier => walk id previous records [id current] earlier (find_mem id hfound)

/-- The first record supersedes nothing and each later one the one before it. -/
structure Linear (history : List α) : Prop where
  first : ∀ record ∈ history.head?, previous record = none
  linked : history.IsChain fun earlier later => previous later = some (id earlier)
  distinct : (history.map id).Nodup

variable {id previous} {records history : List α} {record current : α}

omit [DecidableEq κ] in
theorem Linear.nil : Linear id previous [] where
  first := by simp
  linked := List.isChain_nil
  distinct := by simp

omit [DecidableEq κ] in
theorem Linear.snoc (h : Linear id previous history) (hfirst : history = [] → previous record = none)
    (hlast : ∀ last ∈ history.getLast?, previous record = some (id last))
    (hnew : id record ∉ history.map id) : Linear id previous (history ++ [record]) where
  first other hother := by
    cases history with
    | nil =>
      cases hother
      exact hfirst rfl
    | cons head later =>
      cases hother
      exact h.first _ rfl
  linked := List.isChain_append.2 ⟨h.linked, List.isChain_singleton _, fun last hmem other hother => by
    cases hother
    exact hlast last hmem⟩
  distinct := by
    rw [List.map_append]
    exact h.distinct.append (List.nodup_singleton _) (by simpa using hnew)

omit [DecidableEq κ] in
theorem filterMap_of_isChain {head : α} {later : List α}
    (h : (head :: later).IsChain fun earlier later => previous later = some (id earlier)) :
    later.filterMap previous = (id head :: later.map id).dropLast := by
  induction later generalizing head with
  | nil => rfl
  | cons next later ih =>
    rw [List.isChain_cons_cons] at h
    rw [List.filterMap_cons_some h.1, ih h.2]
    rfl

variable {before : List α}

omit [DecidableEq κ] in
theorem Linear.superseded (h : Linear id previous (before ++ [record])) :
    (before ++ [record]).filterMap previous = before.map id := by
  have hfirst := h.first
  have hlinked := h.linked
  generalize hhistory : before ++ [record] = history at hfirst hlinked ⊢
  cases history with
  | nil => simp at hhistory
  | cons head later =>
    rw [List.filterMap_cons_none (hfirst head rfl), filterMap_of_isChain hlinked, ← List.map_cons,
      ← hhistory, List.map_append, List.map_singleton, List.dropLast_concat]

theorem Linear.roots_eq (h : Linear id previous (before ++ [record]))
    (hperm : records.Perm (before ++ [record])) : roots id previous records = [record] := by
  have hsame : ∀ other, id other ∈ records.filterMap previous ↔ id other ∈ before.map id := fun other => by
    rw [(hperm.filterMap previous).mem_iff, h.superseded]
  have hfilter : roots id previous records =
      records.filter fun other => decide (id other ∉ before.map id) := by
    unfold roots
    exact List.filter_congr fun other _ => decide_eq_decide.2 (not_congr (hsame other))
  have hlast : (before ++ [record]).filter (fun other => decide (id other ∉ before.map id)) = [record] := by
    have hdistinct := h.distinct
    rw [List.map_append, List.nodup_append] at hdistinct
    have hbefore : before.filter (fun other => decide (id other ∉ before.map id)) = [] := by
      refine List.filter_eq_nil_iff.2 fun other hother => ?_
      simpa using List.mem_map_of_mem hother
    have hnew : id record ∉ before.map id := fun hmem => hdistinct.2.2 _ hmem _ (by simp) rfl
    rw [List.filter_append, hbefore, List.nil_append, List.filter_cons_of_pos (by simpa using hnew), List.filter_nil]
  rw [hfilter]
  exact List.perm_singleton.1 (hlast ▸ hperm.filter _)

theorem find_eq_some (hdistinct : (records.map id).Nodup) (hmem : record ∈ records) :
    find id records (id record) = some record := by
  unfold find
  cases hfind : records.reverse.find? fun other => id other = id record with
  | none =>
    have hnone := List.find?_eq_none.1 hfind record (List.mem_reverse.2 hmem)
    simp at hnone
  | some other =>
    have hother := List.mem_reverse.1 (List.mem_of_find?_eq_some hfind)
    have hid : id other = id record := by simpa using List.find?_some hfind
    rw [List.inj_on_of_nodup_map hdistinct hother hmem hid]

theorem Linear.walk_ok {before after : List α} {seen : List κ} {hmem : current ∈ records}
    (h : Linear id previous (before ++ current :: after))
    (hperm : records.Perm (before ++ current :: after)) (hseen : ∀ key ∈ seen, key ∈ after.map id) :
    walk id previous records seen current hmem = .ok () := by
  induction before using List.reverseRecOn generalizing current after seen with
  | nil =>
    rw [walk, h.first current rfl]
  | append_singleton before earlier ih =>
    have hassoc : before ++ [earlier] ++ current :: after = before ++ earlier :: current :: after := by simp
    have hdistinct := h.distinct
    have hprevious : previous current = some (id earlier) := by
      have hlinked := h.linked
      rw [hassoc, List.isChain_append] at hlinked
      exact (List.isChain_cons_cons.1 hlinked.2.1).1
    have hunseen : id current ∉ seen := by
      intro hmem
      rw [List.map_append, List.nodup_append] at hdistinct
      exact (List.nodup_cons.1 hdistinct.2.1).1 (hseen _ hmem)
    have hfound : find id records (id earlier) = some earlier := by
      refine find_eq_some ((hperm.map id).nodup_iff.2 hdistinct) (hperm.mem_iff.2 ?_)
      simp
    rw [walk, hprevious]
    dsimp only
    rw [dif_neg hunseen]
    split
    · next hnone =>
        rw [hfound] at hnone
        cases hnone
    · next other hother =>
        rw [hfound, Option.some.injEq] at hother
        subst hother
        refine ih (hassoc ▸ h) (hassoc ▸ hperm) fun key hkey => ?_
        rcases List.mem_cons.1 hkey with rfl | hkey
        · simp
        · exact List.mem_cons_of_mem _ (hseen key hkey)

theorem Linear.walkFrom_ok (h : Linear id previous (before ++ [record]))
    (hperm : records.Perm (before ++ [record])) : walkFrom id previous records record = .ok () := by
  have hmem : record ∈ records := hperm.mem_iff.2 (by simp)
  have hwalk : walk id previous records [] record hmem = .ok () :=
    h.walk_ok hperm fun key hkey => absurd hkey List.not_mem_nil
  rw [walk] at hwalk
  unfold walkFrom
  split
  · rfl
  · next target htarget =>
      rw [htarget] at hwalk
      dsimp only at hwalk
      rw [dif_neg List.not_mem_nil] at hwalk
      exact hwalk

end Supersession
