import Mathlib.Data.List.Nodup
import Mathlib.Data.List.Infix

/-!
# Appending without repeating a key

`appendUnique` walks the incoming values and pushes those whose key is not present yet. The
result extends the existing list, has the keys of both lists and repeats no key that the existing
list did not repeat.
-/

variable {α κ : Type*} [DecidableEq κ]

def appendUnique (keyOf : α → κ) (existing incoming : List α) : List α :=
  incoming.foldl
    (fun result value => if keyOf value ∈ result.map keyOf then result else result ++ [value])
    existing

namespace appendUnique

variable {keyOf : α → κ}

@[simp] theorem nil_right (existing : List α) : appendUnique keyOf existing [] = existing := rfl

theorem cons_right (existing incoming : List α) (value : α) :
    appendUnique keyOf existing (value :: incoming) =
      appendUnique keyOf
        (if keyOf value ∈ existing.map keyOf then existing else existing ++ [value]) incoming := rfl

theorem append_right (existing incoming more : List α) : appendUnique keyOf existing (incoming ++ more) =
      appendUnique keyOf (appendUnique keyOf existing incoming) more :=
  List.foldl_append

theorem mem_map_key (existing incoming : List α) (k : κ) : k ∈ (appendUnique keyOf existing incoming).map keyOf ↔
      k ∈ existing.map keyOf ∨ k ∈ incoming.map keyOf := by
  induction incoming generalizing existing with
  | nil => simp
  | cons value incoming ih =>
    rw [cons_right, ih]
    split_ifs with hk
    · simp only [List.map_cons, List.mem_cons]
      constructor
      · exact fun h => h.imp_right .inr
      · rintro (h | rfl | h)
        · exact .inl h
        · exact .inl hk
        · exact .inr h
    · simp only [List.map_append, List.map_cons, List.map_nil, List.mem_append, List.mem_cons,
        List.not_mem_nil, or_false, or_assoc]

variable {existing incoming : List α}

theorem mem_or_mem {x : α} (hx : x ∈ appendUnique keyOf existing incoming) : x ∈ existing ∨ x ∈ incoming := by
  induction incoming generalizing existing with
  | nil => exact .inl hx
  | cons value incoming ih =>
    rw [cons_right] at hx
    rcases ih hx with h | h
    · split_ifs at h
      · exact .inl h
      · rcases List.mem_append.1 h with h | h
        · exact .inl h
        · exact .inr (by simp [List.mem_singleton.1 h])
    · exact .inr (List.mem_cons_of_mem _ h)

theorem isPrefix (existing incoming : List α) : existing <+: appendUnique keyOf existing incoming := by
  induction incoming generalizing existing with
  | nil => exact List.prefix_rfl
  | cons value incoming ih =>
    rw [cons_right]
    refine List.IsPrefix.trans ?_ (ih _)
    split_ifs
    · exact List.prefix_rfl
    · exact List.prefix_append _ _

theorem mem_of_mem_left {existing : List α} {x : α} (hx : x ∈ existing) (incoming : List α) :
    x ∈ appendUnique keyOf existing incoming :=
  (isPrefix existing incoming).mem hx

theorem nodup_map_key {existing : List α} (h : (existing.map keyOf).Nodup) (incoming : List α) :
    ((appendUnique keyOf existing incoming).map keyOf).Nodup := by
  induction incoming generalizing existing with
  | nil => exact h
  | cons value incoming ih =>
    rw [cons_right]
    apply ih
    split_ifs with hk
    · exact h
    · rw [List.map_append, List.map_cons, List.map_nil]
      exact List.Nodup.append h (List.nodup_singleton _) (by simpa using hk)

theorem eq_append (hn : (incoming.map keyOf).Nodup) (hd : ∀ x ∈ incoming, keyOf x ∉ existing.map keyOf) :
    appendUnique keyOf existing incoming = existing ++ incoming := by
  induction incoming generalizing existing with
  | nil => simp
  | cons value incoming ih =>
    have hv : keyOf value ∉ existing.map keyOf := hd value (by simp)
    rw [List.map_cons, List.nodup_cons] at hn
    rw [cons_right, if_neg hv, ih hn.2]
    · simp
    · intro x hx hk
      rw [List.map_append, List.map_cons, List.map_nil, List.mem_append, List.mem_singleton] at hk
      rcases hk with hk | hk
      · exact hd x (by simp [hx]) hk
      · exact hn.1 (hk ▸ List.mem_map_of_mem hx)

theorem eq_left (hd : ∀ x ∈ incoming, keyOf x ∈ existing.map keyOf) :
    appendUnique keyOf existing incoming = existing := by
  induction incoming generalizing existing with
  | nil => rfl
  | cons value incoming ih =>
    rw [cons_right, if_pos (hd value (by simp))]
    exact ih (fun x hx => hd x (by simp [hx]))

theorem mem_id {existing incoming : List κ} {x : κ} :
    x ∈ appendUnique id existing incoming ↔ x ∈ existing ∨ x ∈ incoming := by
  simpa using @mem_map_key _ _ _ id existing incoming x

theorem nodup_id {existing : List κ} (h : existing.Nodup) (incoming : List κ) :
    (appendUnique id existing incoming).Nodup := by
  simpa using @nodup_map_key _ _ _ id existing (by simpa using h) incoming

theorem eq_append_id {existing incoming : List κ} (hn : incoming.Nodup)
    (hd : ∀ x ∈ incoming, x ∉ existing) : appendUnique id existing incoming = existing ++ incoming :=
  eq_append (by simpa using hn) (by simpa using hd)

end appendUnique
