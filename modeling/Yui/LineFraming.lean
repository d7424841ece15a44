import Mathlib.Data.List.Basic

/-!
# Lines of a stream that arrives in pieces

`split` cuts a text at every separator into its complete lines and what follows the last separator. Cutting a text
that has arrived in pieces continues with the unfinished line.
-/

namespace LineFraming

variable {α : Type} [DecidableEq α] (sep : α)

def feed (state : List (List α) × List α) (c : α) : List (List α) × List α :=
  if c = sep then (state.1 ++ [state.2], []) else (state.1, state.2 ++ [c])

def split (text : List α) : List (List α) × List α := text.foldl (feed sep) ([], [])

def complete (text : List α) : List (List α) := (split sep text).1

def unfinished (text : List α) : List α := (split sep text).2

variable {sep}

theorem foldl_feed (lines : List (List α)) (current text : List α) : text.foldl (feed sep) (lines, current) =
      (lines ++ (text.foldl (feed sep) ([], current)).1, (text.foldl (feed sep) ([], current)).2) := by
  induction text generalizing lines current with
  | nil => simp
  | cons c text ih =>
    by_cases hc : c = sep
    · simp only [List.foldl_cons, feed, if_pos hc]
      rw [ih (lines ++ [current]), ih ([] ++ [current])]
      simp
    · simp only [List.foldl_cons, feed, if_neg hc]
      exact ih lines (current ++ [c])

theorem foldl_feed_of_notMem {text : List α} (h : sep ∉ text) (current : List α) :
    text.foldl (feed sep) ([], current) = ([], current ++ text) := by
  induction text generalizing current with
  | nil => simp
  | cons c text ih =>
    obtain ⟨hc, htext⟩ := List.ne_and_not_mem_of_not_mem_cons h
    rw [List.foldl_cons, feed, if_neg (Ne.symm hc)]
    simpa using ih htext (current ++ [c])

theorem notMem_foldl_feed {text current : List α} (h : sep ∉ current) :
    sep ∉ (text.foldl (feed sep) ([], current)).2 := by
  induction text generalizing current with
  | nil => exact h
  | cons c text ih =>
    by_cases hc : c = sep
    · rw [List.foldl_cons, feed, if_pos hc, foldl_feed]
      exact ih List.not_mem_nil
    · rw [List.foldl_cons, feed, if_neg hc]
      refine ih fun hmem => ?_
      obtain hmem | hmem := List.mem_append.1 hmem
      · exact h hmem
      · exact hc (List.mem_singleton.1 hmem).symm

theorem notMem_unfinished (text : List α) : sep ∉ unfinished sep text := notMem_foldl_feed List.not_mem_nil

theorem split_append (text more : List α) : split sep (text ++ more) =
      (complete sep text ++ complete sep (unfinished sep text ++ more), unfinished sep (unfinished sep text ++ more)) := by
  have hrest : split sep (unfinished sep text ++ more) = more.foldl (feed sep) ([], unfinished sep text) := by
    rw [split, List.foldl_append, foldl_feed_of_notMem (notMem_unfinished text), List.nil_append]
  change _ = ((split sep text).1 ++ (split sep (unfinished sep text ++ more)).1,
    (split sep (unfinished sep text ++ more)).2)
  rw [hrest, split, List.foldl_append]
  exact foldl_feed _ _ more

theorem complete_append (text more : List α) :
    complete sep (text ++ more) = complete sep text ++ complete sep (unfinished sep text ++ more) :=
  congrArg Prod.fst (split_append text more)

theorem unfinished_append (text more : List α) :
    unfinished sep (text ++ more) = unfinished sep (unfinished sep text ++ more) := by
  rw [unfinished, split_append]

theorem split_of_notMem {text : List α} (h : sep ∉ text) : split sep text = ([], text) := foldl_feed_of_notMem h []

/-- The first line ends at the first separator. -/
theorem split_cons {line : List α} (h : sep ∉ line) (rest : List α) :
    split sep (line ++ sep :: rest) = (line :: complete sep rest, unfinished sep rest) := by
  rw [split, List.foldl_append, foldl_feed_of_notMem h, List.foldl_cons, feed, if_pos rfl, foldl_feed]
  rfl

theorem cons_inj {line other rest more : List α} (hline : sep ∉ line) (hother : sep ∉ other)
    (h : line ++ sep :: rest = other ++ sep :: more) : line = other ∧ rest = more := by
  have hlines := congrArg (split sep) h
  rw [split_cons hline, split_cons hother] at hlines
  obtain rfl := List.head_eq_of_cons_eq (congrArg Prod.fst hlines)
  exact ⟨rfl, List.tail_eq_of_cons_eq (List.append_cancel_left h)⟩

/-- The last line starts at the last separator. -/
theorem snoc_inj {line other rest more : List α} (hline : sep ∉ line) (hother : sep ∉ other)
    (h : rest ++ sep :: line = more ++ sep :: other) : rest = more ∧ line = other := by
  have hreverse : line.reverse ++ sep :: rest.reverse = other.reverse ++ sep :: more.reverse := by
    simpa using congrArg List.reverse h
  obtain ⟨hlines, hrest⟩ := cons_inj (by simpa using hline) (by simpa using hother) hreverse
  exact ⟨List.reverse_injective hrest, List.reverse_injective hlines⟩

end LineFraming
