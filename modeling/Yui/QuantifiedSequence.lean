import Mathlib.Computability.Language
import Mathlib.Tactic.Common

/-!
# Sequences of quantified letters, and two ways of matching them

A sequence of letters, each carrying a quantifier, denotes the product of the languages of its
members. Reading a word letter by letter keeps one mark for each position of the sequence; reading
the sequence member by member keeps one mark for each prefix of the word. Each algorithm is stated
as a recursion along its row of marks, and each row is tied to the languages that its marks decide.
-/

open scoped Computability

/-- A test on letters, to be passed once, at least once, at most once or any number of times. -/
structure Quantified (α : Type*) where
  test : α → Bool
  repeats : Bool
  optional : Bool

namespace Quantified

variable {α : Type*}

def once (test : α → Bool) : Quantified α := ⟨test, false, false⟩

def many : Quantified α := ⟨fun _ => true, true, true⟩

def base (atom : Quantified α) : Language α := {w | ∃ c, atom.test c = true ∧ w = [c]}

def language (atom : Quantified α) : Language α :=
  match atom.repeats, atom.optional with
  | false, false => atom.base
  | true, false => atom.base * atom.base∗
  | false, true => 1 + atom.base
  | true, true => atom.base∗

def sequenceLanguage (atoms : List (Quantified α)) : Language α := (atoms.map language).prod

/-- A factor, a prefix, a suffix or the whole of the text, as the anchors say. -/
def Found (startAnchor endAnchor : Bool) (L : Language α) (text : List α) : Prop :=
  ∃ before word after, text = before ++ word ++ after ∧ word ∈ L ∧
    (startAnchor = true → before = []) ∧ (endAnchor = true → after = [])

section Languages

variable {atom : Quantified α} {L M : Language α} {w : List α} {c : α}

theorem top_mem (w : List α) : w ∈ (⊤ : Language α) := Set.mem_univ w

theorem nil_notMem_base : [] ∉ atom.base := by
  rintro ⟨c, _, h⟩
  exact absurd h (by simp)

theorem nil_notMem_mul_base : [] ∉ L * atom.base := by
  rintro ⟨u, _, v, hv, h⟩
  obtain ⟨_, rfl⟩ := List.append_eq_nil_iff.1 h
  exact nil_notMem_base hv

theorem snoc_mem_mul_base_iff : w ++ [c] ∈ L * atom.base ↔ w ∈ L ∧ atom.test c = true := by
  constructor
  · rintro ⟨u, hu, _, ⟨d, hd, rfl⟩, h⟩
    obtain ⟨rfl, hdc⟩ := List.append_inj' h rfl
    obtain rfl : d = c := by simpa using hdc
    exact ⟨hu, hd⟩
  · rintro ⟨hw, hc⟩
    exact ⟨w, hw, [c], ⟨c, hc, rfl⟩, rfl⟩

/-- What the atom may read before it is left: copies of its base when it repeats. -/
def loop (atom : Quantified α) : Language α := if atom.repeats then atom.base∗ else 1

def skip (atom : Quantified α) : Language α := if atom.optional then 1 else 0

theorem language_eq (atom : Quantified α) : atom.language = atom.loop * (atom.base + atom.skip) := by
  obtain ⟨test, repeats, optional⟩ := atom
  set base := base ⟨test, repeats, optional⟩ with hbase
  have hstar : base∗ * base + base∗ = base∗ := by
    calc base∗ * base + base∗ = base∗ * base + (1 + base∗ * base) := by
          rw [Language.one_add_kstar_mul_self_eq_kstar]
      _ = 1 + (base∗ * base + base∗ * base) := by rw [add_left_comm]
      _ = base∗ := by rw [Language.add_self, Language.one_add_kstar_mul_self_eq_kstar]
  cases repeats <;> cases optional
  · simp [language, loop, skip, ← hbase]
  · change 1 + base = 1 * (base + 1)
    rw [one_mul, add_comm]
  · simp [language, loop, skip, ← hbase, Language.mul_self_kstar_comm]
  · change base∗ = base∗ * (base + 1)
    rw [mul_add, mul_one, hstar]

theorem mem_mul_loop_iff : w ∈ L * atom.loop ↔ w ∈ L ∨ (atom.repeats = true ∧ w ∈ L * atom.loop * atom.base) := by
  cases hr : atom.repeats with
  | false => simp [loop, hr]
  | true =>
    have h : L * atom.loop = L + L * atom.loop * atom.base := by
      rw [loop, if_pos hr, mul_assoc]
      nth_rewrite 1 [← Language.one_add_kstar_mul_self_eq_kstar]
      rw [mul_add, mul_one]
    nth_rewrite 1 [h]
    rw [Language.mem_add, eq_self, true_and]

theorem mem_mul_language_iff : w ∈ L * atom.language ↔
      w ∈ L * atom.loop * atom.base ∨ (atom.optional = true ∧ w ∈ L * atom.loop) := by
  rw [language_eq, ← mul_assoc, mul_add, Language.mem_add]
  cases ho : atom.optional <;> simp [skip, ho]

end Languages

/-! ## One mark for each position of the sequence -/

section Columns

def closeFrom : List (Quantified α) → List Bool → List Bool
  | atom :: atoms, here :: next :: rest =>
    here :: closeFrom atoms ((next || (here && atom.optional)) :: rest)
  | _, marks => marks

/-- The marks after a letter. `carry` is the mark the position has from the one before it. -/
def nextFrom (c : α) : Bool → List (Quantified α) → List Bool → List Bool
  | carry, atom :: atoms, here :: rest =>
    (carry || (here && atom.test c && atom.repeats)) ::
      nextFrom c (here && atom.test c) atoms rest
  | carry, _, _ => [carry]

/-- `closeFrom` after `nextFrom`, in one walk along the row. -/
def advance (c : α) : Bool → List (Quantified α) → List Bool → List Bool
  | enter, atom :: atoms, here :: rest =>
    let stay := enter || (here && atom.test c && atom.repeats)
    stay :: advance c ((here && atom.test c) || (stay && atom.optional)) atoms rest
  | enter, _, _ => [enter]

def opening : Bool → List (Quantified α) → List Bool
  | enter, [] => [enter]
  | enter, atom :: atoms => enter :: opening (enter && atom.optional) atoms

theorem nextFrom_ne_nil (c : α) (carry : Bool) (atoms : List (Quantified α)) (marks : List Bool) :
    ∃ head tail, ∀ more, nextFrom c (carry || more) atoms marks = (head || more) :: tail := by
  cases atoms with
  | nil => exact ⟨carry, [], fun more => rfl⟩
  | cons atom atoms =>
    cases marks with
    | nil => exact ⟨carry, [], fun more => rfl⟩
    | cons here rest =>
      refine ⟨carry || (here && atom.test c && atom.repeats),
        nextFrom c (here && atom.test c) atoms rest, fun more => ?_⟩
      simp only [nextFrom, Bool.or_right_comm]

theorem closeFrom_nextFrom (c : α) : ∀ (carry : Bool) (atoms : List (Quantified α)) (marks : List Bool),
      marks.length = atoms.length + 1 →
      closeFrom atoms (nextFrom c carry atoms marks) = advance c carry atoms marks := by
  intro carry atoms
  induction atoms generalizing carry with
  | nil => intro marks _; cases marks <;> rfl
  | cons atom atoms ih =>
    intro marks hlength
    obtain ⟨here, rest, rfl⟩ : ∃ here rest, marks = here :: rest := List.exists_cons_of_length_eq_add_one hlength
    obtain ⟨head, tail, hnext⟩ := nextFrom_ne_nil c (here && atom.test c) atoms rest
    have hhead := hnext false
    simp only [Bool.or_false] at hhead
    simp only [nextFrom, advance, hhead, closeFrom]
    rw [← hnext, ih _ rest (by simpa using hlength)]

theorem closeFrom_replicate (enter : Bool) (atoms : List (Quantified α)) :
    closeFrom atoms (enter :: List.replicate atoms.length false) = opening enter atoms := by
  induction atoms generalizing enter with
  | nil => rfl
  | cons atom atoms ih =>
    simp only [List.length_cons, List.replicate_succ, closeFrom, opening, Bool.false_or]
    rw [ih]

@[simp] theorem length_advance (c : α) (enter : Bool) :
    ∀ (atoms : List (Quantified α)) (marks : List Bool), marks.length = atoms.length + 1 →
      (advance c enter atoms marks).length = atoms.length + 1 := by
  intro atoms
  induction atoms generalizing enter with
  | nil => intro marks _; cases marks <;> rfl
  | cons atom atoms ih =>
    intro marks hlength
    obtain ⟨here, rest, rfl⟩ : ∃ here rest, marks = here :: rest := List.exists_cons_of_length_eq_add_one hlength
    simp [advance, ih _ rest (by simpa using hlength)]

@[simp] theorem length_opening (enter : Bool) (atoms : List (Quantified α)) :
    (opening enter atoms).length = atoms.length + 1 := by
  induction atoms generalizing enter with
  | nil => rfl
  | cons atom atoms ih => simp [opening, ih]

/-- Each mark says whether the word read so far leads to its position, from the words of `L`
before the first position on. -/
def Marks (w : List α) : Language α → List (Quantified α) → List Bool → Prop
  | L, [], [here] => (here = true ↔ w ∈ L)
  | L, atom :: atoms, here :: rest =>
    (here = true ↔ w ∈ L * atom.loop) ∧ Marks w (L * atom.language) atoms rest
  | _, _, _ => False

variable {atoms : List (Quantified α)}

theorem Marks.last {w : List α} {L : Language α} {marks : List Bool} (h : Marks w L atoms marks) :
    marks.getD atoms.length false = true ↔ w ∈ L * sequenceLanguage atoms := by
  induction atoms generalizing L marks with
  | nil =>
    match marks, h with
    | [here], h =>
      rw [sequenceLanguage, List.map_nil, List.prod_nil, mul_one]
      exact h
  | cons atom atoms ih =>
    match marks, h with
    | here :: rest, ⟨_, hrest⟩ => simpa [sequenceLanguage, mul_assoc] using ih hrest

theorem marks_opening {L : Language α} {enter : Bool} (atoms : List (Quantified α))
    (henter : enter = true ↔ [] ∈ L) : Marks [] L atoms (opening enter atoms) := by
  induction atoms generalizing L enter with
  | nil => exact henter
  | cons atom atoms ih =>
    have hstay : enter = true ↔ [] ∈ L * atom.loop := by
      rw [mem_mul_loop_iff, henter]
      simp [nil_notMem_mul_base]
    refine ⟨hstay, ih ?_⟩
    rw [mem_mul_language_iff, ← hstay]
    simp [nil_notMem_mul_base, and_comm]

theorem marks_advance {w : List α} {c : α} {L : Language α}
    {marks : List Bool} {enter : Bool} (henter : enter = true ↔ w ++ [c] ∈ L)
    (h : Marks w L atoms marks) : Marks (w ++ [c]) L atoms (advance c enter atoms marks) := by
  induction atoms generalizing L marks enter with
  | nil =>
    match marks, h with
    | [_], _ => exact henter
  | cons atom atoms ih =>
    match marks, h with
    | here :: rest, ⟨hhere, hrest⟩ =>
      have hread : (here && atom.test c) = true ↔ w ++ [c] ∈ L * atom.loop * atom.base := by
        rw [snoc_mem_mul_base_iff, Bool.and_eq_true, hhere]
      have hstay : (enter || (here && atom.test c && atom.repeats)) = true ↔
          w ++ [c] ∈ L * atom.loop := by
        rw [mem_mul_loop_iff, Bool.or_eq_true, Bool.and_eq_true, hread, henter, and_comm]
      refine ⟨hstay, ih ?_ hrest⟩
      rw [mem_mul_language_iff, Bool.or_eq_true, hread, Bool.and_eq_true, hstay, and_comm (a := atom.optional = true)]

/-- The words that may stand before the sequence. -/
def entry (startAnchor : Bool) : Language α := if startAnchor then 1 else ⊤

def scan (startAnchor endAnchor : Bool) (atoms : List (Quantified α)) : List Bool → List α → Bool
  | marks, [] => marks.getD atoms.length false
  | marks, c :: text =>
    (!endAnchor && marks.getD atoms.length false) ||
      scan startAnchor endAnchor atoms (advance c (!startAnchor) atoms marks) text

theorem nil_mem_entry (startAnchor : Bool) : [] ∈ (entry startAnchor : Language α) := by
  cases startAnchor
  · exact top_mem []
  · exact Language.nil_mem_one

theorem snoc_mem_entry_iff (startAnchor : Bool) (w : List α) (c : α) :
    (!startAnchor) = true ↔ w ++ [c] ∈ (entry startAnchor : Language α) := by
  cases startAnchor
  · exact iff_of_true rfl (top_mem _)
  · simp [entry, Language.mem_one]

theorem scan_iff_read {startAnchor endAnchor : Bool} {w : List α}
    {marks : List Bool} (h : Marks w (entry startAnchor) atoms marks) (text : List α) :
    scan startAnchor endAnchor atoms marks text = true ↔
      ∃ read after, text = read ++ after ∧ w ++ read ∈ entry startAnchor * sequenceLanguage atoms ∧
        (endAnchor = true → after = []) := by
  induction text generalizing w marks with
  | nil =>
    rw [scan, h.last]
    constructor
    · exact fun hw => ⟨[], [], rfl, by simpa using hw, fun _ => rfl⟩
    · rintro ⟨read, after, htext, hread, _⟩
      obtain ⟨rfl, rfl⟩ := List.append_eq_nil_iff.1 htext.symm
      simpa using hread
  | cons c text ih =>
    rw [scan, Bool.or_eq_true, ih (marks_advance (snoc_mem_entry_iff startAnchor w c) h), Bool.and_eq_true, h.last]
    constructor
    · rintro (⟨hopen, hw⟩ | ⟨read, after, rfl, hread, hafter⟩)
      · exact ⟨[], c :: text, rfl, by simpa using hw, fun hend => by simp [hend] at hopen⟩
      · exact ⟨c :: read, after, rfl, by simpa using hread, hafter⟩
    · rintro ⟨read, after, htext, hread, hafter⟩
      cases read with
      | nil =>
        obtain rfl : c :: text = after := htext
        have hopen : endAnchor = false := by
          cases endAnchor with
          | false => rfl
          | true => exact absurd (hafter rfl) (by simp)
        exact .inl ⟨by simp [hopen], by simpa using hread⟩
      | cons d read =>
        obtain ⟨rfl, rfl⟩ : c = d ∧ text = read ++ after := by simpa using htext
        exact .inr ⟨read, after, rfl, by simpa using hread, hafter⟩

theorem found_iff_read {startAnchor endAnchor : Bool} {L : Language α} {text : List α} :
    Found startAnchor endAnchor L text ↔ ∃ read after, text = read ++ after ∧ read ∈ entry startAnchor * L ∧
        (endAnchor = true → after = []) := by
  constructor
  · rintro ⟨before, word, after, htext, hword, hstart, hend⟩
    refine ⟨before ++ word, after, htext, ⟨before, ?_, word, hword, rfl⟩, hend⟩
    cases startAnchor with
    | false => exact top_mem before
    | true => exact hstart rfl
  · rintro ⟨_, after, htext, ⟨before, hbefore, word, hword, rfl⟩, hend⟩
    refine ⟨before, word, after, htext, hword, fun hstart => ?_, hend⟩
    subst hstart
    exact hbefore

theorem scan_iff_found (startAnchor endAnchor : Bool) (atoms : List (Quantified α)) (text : List α) :
    scan startAnchor endAnchor atoms (opening true atoms) text = true ↔
      Found startAnchor endAnchor (sequenceLanguage atoms) text := by
  have hopening := marks_opening atoms (iff_of_true rfl (nil_mem_entry (α := α) startAnchor))
  rw [scan_iff_read hopening, found_iff_read]
  simp only [List.nil_append]

theorem found_whole_iff {L : Language α} {text : List α} : Found true true L text ↔ text ∈ L := by
  constructor
  · rintro ⟨before, word, after, rfl, hword, hstart, hend⟩
    obtain rfl := hstart rfl
    obtain rfl := hend rfl
    simpa using hword
  · exact fun h => ⟨[], text, [], by simp, h, fun _ => rfl, fun _ => rfl⟩

end Columns

/-! ## One mark for each prefix of the word -/

section Rows

def onceRow (test : α → Bool) : Bool → List α → List Bool → List Bool
  | carry, part :: parts, here :: rest => carry :: onceRow test (here && test part) parts rest
  | carry, _, _ => [carry]

def manyRow : Bool → List Bool → List Bool
  | carry, here :: rest => (here || carry) :: manyRow (here || carry) rest
  | _, [] => []

/-- Each mark says whether the parts before it are a word of `L`. -/
def Covers (L : Language α) : List α → List α → List Bool → Prop
  | seen, [], [here] => (here = true ↔ seen ∈ L)
  | seen, part :: parts, here :: rest => (here = true ↔ seen ∈ L) ∧ Covers L (seen ++ [part]) parts rest
  | _, _, _ => False

variable {L : Language α} {seen parts : List α} {marks : List Bool}

theorem Covers.last (h : Covers L seen parts marks) : marks.getD parts.length false = true ↔ seen ++ parts ∈ L := by
  induction parts generalizing seen marks with
  | nil =>
    match marks, h with
    | [here], h =>
      rw [List.append_nil]
      exact h
  | cons part parts ih =>
    match marks, h with
    | here :: rest, ⟨_, hrest⟩ => simpa using ih hrest

theorem Covers.length (h : Covers L seen parts marks) : marks.length = parts.length + 1 := by
  induction parts generalizing seen marks with
  | nil =>
    match marks, h with
    | [_], _ => rfl
  | cons part parts ih =>
    match marks, h with
    | here :: rest, ⟨_, hrest⟩ => simpa using ih hrest

theorem covers_none (parts : List α) (hseen : seen ≠ []) :
    Covers 1 seen parts (List.replicate (parts.length + 1) false) := by
  have hnot : (false = true) ↔ seen ∈ (1 : Language α) :=
    iff_of_false Bool.false_ne_true fun h => hseen ((Language.mem_one seen).1 h)
  induction parts generalizing seen with
  | nil => exact hnot
  | cons part parts ih =>
    have hmore : seen ++ [part] ≠ [] := by simp
    exact ⟨hnot, ih hmore (iff_of_false Bool.false_ne_true fun h => hmore ((Language.mem_one _).1 h))⟩

theorem covers_opening (parts : List α) : Covers 1 [] parts (true :: List.replicate parts.length false) := by
  cases parts with
  | nil => exact iff_of_true rfl Language.nil_mem_one
  | cons part parts =>
    exact ⟨iff_of_true rfl Language.nil_mem_one, covers_none parts (by simp)⟩

theorem covers_onceRow {test : α → Bool} {carry : Bool}
    (hcarry : carry = true ↔ seen ∈ L * (once test).language) (h : Covers L seen parts marks) :
    Covers (L * (once test).language) seen parts (onceRow test carry parts marks) := by
  induction parts generalizing seen marks carry with
  | nil =>
    match marks, h with
    | [_], _ => exact hcarry
  | cons part parts ih =>
    match marks, h with
    | here :: rest, ⟨hhere, hrest⟩ =>
      refine ⟨hcarry, ih ?_ hrest⟩
      change _ ↔ seen ++ [part] ∈ L * (once test).base
      rw [snoc_mem_mul_base_iff, Bool.and_eq_true, hhere]
      rfl

theorem mem_many (w : List α) : w ∈ (many : Quantified α).language := by
  refine Language.mem_kstar.2 ⟨w.map fun c => [c], (List.flatMap_singleton' w).symm, fun y hy => ?_⟩
  obtain ⟨c, _, rfl⟩ := List.mem_map.1 hy
  exact ⟨c, rfl, rfl⟩

theorem mem_mul_many_iff : seen ∈ L * (many : Quantified α).language ↔
    seen ∈ L ∨ seen ∈ L * (many : Quantified α).language * (many : Quantified α).base := by
  have hloop : (many : Quantified α).loop = (many : Quantified α).language := if_pos rfl
  rw [← hloop, mem_mul_loop_iff]
  exact or_congr_right (and_iff_right rfl)

theorem covers_manyRow {carry : Bool}
    (hcarry : carry = true ↔ seen ∈ L * (many : Quantified α).language * (many : Quantified α).base)
    (h : Covers L seen parts marks) :
    Covers (L * (many : Quantified α).language) seen parts (manyRow carry marks) := by
  induction parts generalizing seen marks carry with
  | nil =>
    match marks, h with
    | [here], h =>
      change (here || carry) = true ↔ _
      rw [mem_mul_many_iff, Bool.or_eq_true, hcarry]
      exact or_congr_left h
  | cons part parts ih =>
    match marks, h with
    | here :: rest, ⟨hhere, hrest⟩ =>
      have hstay : (here || carry) = true ↔ seen ∈ L * (many : Quantified α).language := by
        rw [mem_mul_many_iff, Bool.or_eq_true, hcarry, hhere]
      refine ⟨hstay, ih ?_ hrest⟩
      rw [snoc_mem_mul_base_iff, hstay]
      exact (and_iff_left rfl).symm

end Rows

end Quantified
