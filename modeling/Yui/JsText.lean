import Mathlib.Data.List.DropRight

/-!
# JavaScript text, numbers and dates

`trim` removes the white space and line terminators of ECMAScript from both ends. `NormalText`
describes the strings that a trimming check returns: they have no NUL, are trimmed and are not
empty, and checking them again returns them unchanged. A number is seen only through
`Number.isInteger`, and `Date.parse` belongs to the host.
-/

namespace JsText

def whitespaceCodes : List ℕ :=
  [0x9, 0xA, 0xB, 0xC, 0xD, 0x20, 0xA0, 0x1680, 0x2000, 0x2001, 0x2002, 0x2003, 0x2004, 0x2005,
    0x2006, 0x2007, 0x2008, 0x2009, 0x200A, 0x2028, 0x2029, 0x202F, 0x205F, 0x3000, 0xFEFF]

def isWhitespace (c : Char) : Bool := whitespaceCodes.contains c.toNat

def trim (s : String) : String :=
  String.ofList ((s.toList.dropWhile isWhitespace).rdropWhile isWhitespace)

def nul : Char := Char.ofNat 0

/-- `value.includes("\0")`. -/
def includesNul (s : String) : Bool := s.toList.contains nul

variable {s : String}

theorem trim_eq_self (hhead : ∀ c ∈ s.toList.head?, isWhitespace c = false)
    (hlast : ∀ c ∈ s.toList.getLast?, isWhitespace c = false) : trim s = s := by
  have hd : s.toList.dropWhile isWhitespace = s.toList := by
    cases hs : s.toList with
    | nil => rfl
    | cons c l => exact List.dropWhile_cons_of_neg (by simp [hhead c (by simp [hs])])
  have hr : s.toList.rdropWhile isWhitespace = s.toList := by
    rw [List.rdropWhile_eq_self_iff]
    intro hne
    simp [hlast _ (List.getLast?_eq_some_getLast hne)]
  rw [trim, hd, hr, String.ofList_toList]

theorem head?_rdropWhile_mem (p : Char → Bool) (l : List Char) (c : Char)
    (hc : c ∈ (l.rdropWhile p).head?) : c ∈ l.head? := by
  obtain ⟨t, ht⟩ := List.rdropWhile_prefix p (l := l)
  cases hr : l.rdropWhile p with
  | nil => simp [hr] at hc
  | cons d r =>
    rw [hr] at ht hc
    rw [← ht]
    simpa using hc

theorem trim_trim (s : String) : trim (trim s) = trim s := by
  apply trim_eq_self
  · intro c hc
    rw [trim, String.toList_ofList] at hc
    have hhead := head?_rdropWhile_mem _ _ c hc
    have hnot := List.head?_dropWhile_not isWhitespace s.toList
    rw [Option.mem_def.1 hhead] at hnot
    simpa using hnot
  · intro c hc
    rw [trim, String.toList_ofList] at hc
    have hne : (s.toList.dropWhile isWhitespace).rdropWhile isWhitespace ≠ [] := by
      intro hnil
      simp [hnil] at hc
    rw [List.getLast?_eq_some_getLast hne, Option.mem_some_iff] at hc
    rw [← hc]
    simpa using List.rdropWhile_last_not isWhitespace _ hne

variable {c : Char}

theorem mem_of_mem_trim (hc : c ∈ (trim s).toList) : c ∈ s.toList := by
  rw [trim, String.toList_ofList] at hc
  exact List.dropWhile_subset _ ((List.rdropWhile_prefix _ _).mem hc)

theorem mem_dropWhile_of_not {p : Char → Bool} {l : List Char} (hc : c ∈ l)
    (hp : p c = false) : c ∈ l.dropWhile p := by
  induction l with
  | nil => cases hc
  | cons d l ih =>
    rw [List.dropWhile_cons]
    split_ifs with hd
    · rcases List.mem_cons.1 hc with rfl | hc
      · simp [hp] at hd
      · exact ih hc
    · exact hc

theorem mem_trim_of_mem (hc : c ∈ s.toList) (hw : isWhitespace c = false) : c ∈ (trim s).toList := by
  rw [trim, String.toList_ofList, List.rdropWhile, List.mem_reverse]
  apply mem_dropWhile_of_not _ hw
  rw [List.mem_reverse]
  exact mem_dropWhile_of_not hc hw

structure NormalText (s : String) : Prop where
  noNul : includesNul s = false
  trimmed : trim s = s
  nonempty : s ≠ ""

instance (s : String) : Decidable (NormalText s) :=
  decidable_of_iff (includesNul s = false ∧ trim s = s ∧ s ≠ "")
    ⟨fun h => ⟨h.1, h.2.1, h.2.2⟩, fun h => ⟨h.1, h.2, h.3⟩⟩

/-- The shared shape of the `requireText` checks: NUL is refused with the first message and a
blank text with the second; otherwise the trimmed text is returned. -/
def requireTextWith (invalid blank : String) (s : String) : Except String String :=
  if includesNul s then .error invalid
  else if trim s = "" then .error blank
  else .ok (trim s)

theorem requireTextWith_normal {invalid blank s t : String}
    (h : requireTextWith invalid blank s = .ok t) : NormalText t ∧ t = trim s := by
  unfold requireTextWith at h
  split_ifs at h with hn hb
  cases h
  refine ⟨⟨?_, trim_trim s, hb⟩, rfl⟩
  simp only [includesNul, List.contains_eq_mem, decide_eq_true_eq] at hn
  simp only [includesNul, List.contains_eq_mem, decide_eq_false_iff_not]
  exact fun hc => by simp [mem_of_mem_trim hc] at hn

theorem requireTextWith_of_normal (h : NormalText s) (invalid blank : String) :
    requireTextWith invalid blank s = .ok s := by
  simp [requireTextWith, h.noNul, h.trimmed, h.nonempty]

theorem isWhitespace_of_isDigit (hc : c.isDigit = true) : isWhitespace c = false := by
  simp only [Char.isDigit, Bool.and_eq_true, decide_eq_true_eq] at hc
  have h1 : 48 ≤ c.toNat := hc.1
  have h2 : c.toNat ≤ 57 := hc.2
  simp only [isWhitespace, whitespaceCodes, List.contains_eq_mem, decide_eq_false_iff_not,
    List.mem_cons, List.not_mem_nil, or_false]
  omega

end JsText

/-- A number as `Number.isInteger` sees it: the integer it is, or `none` for every other value. -/
abbrev JsNumber := Option ℤ

def JsNumber.ofNat (n : ℕ) : JsNumber := some (n : ℤ)

/-- `Number.MAX_SAFE_INTEGER`. -/
def maxSafeInteger : ℕ := 9007199254740991

/-- What the code uses of the host's clock: `Date.parse` returns the time value of a text it
can read, and no time value otherwise. -/
class JsHost where
  dateParse : String → Option ℤ
