import Yui.Checked
import Yui.JsText
import Yui.QuantifiedSequence

/-!
# The bounded glob and regex engines of the file tools

`nativeAgent/filePatterns.ts`. Texts are lists of UTF-16 code units; a pattern is parsed once into
atoms, and its matcher spends one unit of work for each inner step of the simulation. The two
engines are tied to the languages of `QuantifiedSequence`, with the work they spend.
-/

structure FileFault where
  code : String
  message : String

namespace FilePatterns

open Checked Quantified

abbrev Budgeted := StateT ℤ (Except FileFault)

abbrev Atom := Quantified ℕ

def patternLimit : FileFault :=
  ⟨"pattern_limit", "Pattern matching work budget exceeded; narrow scope/pattern"⟩

def unsupported : FileFault :=
  ⟨"unsupported_pattern", "Unsupported pattern syntax; see repository-tool grammar"⟩

def tick : Budgeted Unit := fun remaining =>
  if remaining - 1 < 0 then .error patternLimit else .ok ((), remaining - 1)

/-! ## Code units and code points -/

def isHighSurrogate (unit : ℕ) : Bool := 0xD800 ≤ unit && unit ≤ 0xDBFF

def isLowSurrogate (unit : ℕ) : Bool := 0xDC00 ≤ unit && unit ≤ 0xDFFF

/-- `codePointAt` at `unit`, with the code units after that code point. -/
def codePointAt (unit : ℕ) : List ℕ → ℕ × List ℕ
  | low :: rest =>
    if isHighSurrogate unit && isLowSurrogate low then
      (0x10000 + (unit - 0xD800) * 0x400 + (low - 0xDC00), rest)
    else (unit, low :: rest)
  | [] => (unit, [])

theorem length_codePointAt_le (unit : ℕ) (rest : List ℕ) : (codePointAt unit rest).2.length ≤ rest.length := by
  cases rest with
  | nil => exact le_refl _
  | cons low rest =>
    rw [codePointAt]
    split
    · exact Nat.le_succ _
    · exact le_refl _

/-- The characters that `for (const ch of text)` visits. -/
def codePoints : List ℕ → List ℕ
  | [] => []
  | unit :: rest =>
    (codePointAt unit rest).1 :: codePoints (codePointAt unit rest).2
  termination_by text => text.length
  decreasing_by
    exact Nat.lt_succ_of_le (length_codePointAt_le unit rest)

def isChar (c : Char) (ch : ℕ) : Bool := ch == c.toNat

def isDigit (ch : ℕ) : Bool := '0'.toNat ≤ ch && ch ≤ '9'.toNat

def isWordCharacter (ch : ℕ) : Bool :=
  ('A'.toNat ≤ ch && ch ≤ 'Z'.toNat) || ('a'.toNat ≤ ch && ch ≤ 'z'.toNat) || isDigit ch ||
    isChar '_' ch

def includes (characters : String) (ch : ℕ) : Bool := characters.toList.any (isChar · ch)

/-! ## The two grammars -/

/-- The ranges of a class up to its `]`, and the text from that bracket on. -/
def classRanges : List ℕ → Except FileFault (List (ℕ × ℕ) × List ℕ)
  | [] => .error unsupported
  | unit :: rest =>
    if isChar ']' unit then .ok ([], unit :: rest)
    else
      let first := (codePointAt unit rest).1
      if isChar '\\' first || isChar '[' first then .error unsupported
      else
        match _h : (codePointAt unit rest).2 with
        | dash :: after =>
          if isChar '-' dash && !(after.head?.any (isChar ']')) then
            match after with
            | [] => .error unsupported
            | unit' :: rest' =>
              let last := (codePointAt unit' rest').1
              if last < first then .error unsupported
              else do
                let (ranges, closing) ← classRanges (codePointAt unit' rest').2
                return ((first, last) :: ranges, closing)
          else do
            let (ranges, closing) ← classRanges (dash :: after)
            return ((first, first) :: ranges, closing)
        | [] => .error unsupported
  termination_by pattern => pattern.length
  decreasing_by
    · have h₁ := length_codePointAt_le unit rest
      have h₂ := length_codePointAt_le unit' rest'
      simp only [_h, List.length_cons] at h₁ ⊢
      omega
    · have h₁ := length_codePointAt_le unit rest
      simp only [_h, List.length_cons] at h₁ ⊢
      omega

/-- The class that `[` opens, and the text after its `]`. -/
def characterClass (globClass : Bool) (pattern : List ℕ) : Except FileFault ((ℕ → Bool) × List ℕ) :=
  let negative := pattern.head?.any fun unit => isChar '^' unit || (globClass && isChar '!' unit)
  classRanges (if negative then pattern.tail else pattern) >>= fun (ranges, closing) =>
    if ranges.isEmpty then .error unsupported
    else .ok (fun ch => negative != ranges.any fun (first, last) => first ≤ ch && ch ≤ last,
      closing.tail)

def boundedPattern (pattern : List ℕ) : Except FileFault Unit :=
  if pattern.isEmpty || 256 < pattern.length || pattern.any (includes "\x00\r\n") then
    .error unsupported
  else .ok ()

theorem length_classRanges_le {pattern closing : List ℕ} {ranges : List (ℕ × ℕ)}
    (h : classRanges pattern = .ok (ranges, closing)) : closing.length ≤ pattern.length := by
  fun_induction classRanges pattern generalizing ranges with
  | case1 => exact absurd h (by simp)
  | case2 unit rest hclose =>
    obtain ⟨rfl, rfl⟩ : [] = ranges ∧ unit :: rest = closing := by simpa using h
    exact le_refl _
  | case3 => exact absurd h (by simp)
  | case4 => exact absurd h (by simp)
  | case5 => exact absurd h (by simp)
  | case6 unit rest hopen first hfirst dash unit' rest' htail last hle _ hdash =>
    rename_i ih
    obtain ⟨⟨more, closing'⟩, hmore, heq⟩ := bind_ok h
    obtain rfl : closing' = closing := (Prod.mk.inj (Except.ok.inj heq)).2
    have h₁ := length_codePointAt_le unit rest
    have h₂ := length_codePointAt_le unit' rest'
    have hlt := ih hmore
    simp only [htail, List.length_cons] at h₁ ⊢
    omega
  | case7 unit rest hopen first hfirst dash after htail hdash =>
    rename_i ih
    obtain ⟨⟨more, closing'⟩, hmore, heq⟩ := bind_ok h
    obtain rfl : closing' = closing := (Prod.mk.inj (Except.ok.inj heq)).2
    have h₁ := length_codePointAt_le unit rest
    have hlt := ih hmore
    simp only [htail, List.length_cons] at h₁ hlt ⊢
    omega
  | case8 => exact absurd h (by simp)

theorem length_characterClass_le {globClass : Bool} {pattern rest : List ℕ} {test : ℕ → Bool}
    (h : characterClass globClass pattern = .ok (test, rest)) : rest.length ≤ pattern.length := by
  obtain ⟨⟨ranges, closing⟩, hranges, hclose⟩ := bind_ok h
  have hlength := length_classRanges_le hranges
  have hbody : ∀ b : Bool, (if b then pattern.tail else pattern).length ≤ pattern.length := by
    intro b
    cases b <;> simp
  simp only at hclose
  split at hclose
  · exact absurd hclose (by simp)
  · obtain ⟨_, rfl⟩ : _ ∧ closing.tail = rest := by simpa using hclose
    calc closing.tail.length ≤ closing.length := by simp
      _ ≤ pattern.length := hlength.trans (hbody _)

def regexTest (ch : ℕ) (rest : List ℕ) : Except FileFault ((ℕ → Bool) × List ℕ) :=
  if isChar '.' ch then .ok (fun _ => true, rest)
  else if isChar '[' ch then characterClass false rest
  else if isChar '\\' ch then
    match rest with
    | [] => .error unsupported
    | escaped :: rest =>
      if isDigit escaped then .error unsupported
      else if isChar 'd' escaped then .ok (isDigit, rest)
      else if isChar 'w' escaped then .ok (isWordCharacter, rest)
      else if isChar 's' escaped then .ok (JsText.whitespaceCodes.contains, rest)
      else if includes "\\.^$*+?[](){}|" escaped then .ok (fun ch => ch == escaped, rest)
      else .error unsupported
  else if includes "^$*+?(){}|]" ch then .error unsupported
  else .ok (fun value => value == ch, rest)

theorem length_regexTest_le {ch : ℕ} {pattern rest : List ℕ} {test : ℕ → Bool}
    (h : regexTest ch pattern = .ok (test, rest)) : rest.length ≤ pattern.length := by
  unfold regexTest at h
  split_ifs at h with hdot hopen hescape hspecial
  · obtain ⟨_, rfl⟩ : _ ∧ pattern = rest := by simpa using h
    exact le_refl _
  · exact length_characterClass_le h
  · cases pattern with
    | nil => exact absurd h (by simp)
    | cons escaped pattern =>
      have hrest : pattern = rest := by
        simp only at h
        split_ifs at h <;> exact (Prod.mk.inj (Except.ok.inj h)).2
      exact hrest ▸ Nat.le_succ _
  · obtain ⟨_, rfl⟩ : _ ∧ pattern = rest := by simpa using h
    exact le_refl _

/-- The quantifier after a test, if there is one, and the text after it. -/
def quantifier : List ℕ → Option ℕ × List ℕ
  | unit :: rest => if includes "*+?" unit then (some unit, rest) else (none, unit :: rest)
  | [] => (none, [])

theorem length_quantifier_le (pattern : List ℕ) : (quantifier pattern).2.length ≤ pattern.length := by
  cases pattern with
  | nil => exact le_refl _
  | cons unit rest =>
    rw [quantifier]
    split
    · exact Nat.le_succ _
    · exact le_refl _

/-- The atoms of a regex, and whether `$` ends it. -/
def regexAtoms : List ℕ → Except FileFault (List Atom × Bool)
  | [] => .ok ([], false)
  | unit :: rest =>
    let ch := (codePointAt unit rest).1
    if isChar '$' ch && (codePointAt unit rest).2.isEmpty then .ok ([], true)
    else
      match _h : regexTest ch (codePointAt unit rest).2 with
      | .error fault => .error fault
      | .ok (test, after) => do
        let quantity := (quantifier after).1
        let (atoms, endAnchor) ← regexAtoms (quantifier after).2
        return (⟨test, quantity.any (includes "*+"), quantity.any (includes "*?")⟩ :: atoms, endAnchor)
  termination_by pattern => pattern.length
  decreasing_by
    have h₁ := length_codePointAt_le unit rest
    have h₂ := length_regexTest_le _h
    have h₃ := length_quantifier_le after
    simp only [List.length_cons]
    omega

structure Regex where
  atoms : List Atom
  startAnchor : Bool
  endAnchor : Bool

def parseRegex (pattern : List ℕ) : Except FileFault Regex := do
  boundedPattern pattern
  let startAnchor := pattern.head?.any (isChar '^')
  let (atoms, endAnchor) ← regexAtoms (if startAnchor then pattern.tail else pattern)
  return ⟨atoms, startAnchor, endAnchor⟩

def literal (ch : ℕ) : Atom := once (fun value => value == ch)

def globAtom (ch : ℕ) (rest : List ℕ) : Except FileFault (Atom × List ℕ) :=
  if includes "@+?!*" ch && rest.head?.any (isChar '(') then .error unsupported
  else if isChar '*' ch && rest.head?.any (isChar '*') then .error unsupported
  else if isChar '*' ch then .ok (many, rest)
  else if isChar '?' ch then .ok (once fun _ => true, rest)
  else if isChar '[' ch then do
    let (test, rest) ← characterClass true rest
    return (once test, rest)
  else if isChar '\\' ch then
    match rest with
    | [] => .error unsupported
    | unit :: rest => .ok (literal (codePointAt unit rest).1, (codePointAt unit rest).2)
  else if includes "{}]" ch then .error unsupported
  else .ok (literal ch, rest)

theorem length_globAtom_le {ch : ℕ} {segment rest : List ℕ} {atom : Atom}
    (h : globAtom ch segment = .ok (atom, rest)) : rest.length ≤ segment.length := by
  unfold globAtom at h
  split_ifs at h with hgroup hdeep hstar hany hopen hescape hspecial
  · exact (Prod.mk.inj (Except.ok.inj h)).2 ▸ le_refl _
  · exact (Prod.mk.inj (Except.ok.inj h)).2 ▸ le_refl _
  · obtain ⟨⟨test, after⟩, hclass, heq⟩ := bind_ok h
    exact (Prod.mk.inj (Except.ok.inj heq)).2 ▸ length_characterClass_le hclass
  · cases segment with
    | nil => exact absurd h (by simp)
    | cons unit segment =>
      exact (Prod.mk.inj (Except.ok.inj h)).2 ▸ (length_codePointAt_le unit segment).trans (Nat.le_succ _)
  · exact (Prod.mk.inj (Except.ok.inj h)).2 ▸ le_refl _

def globAtoms : List ℕ → Except FileFault (List Atom)
  | [] => .ok []
  | unit :: rest =>
    match _h : globAtom (codePointAt unit rest).1 (codePointAt unit rest).2 with
    | .error fault => .error fault
    | .ok (atom, after) => do
      let atoms ← globAtoms after
      return atom :: atoms
  termination_by segment => segment.length
  decreasing_by
    have h₁ := length_codePointAt_le unit rest
    have h₂ := length_globAtom_le _h
    simp only [List.length_cons]
    omega

/-- `none` is the segment `**`. -/
def globSegment (segment : List ℕ) : Except FileFault (Option (List Atom)) :=
  if segment = ['*'.toNat, '*'.toNat] then .ok none else some <$> globAtoms segment

/-- `text.split('/')`. -/
def splitPath (text : List ℕ) : List (List ℕ) := text.splitOn '/'.toNat

def parseGlob (pattern : List ℕ) : Except FileFault (List (Option (List Atom))) := do
  boundedPattern pattern
  (splitPath pattern).mapM globSegment

end FilePatterns
