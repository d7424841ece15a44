import Mathlib.Data.List.Basic

/-!
# A UTF-8 text cut at a byte

Bytes are numbers. The encoder writes a scalar value in one to four bytes, and the decoder replaces what it cannot
read by U+FFFD: of a sequence that the end of the input breaks off, one replacement. The first bytes of a text
decode to the characters that are whole among them, with one replacement when a character is cut.
-/

namespace Utf8Cut

def encodeChar (c : Char) : List ℕ :=
  let v := c.toNat
  if v < 0x80 then [v]
  else if v < 0x800 then [0xC0 + v / 64, 0x80 + v % 64]
  else if v < 0x10000 then [0xE0 + v / 4096, 0x80 + v / 64 % 64, 0x80 + v % 64]
  else [0xF0 + v / 262144, 0x80 + v / 4096 % 64, 0x80 + v / 64 % 64, 0x80 + v % 64]

def encode (text : List Char) : List ℕ := text.flatMap encodeChar

def replacement : Char := Char.ofNat 0xFFFD

/-- The state of the decoder: the value so far, the bytes still needed and the bounds of the next one. -/
structure Decoder where
  value : ℕ
  needed : ℕ
  lower : ℕ
  upper : ℕ

def Decoder.initial : Decoder := ⟨0, 0, 0x80, 0xBF⟩

def startByte (byte : ℕ) : List Char × Decoder :=
  if byte < 0x80 then ([Char.ofNat byte], .initial)
  else if 0xC2 ≤ byte ∧ byte ≤ 0xDF then ([], ⟨byte - 0xC0, 1, 0x80, 0xBF⟩)
  else if 0xE0 ≤ byte ∧ byte ≤ 0xEF then
    ([], ⟨byte - 0xE0, 2, if byte = 0xE0 then 0xA0 else 0x80, if byte = 0xED then 0x9F else 0xBF⟩)
  else if 0xF0 ≤ byte ∧ byte ≤ 0xF4 then
    ([], ⟨byte - 0xF0, 3, if byte = 0xF0 then 0x90 else 0x80, if byte = 0xF4 then 0x8F else 0xBF⟩)
  else ([replacement], .initial)

/-- A byte that does not continue the sequence starts the next one. -/
def decodeByte (state : Decoder) (byte : ℕ) : List Char × Decoder :=
  if state.needed = 0 then startByte byte
  else if byte < state.lower ∨ state.upper < byte then
    (replacement :: (startByte byte).1, (startByte byte).2)
  else if state.needed = 1 then ([Char.ofNat (state.value * 64 + (byte - 0x80))], .initial)
  else ([], ⟨state.value * 64 + (byte - 0x80), state.needed - 1, 0x80, 0xBF⟩)

def decodeFrom (state : Decoder) : List ℕ → List Char
  | [] => if state.needed = 0 then [] else [replacement]
  | byte :: bytes => (decodeByte state byte).1 ++ decodeFrom (decodeByte state byte).2 bytes

def decode (bytes : List ℕ) : List Char := decodeFrom .initial bytes

/-- The characters of the text that are whole among its first bytes. -/
def whole : ℕ → List Char → List Char
  | _, [] => []
  | limit, c :: text =>
    if (encodeChar c).length ≤ limit then c :: whole (limit - (encodeChar c).length) text else []

/-- The first bytes of the text end inside a character. -/
def cutInside : ℕ → List Char → Bool
  | _, [] => false
  | limit, c :: text =>
    if (encodeChar c).length ≤ limit then cutInside (limit - (encodeChar c).length) text else 0 < limit

theorem length_encodeChar_pos (c : Char) : 0 < (encodeChar c).length := by
  unfold encodeChar
  dsimp only
  split_ifs <;> simp

theorem scalar_bounds (c : Char) : c.toNat < 0xD800 ∨ 0xDFFF < c.toNat ∧ c.toNat < 0x110000 := c.valid

@[simp] theorem decodeFrom_start (byte : ℕ) (bytes : List ℕ) :
    decodeFrom .initial (byte :: bytes) = (startByte byte).1 ++ decodeFrom (startByte byte).2 bytes := rfl

variable {byte : ℕ}

theorem startByte_two (hlow : 0xC2 ≤ byte) (hhigh : byte ≤ 0xDF) :
    startByte byte = ([], ⟨byte - 0xC0, 1, 0x80, 0xBF⟩) := by
  rw [startByte, if_neg (by omega), if_pos ⟨hlow, hhigh⟩]

theorem startByte_three (hlow : 0xE0 ≤ byte) (hhigh : byte ≤ 0xEF) : startByte byte =
    ([], ⟨byte - 0xE0, 2, if byte = 0xE0 then 0xA0 else 0x80, if byte = 0xED then 0x9F else 0xBF⟩) := by
  rw [startByte, if_neg (by omega), if_neg (by omega), if_pos ⟨hlow, hhigh⟩]

theorem startByte_four (hlow : 0xF0 ≤ byte) (hhigh : byte ≤ 0xF4) : startByte byte =
    ([], ⟨byte - 0xF0, 3, if byte = 0xF0 then 0x90 else 0x80, if byte = 0xF4 then 0x8F else 0xBF⟩) := by
  rw [startByte, if_neg (by omega), if_neg (by omega), if_neg (by omega), if_pos ⟨hlow, hhigh⟩]

theorem decodeFrom_next {value needed lower upper byte : ℕ} (hlow : lower ≤ byte) (hhigh : byte ≤ upper)
    (hneeded : 2 ≤ needed) (bytes : List ℕ) : decodeFrom ⟨value, needed, lower, upper⟩ (byte :: bytes) =
      decodeFrom ⟨value * 64 + (byte - 0x80), needed - 1, 0x80, 0xBF⟩ bytes := by
  have hbyte : decodeByte ⟨value, needed, lower, upper⟩ byte =
      ([], ⟨value * 64 + (byte - 0x80), needed - 1, 0x80, 0xBF⟩) := by
    rw [decodeByte, if_neg (by simp only; omega), if_neg (by simp only; omega), if_neg (by simp only; omega)]
  rw [decodeFrom, hbyte, List.nil_append]

theorem decodeFrom_last {value lower upper byte : ℕ} (hlow : lower ≤ byte) (hhigh : byte ≤ upper) (bytes : List ℕ) :
    decodeFrom ⟨value, 1, lower, upper⟩ (byte :: bytes) =
      Char.ofNat (value * 64 + (byte - 0x80)) :: decodeFrom .initial bytes := by
  have hbyte : decodeByte ⟨value, 1, lower, upper⟩ byte =
      ([Char.ofNat (value * 64 + (byte - 0x80))], .initial) := by
    rw [decodeByte, if_neg (by simp only; omega), if_neg (by simp only; omega), if_pos rfl]
  rw [decodeFrom, hbyte, List.singleton_append]

/-- The sequence of a character: what its first byte calls for, and the bytes that go on with it. -/
inductive Sequence (c : Char) : List ℕ → Prop where
  | one (h : c.toNat < 0x80) : Sequence c [c.toNat]
  | two {b₁ b₂ : ℕ} (h₁ : 0xC2 ≤ b₁ ∧ b₁ ≤ 0xDF) (h₂ : 0x80 ≤ b₂ ∧ b₂ ≤ 0xBF)
      (h : (b₁ - 0xC0) * 64 + (b₂ - 0x80) = c.toNat) : Sequence c [b₁, b₂]
  | three {b₁ b₂ b₃ : ℕ} (h₁ : 0xE0 ≤ b₁ ∧ b₁ ≤ 0xEF)
      (h₂ : (if b₁ = 0xE0 then 0xA0 else 0x80) ≤ b₂ ∧ b₂ ≤ if b₁ = 0xED then 0x9F else 0xBF)
      (h₃ : 0x80 ≤ b₃ ∧ b₃ ≤ 0xBF) (h : ((b₁ - 0xE0) * 64 + (b₂ - 0x80)) * 64 + (b₃ - 0x80) = c.toNat) :
      Sequence c [b₁, b₂, b₃]
  | four {b₁ b₂ b₃ b₄ : ℕ} (h₁ : 0xF0 ≤ b₁ ∧ b₁ ≤ 0xF4)
      (h₂ : (if b₁ = 0xF0 then 0x90 else 0x80) ≤ b₂ ∧ b₂ ≤ if b₁ = 0xF4 then 0x8F else 0xBF)
      (h₃ : 0x80 ≤ b₃ ∧ b₃ ≤ 0xBF) (h₄ : 0x80 ≤ b₄ ∧ b₄ ≤ 0xBF)
      (h : (((b₁ - 0xF0) * 64 + (b₂ - 0x80)) * 64 + (b₃ - 0x80)) * 64 + (b₄ - 0x80) = c.toNat) :
      Sequence c [b₁, b₂, b₃, b₄]

theorem sequence_encodeChar (c : Char) : Sequence c (encodeChar c) := by
  have hscalar := scalar_bounds c
  unfold encodeChar
  dsimp only
  split_ifs with h1 h2 h3
  · exact .one h1
  · exact .two (by omega) (by omega) (by omega)
  · refine .three (by omega) ?_ (by omega) (by omega)
    split_ifs <;> omega
  · refine .four (by omega) ?_ (by omega) (by omega) (by omega)
    split_ifs <;> omega

theorem decodeFrom_encodeChar (c : Char) (bytes : List ℕ) :
    decodeFrom .initial (encodeChar c ++ bytes) = c :: decodeFrom .initial bytes := by
  have hsequence := sequence_encodeChar c
  generalize encodeChar c = sequence at hsequence ⊢
  cases hsequence with
  | one h => simp [startByte, h, Char.ofNat_toNat]
  | two h₁ h₂ h =>
    simp only [List.cons_append, List.nil_append]
    rw [decodeFrom_start, startByte_two h₁.1 h₁.2, List.nil_append, decodeFrom_last h₂.1 h₂.2, h, Char.ofNat_toNat]
  | three h₁ h₂ h₃ h =>
    simp only [List.cons_append, List.nil_append]
    rw [decodeFrom_start, startByte_three h₁.1 h₁.2, List.nil_append, decodeFrom_next h₂.1 h₂.2 (Nat.le_refl _),
      decodeFrom_last h₃.1 h₃.2, h, Char.ofNat_toNat]
  | four h₁ h₂ h₃ h₄ h =>
    simp only [List.cons_append, List.nil_append]
    rw [decodeFrom_start, startByte_four h₁.1 h₁.2, List.nil_append, decodeFrom_next h₂.1 h₂.2 (by omega),
      decodeFrom_next h₃.1 h₃.2 (Nat.le_refl _), decodeFrom_last h₄.1 h₄.2, h, Char.ofNat_toNat]

theorem decodeFrom_nil {value needed lower upper : ℕ} (h : 0 < needed) :
    decodeFrom ⟨value, needed, lower, upper⟩ [] = [replacement] := if_neg (by simp only; omega)

variable {limit : ℕ}

theorem decode_take_encodeChar (c : Char) (hpos : 0 < limit) (hlimit : limit < (encodeChar c).length) :
    decode ((encodeChar c).take limit) = [replacement] := by
  have hsequence := sequence_encodeChar c
  generalize encodeChar c = sequence at hsequence hlimit ⊢
  rw [decode]
  cases hsequence with
  | one h => simp only [List.length_singleton] at hlimit; omega
  | two h₁ h₂ h =>
    obtain rfl : limit = 1 := by simp only [List.length_cons, List.length_nil] at hlimit; omega
    simp only [List.take_succ_cons, List.take_zero]
    rw [decodeFrom_start, startByte_two h₁.1 h₁.2, List.nil_append, decodeFrom_nil (by omega)]
  | three h₁ h₂ h₃ h =>
    simp only [List.length_cons, List.length_nil] at hlimit
    obtain rfl | rfl : limit = 1 ∨ limit = 2 := by omega
    all_goals
      simp only [List.take_succ_cons, List.take_zero]
      rw [decodeFrom_start, startByte_three h₁.1 h₁.2, List.nil_append]
    · exact decodeFrom_nil (by omega)
    · rw [decodeFrom_next h₂.1 h₂.2 (Nat.le_refl _), decodeFrom_nil (by omega)]
  | four h₁ h₂ h₃ h₄ h =>
    simp only [List.length_cons, List.length_nil] at hlimit
    obtain rfl | rfl | rfl : limit = 1 ∨ limit = 2 ∨ limit = 3 := by omega
    all_goals
      simp only [List.take_succ_cons, List.take_zero]
      rw [decodeFrom_start, startByte_four h₁.1 h₁.2, List.nil_append]
    · exact decodeFrom_nil (by omega)
    · rw [decodeFrom_next h₂.1 h₂.2 (by omega), decodeFrom_nil (by omega)]
    · rw [decodeFrom_next h₂.1 h₂.2 (by omega), decodeFrom_next h₃.1 h₃.2 (Nat.le_refl _), decodeFrom_nil (by omega)]

theorem encode_cons (c : Char) (text : List Char) : encode (c :: text) = encodeChar c ++ encode text :=
  List.flatMap_cons

theorem decode_take_encode (limit : ℕ) (text : List Char) : decode ((encode text).take limit) =
      whole limit text ++ if cutInside limit text = true then [replacement] else [] := by
  induction text generalizing limit with
  | nil => simp [encode, whole, cutInside, decode, decodeFrom, Decoder.initial]
  | cons c text ih =>
    rw [encode_cons, whole, cutInside]
    split_ifs with hfits hcut hcut
    · rw [List.take_append, List.take_of_length_le hfits, decode, decodeFrom_encodeChar]
      have hrest := ih (limit - (encodeChar c).length)
      rw [if_pos hcut] at hrest
      rw [List.cons_append, ← hrest, decode]
    · rw [List.take_append, List.take_of_length_le hfits, decode, decodeFrom_encodeChar]
      have hrest := ih (limit - (encodeChar c).length)
      rw [if_neg hcut] at hrest
      rw [List.cons_append, ← hrest, decode]
    · rw [List.take_append_of_le_length (by omega)]
      exact decode_take_encodeChar c (of_decide_eq_true hcut) (by omega)
    · obtain rfl : limit = 0 := by simpa using hcut
      rfl

theorem whole_isPrefix (limit : ℕ) (text : List Char) : whole limit text <+: text := by
  induction text generalizing limit with
  | nil => exact List.nil_prefix
  | cons c text ih =>
    rw [whole]
    split_ifs with hfits
    · exact List.prefix_cons_inj c |>.2 (ih _)
    · exact List.nil_prefix

theorem length_encode_whole_le (limit : ℕ) (text : List Char) : (encode (whole limit text)).length ≤ limit := by
  induction text generalizing limit with
  | nil => exact Nat.zero_le _
  | cons c text ih =>
    rw [whole]
    split_ifs with hfits
    · have hrest := ih (limit - (encodeChar c).length)
      rw [encode_cons, List.length_append]
      omega
    · exact Nat.zero_le _

variable {text : List Char}

theorem length_encode_whole_eq (hlong : limit ≤ (encode text).length)
    (h : cutInside limit text = false) : (encode (whole limit text)).length = limit := by
  induction text generalizing limit with
  | nil => exact (Nat.le_zero.1 hlong).symm
  | cons c text ih =>
    rw [encode_cons, List.length_append] at hlong
    rw [cutInside] at h
    rw [whole]
    split_ifs at h ⊢ with hfits
    · have hrest := ih (by omega) h
      rw [encode_cons, List.length_append]
      omega
    · exact (Nat.eq_zero_of_not_pos (of_decide_eq_false h)).symm

theorem whole_append (h : (encode text).length ≤ limit) (more : List Char) :
    whole limit (text ++ more) = text ++ whole (limit - (encode text).length) more := by
  induction text generalizing limit with
  | nil => rfl
  | cons c text ih =>
    rw [encode_cons, List.length_append] at h ⊢
    rw [List.cons_append, whole, if_pos (by omega), ih (by omega), Nat.sub_sub, List.cons_append]

theorem whole_append_of_lt (h : limit < (encode text).length) (more : List Char) :
    whole limit (text ++ more) = whole limit text := by
  induction text generalizing limit with
  | nil => exact absurd h (Nat.not_lt_zero _)
  | cons c text ih =>
    rw [encode_cons, List.length_append] at h
    rw [List.cons_append, whole, whole]
    split_ifs with hfits
    · rw [ih (by omega)]
    · rfl

theorem whole_zero (text : List Char) : whole 0 text = [] := by
  cases text with
  | nil => rfl
  | cons c text =>
    have hpos := length_encodeChar_pos c
    rw [whole, if_neg (by omega)]

theorem cutInside_append (h : (encode text).length ≤ limit) (more : List Char) :
    cutInside limit (text ++ more) = cutInside (limit - (encode text).length) more := by
  induction text generalizing limit with
  | nil => rfl
  | cons c text ih =>
    rw [encode_cons, List.length_append] at h ⊢
    rw [List.cons_append, cutInside, if_pos (by omega), ih (by omega), Nat.sub_sub]

theorem cutInside_zero (text : List Char) : cutInside 0 text = false := by
  cases text with
  | nil => rfl
  | cons c text =>
    have hpos := length_encodeChar_pos c
    rw [cutInside, if_neg (by omega)]
    rfl

theorem encode_append (text more : List Char) : encode (text ++ more) = encode text ++ encode more :=
  List.flatMap_append

end Utf8Cut
