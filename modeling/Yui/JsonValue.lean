import Mathlib
import Yui.JsText

/-!
# JSON values

A JSON value keeps the members of an object in property order and a number by the literal that
`JSON.stringify` prints for it. `canonicalMembers` sorts members by key and rebuilds the object, so
that array indices come first in numeric order. Two member lists with the same canonical form have
the same members.
-/

inductive Json where
  | null
  | bool (value : Bool)
  | num (literal : String)
  | str (value : String)
  | arr (items : List Json)
  | obj (members : List (String × Json))

namespace Json

mutual

def same : Json → Json → Bool
  | .null, .null => true
  | .bool a, .bool b => a == b
  | .num a, .num b => a == b
  | .str a, .str b => a == b
  | .arr a, .arr b => sameItems a b
  | .obj a, .obj b => sameMembers a b
  | _, _ => false

def sameItems : List Json → List Json → Bool
  | [], [] => true
  | a :: as, b :: bs => same a b && sameItems as bs
  | _, _ => false

def sameMembers : List (String × Json) → List (String × Json) → Bool
  | [], [] => true
  | (k, a) :: as, (l, b) :: bs => k == l && same a b && sameMembers as bs
  | _, _ => false

end

mutual

theorem same_iff : ∀ a b : Json, same a b = true ↔ a = b
  | .null, b => by cases b <;> simp [same]
  | .bool a, b => by cases b <;> simp [same]
  | .num a, b => by cases b <;> simp [same]
  | .str a, b => by cases b <;> simp [same]
  | .arr as, b => by
    cases b with
    | arr bs => simpa [same] using sameItems_iff as bs
    | _ => simp [same]
  | .obj as, b => by
    cases b with
    | obj bs => simpa [same] using sameMembers_iff as bs
    | _ => simp [same]

theorem sameItems_iff : ∀ as bs : List Json, sameItems as bs = true ↔ as = bs
  | [], bs => by cases bs <;> simp [sameItems]
  | a :: as, bs => by
    cases bs with
    | nil => simp [sameItems]
    | cons b bs => simp [sameItems, same_iff a b, sameItems_iff as bs]

theorem sameMembers_iff : ∀ as bs : List (String × Json), sameMembers as bs = true ↔ as = bs
  | [], bs => by cases bs <;> simp [sameMembers]
  | (k, a) :: as, bs => by
    cases bs with
    | nil => simp [sameMembers]
    | cons b bs => simp [sameMembers, same_iff a b.2, sameMembers_iff as bs, Prod.ext_iff]

end

instance : DecidableEq Json := fun a b => decidable_of_iff (same a b = true) (same_iff a b)

def arrayIndexLimit : ℕ := 4294967295

def arrayIndex? (key : String) : Option ℕ :=
  match key.toList with
  | [] => none
  | c :: cs =>
    let value := Nat.ofDigitChars 10 (c :: cs) 0
    if (c :: cs).all Char.isDigit && (c != '0' || cs.isEmpty) && decide (value < arrayIndexLimit)
    then some value
    else none

section Members

variable {α : Type*}

def isIndexed (entry : String × α) : Bool := (arrayIndex? entry.1).isSome

def position (entry : String × α) : ℕ := (arrayIndex? entry.1).getD 0

/-- `Object.fromEntries`: array indices come first, in ascending order. -/
def fromEntries (entries : List (String × α)) : List (String × α) :=
  (entries.filter isIndexed).insertionSort (fun a b => position a ≤ position b) ++
    entries.filter fun e => !isIndexed e

/-- The members in the order of `localeCompare` of their keys, rebuilt as an object. -/
def canonicalMembers (localeCompare : String → String → ℤ) (members : List (String × α)) : List (String × α) :=
  fromEntries (members.insertionSort fun a b => localeCompare a.1 b.1 ≤ 0)

theorem fromEntries_perm (entries : List (String × α)) : (fromEntries entries).Perm entries :=
  ((List.perm_insertionSort _ _).append_right _).trans
    (List.filter_append_perm isIndexed entries)

theorem canonicalMembers_perm (localeCompare : String → String → ℤ)
    (members : List (String × α)) : (canonicalMembers localeCompare members).Perm members :=
  (fromEntries_perm _).trans (List.perm_insertionSort _ _)

theorem perm_of_canonicalMembers_eq {localeCompare : String → String → ℤ} {members others : List (String × α)}
    (h : canonicalMembers localeCompare members = canonicalMembers localeCompare others) : members.Perm others :=
  (canonicalMembers_perm localeCompare members).symm.trans
    (h ▸ canonicalMembers_perm localeCompare others)

end Members

mutual

def canonicalize (localeCompare : String → String → ℤ) : Json → Json
  | .arr items => .arr (canonicalizeItems localeCompare items)
  | .obj members => .obj (canonicalMembers localeCompare (canonicalizeMembers localeCompare members))
  | value => value

def canonicalizeItems (localeCompare : String → String → ℤ) : List Json → List Json
  | [] => []
  | item :: items => canonicalize localeCompare item :: canonicalizeItems localeCompare items

def canonicalizeMembers (localeCompare : String → String → ℤ) :
    List (String × Json) → List (String × Json)
  | [] => []
  | (key, value) :: members =>
    (key, canonicalize localeCompare value) :: canonicalizeMembers localeCompare members

end

def hexDigit (n : ℕ) : Char := Nat.digitChar (n % 16)

/-- A character of a string literal as `JSON.stringify` prints it. -/
def escapeChar (c : Char) : List Char :=
  if c = '"' then ['\\', '"']
  else if c = '\\' then ['\\', '\\']
  else if c.toNat = 8 then ['\\', 'b']
  else if c.toNat = 9 then ['\\', 't']
  else if c.toNat = 10 then ['\\', 'n']
  else if c.toNat = 12 then ['\\', 'f']
  else if c.toNat = 13 then ['\\', 'r']
  else if c.toNat < 32 then ['\\', 'u', '0', '0', hexDigit (c.toNat / 16), hexDigit c.toNat]
  else [c]

def quote (text : String) : List Char := '"' :: text.toList.flatMap escapeChar ++ ['"']

mutual

/-- The characters of `JSON.stringify(value)`. -/
def render : Json → List Char
  | .null => "null".toList
  | .bool value => (if value then "true" else "false").toList
  | .num literal => literal.toList
  | .str value => quote value
  | .arr items => '[' :: renderItems items ++ [']']
  | .obj members => '\x7b' :: renderMembers members ++ ['\x7d']

def renderItems : List Json → List Char
  | [] => []
  | [item] => render item
  | item :: items => render item ++ ',' :: renderItems items

def renderMembers : List (String × Json) → List Char
  | [] => []
  | [(key, value)] => quote key ++ ':' :: render value
  | (key, value) :: members => quote key ++ ':' :: render value ++ ',' :: renderMembers members

end

/-- `JSON.stringify(value)`. -/
def stringify (value : Json) : String := String.ofList (render value)

/-- `Buffer.byteLength(JSON.stringify(value))`. -/
def byteLength (value : Json) : ℕ := ((render value).map Char.utf8Size).sum

section Sizes

theorem escapeChar_size (c : Char) : ((escapeChar c).map Char.utf8Size).sum ≤ 6 := by
  have hhex : ∀ n : ℕ, (hexDigit n).utf8Size = 1 := fun n => by
    have hall : ∀ k < 16, (Nat.digitChar k).utf8Size = 1 := by decide
    exact hall (n % 16) (Nat.mod_lt _ (by decide))
  unfold escapeChar
  split_ifs
  · decide
  · decide
  · decide
  · decide
  · decide
  · decide
  · decide
  · simp only [List.map_cons, List.map_nil, List.sum_cons, List.sum_nil, hhex]
    decide
  · have hc := c.utf8Size_le_four
    simp only [List.map_cons, List.map_nil, List.sum_cons, List.sum_nil]
    omega

theorem quote_size (text : String) : ((quote text).map Char.utf8Size).sum ≤ 6 * text.length + 2 := by
  have hbody : ∀ chars : List Char,
      ((chars.flatMap escapeChar).map Char.utf8Size).sum ≤ 6 * chars.length := by
    intro chars
    induction chars with
    | nil => simp
    | cons c chars ih =>
      have hc := escapeChar_size c
      rw [List.flatMap_cons, List.map_append, List.sum_append, List.length_cons]
      omega
  have htext := hbody text.toList
  have hquote : Char.utf8Size '"' = 1 := by decide
  rw [String.length_toList] at htext
  simp only [quote, List.cons_append, List.map_cons, List.map_append, List.map_nil, List.sum_cons,
    List.sum_append, List.sum_nil, hquote]
  omega

mutual

/-- A bound on the bytes of a printed value. -/
def weight : Json → ℕ
  | .null => 4
  | .bool _ => 5
  | .num literal => 4 * literal.length
  | .str value => 6 * value.length + 2
  | .arr items => weightItems items + 2
  | .obj members => weightMembers members + 2

def weightItems : List Json → ℕ
  | [] => 0
  | item :: items => weight item + 1 + weightItems items

def weightMembers : List (String × Json) → ℕ
  | [] => 0
  | (key, value) :: members => 6 * key.length + 4 + weight value + weightMembers members

end

theorem literal_size (chars : List Char) : (chars.map Char.utf8Size).sum ≤ 4 * chars.length := by
  induction chars with
  | nil => simp
  | cons c chars ih =>
    have hc := c.utf8Size_le_four
    rw [List.map_cons, List.sum_cons, List.length_cons]
    omega

mutual

theorem renderSize_le : ∀ value : Json, ((render value).map Char.utf8Size).sum ≤ weight value
  | .null => by decide
  | .bool true => by decide
  | .bool false => by decide
  | .num literal => by
    have h := literal_size literal.toList
    rw [String.length_toList] at h
    simpa [render, weight] using h
  | .str value => by simpa [render, weight] using quote_size value
  | .arr items => by
    have h := renderItemsSize_le items
    have hopen : Char.utf8Size '[' = 1 := by decide
    have hclose : Char.utf8Size ']' = 1 := by decide
    simp only [render, weight, List.cons_append, List.map_cons, List.map_append, List.map_nil,
      List.sum_cons, List.sum_append, List.sum_nil, hopen, hclose]
    omega
  | .obj members => by
    have h := renderMembersSize_le members
    have hopen : Char.utf8Size '\x7b' = 1 := by decide
    have hclose : Char.utf8Size '\x7d' = 1 := by decide
    simp only [render, weight, List.cons_append, List.map_cons, List.map_append, List.map_nil,
      List.sum_cons, List.sum_append, List.sum_nil, hopen, hclose]
    omega

theorem renderItemsSize_le : ∀ items : List Json,
    ((renderItems items).map Char.utf8Size).sum ≤ weightItems items
  | [] => by simp [renderItems, weightItems]
  | [item] => by
    have h := renderSize_le item
    simp only [renderItems, weightItems]
    omega
  | item :: other :: items => by
    have h := renderSize_le item
    have hrest := renderItemsSize_le (other :: items)
    have hcomma : Char.utf8Size ',' = 1 := by decide
    simp only [renderItems, weightItems, List.map_append, List.map_cons, List.sum_append,
      List.sum_cons, hcomma] at h hrest ⊢
    omega

theorem renderMembersSize_le : ∀ members : List (String × Json),
    ((renderMembers members).map Char.utf8Size).sum ≤ weightMembers members
  | [] => by simp [renderMembers, weightMembers]
  | [(key, value)] => by
    have h := renderSize_le value
    have hkey := quote_size key
    have hcolon : Char.utf8Size ':' = 1 := by decide
    simp only [renderMembers, weightMembers, List.map_append, List.map_cons, List.sum_append, List.sum_cons, hcolon]
    omega
  | (key, value) :: other :: members => by
    have h := renderSize_le value
    have hkey := quote_size key
    have hrest := renderMembersSize_le (other :: members)
    have hcolon : Char.utf8Size ':' = 1 := by decide
    have hcomma : Char.utf8Size ',' = 1 := by decide
    simp only [renderMembers, weightMembers, List.map_append, List.map_cons, List.sum_append,
      List.sum_cons, hcolon, hcomma] at h hrest ⊢
    omega

end

theorem byteLength_le (value : Json) : value.byteLength ≤ value.weight := renderSize_le value

end Sizes

def member? (key : String) : Json → Option Json
  | .obj members => (members.find? fun m => m.1 == key).map Prod.snd
  | _ => none

/-- The members that are present; `JSON.stringify` leaves out what is `undefined`. -/
def present (members : List (String × Option Json)) : Json :=
  .obj (members.filterMap fun m => m.2.map fun value => (m.1, value))

end Json

example : (Json.obj [("a", .num "1"), ("b", .arr [.null, .str "x\"y"])]).stringify =
    "\x7b\"a\":1,\"b\":[null,\"x\\\"y\"]\x7d" := by decide
