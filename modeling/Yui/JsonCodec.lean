import Mathlib.Data.List.Nodup
import Mathlib.Data.Rat.Defs

/-!
# Records as JSON data

`JSON.parse(JSON.stringify(value))` as a copy of data: members that are `undefined` are left out, and a
codec says what each value is read back as. A record is written as a list of members with distinct keys,
and a member is found again under its key.
-/

inductive JsonData where
  | null
  | bool (value : Bool)
  | num (value : ℚ)
  | str (value : String)
  | arr (items : List JsonData)
  | obj (members : List (String × JsonData))

namespace JsonData

def member? (key : String) : JsonData → Option JsonData
  | .obj members => (members.find? fun member => member.1 = key).map Prod.snd
  | _ => none

def present (members : List (String × Option JsonData)) : JsonData :=
  .obj (members.filterMap fun member => member.2.map fun value => (member.1, value))

theorem member?_present_cons (key : String) (member : String × Option JsonData)
    (members : List (String × Option JsonData)) : (present (member :: members)).member? key =
      if member.1 = key ∧ member.2.isSome = true then member.2
      else (present members).member? key := by
  obtain ⟨name, value⟩ := member
  cases value with
  | none => simp [present, member?]
  | some value =>
    by_cases hname : name = key
    · simp [present, member?, hname]
    · simp [present, member?, hname]

theorem member?_present_of_notMem {key : String} {members : List (String × Option JsonData)}
    (h : key ∉ members.map Prod.fst) : (present members).member? key = none := by
  induction members with
  | nil => rfl
  | cons member members ih =>
    rw [List.map_cons, List.mem_cons, not_or] at h
    rw [member?_present_cons, if_neg fun hboth => h.1 hboth.1.symm, ih h.2]

theorem member?_present {members : List (String × Option JsonData)}
    (hnodup : (members.map Prod.fst).Nodup) {key : String} {value : Option JsonData}
    (hmem : (key, value) ∈ members) : (present members).member? key = value := by
  induction members with
  | nil => cases hmem
  | cons member members ih =>
    rw [List.map_cons, List.nodup_cons] at hnodup
    rw [member?_present_cons]
    rcases List.mem_cons.1 hmem with rfl | hlater
    · cases value with
      | none => rw [if_neg (by simp), member?_present_of_notMem hnodup.1]
      | some value => rw [if_pos (by simp)]
    · have hother : member.1 ≠ key := by
        rintro rfl
        exact hnodup.1 (List.mem_map.2 ⟨_, hlater, rfl⟩)
      rw [if_neg fun hboth => hother hboth.1, ih hnodup.2 hlater]

end JsonData

/-- Values that are written as JSON data, and what each is read back as. -/
structure JsonCodec (α : Type) where
  write : α → JsonData
  read : JsonData → Option α
  copy : α → α
  read_write : ∀ value, read (write value) = some (copy value)

namespace JsonCodec

variable {α : Type}

def text : JsonCodec String where
  write := .str
  read data := match data with
    | .str value => some value
    | _ => none
  copy := id
  read_write _ := rfl

def flag : JsonCodec Bool where
  write := .bool
  read data := match data with
    | .bool value => some value
    | _ => none
  copy := id
  read_write _ := rfl

def names (all : List α) (name : α → String)
    (h : ∀ value, (all.find? fun other => name other = name value) = some value := by intro value; cases value <;> rfl) :
    JsonCodec α where
  write value := .str (name value)
  read data := match data with
    | .str value => all.find? fun other => name other = value
    | _ => none
  copy := id
  read_write := h

def readAll (codec : JsonCodec α) : List JsonData → Option (List α)
  | [] => some []
  | item :: items => do
    let first ← codec.read item
    let rest ← readAll codec items
    some (first :: rest)

def list (codec : JsonCodec α) : JsonCodec (List α) where
  write values := .arr (values.map codec.write)
  read data := match data with
    | .arr items => readAll codec items
    | _ => none
  copy values := values.map codec.copy
  read_write values := by
    induction values with
    | nil => rfl
    | cons value values ih =>
      simp only at ih
      simp [readAll, codec.read_write, ih]

/-- The member of a field that may be `undefined`. -/
def put (codec : JsonCodec α) (key : String) (value : Option α) : String × Option JsonData :=
  (key, value.map codec.write)

def optional (codec : JsonCodec α) (key : String) (data : JsonData) : Option (Option α) :=
  match data.member? key with
  | none => some none
  | some value => (codec.read value).map some

def required (codec : JsonCodec α) (key : String) (data : JsonData) : Option α :=
  (data.member? key).bind codec.read

variable {members : List (String × Option JsonData)} {key : String}

theorem optional_put (codec : JsonCodec α) (hnodup : (members.map Prod.fst).Nodup) {value : Option α} (i : ℕ)
    (hmem : members[i]? = some (codec.put key value)) :
    codec.optional key (JsonData.present members) = some (value.map codec.copy) := by
  unfold optional
  rw [JsonData.member?_present hnodup (List.mem_of_getElem? hmem)]
  cases value with
  | none => rfl
  | some value => simp [codec.read_write]

theorem optional_same (codec : JsonCodec α) (hnodup : (members.map Prod.fst).Nodup) {value : Option α} (i : ℕ)
    (hmem : members[i]? = some (codec.put key value)) (hcopy : ∀ value, codec.copy value = value := by exact fun _ => rfl) :
    codec.optional key (JsonData.present members) = some value := by
  rw [codec.optional_put hnodup i hmem, funext hcopy, Option.map_id']

theorem required_put (codec : JsonCodec α) (hnodup : (members.map Prod.fst).Nodup) {value : α} (i : ℕ)
    (hmem : members[i]? = some (codec.put key (some value))) :
    codec.required key (JsonData.present members) = some (codec.copy value) := by
  unfold required
  rw [JsonData.member?_present hnodup (List.mem_of_getElem? hmem)]
  exact codec.read_write value

theorem required_same (codec : JsonCodec α) (hnodup : (members.map Prod.fst).Nodup) {value : α} (i : ℕ)
    (hmem : members[i]? = some (codec.put key (some value))) (hcopy : ∀ value, codec.copy value = value := by exact fun _ => rfl) :
    codec.required key (JsonData.present members) = some value := by
  rw [codec.required_put hnodup i hmem, hcopy]

end JsonCodec
