import ODataQuery.Json.Fields
import ODataQuery.Proofs.Dictionary

/-!
# What is found in JSON

Each part of data is found where it was put: items in an array, values under their names, a choice by
its name and a tag in its field.

* `mapM_map_eq_some_iff`: items are read back together if each of them is.
* `Json.toDictionary?_object`: a dictionary is read back if its values are.
* `Json.oneOf?_string`: a choice is found by its name.
* `Json.member?_cons_self`, `Json.member?_cons_of_ne`: a member is found in the field of its name.
* `Json.tagged?_cons`: a tag is taken from the first field, if no other field has its name.
-/

set_option autoImplicit false

namespace ODataQuery

variable {α β : Type}

/-- **Items are read back together** exactly if each of them is. -/
theorem mapM_map_eq_some_iff {write : α → β} {read : β → Option α} {items : List α} :
    (items.map write).mapM read = some items ↔ ∀ a ∈ items, read (write a) = some a := by
  induction items with
  | nil => simp
  | cons a rest ih =>
    rw [List.map_cons, List.mapM_cons, List.forall_mem_cons, ← ih]
    simp [Option.bind_eq_some_iff]

namespace Json

theorem toList?_array_iff {write : α → Json} {read : Json → Option α} {items : List α} :
    toList? read (array (items.map write)) = some items ↔ ∀ a ∈ items, read (write a) = some a :=
  mapM_map_eq_some_iff

@[simp] theorem toText?_string (s : String) : toText? (string s) = some s :=
  rfl

@[simp] theorem toList?_texts (texts : List String) :
    toList? toText? (array (texts.map string)) = some texts :=
  toList?_array_iff.2 fun s _ => toText?_string s

/-- **A dictionary is read back** if its values are. -/
theorem toDictionary?_object {write : α → Json} {read : Json → Option α} {dictionary : Dictionary α}
    (h : ∀ entry ∈ dictionary.entries, read (write entry.2) = some entry.2) :
    toDictionary? read (object (dictionary.entries.map fun (name, value) => (name, write value)))
      = some dictionary := by
  have hread : (dictionary.entries.map fun (name, value) => (name, write value)).mapM
      (fun field => (read field.2).map fun a => (field.1, a)) = some dictionary.entries :=
    mapM_map_eq_some_iff.2 fun entry hentry => by simp [h entry hentry]
  rw [toDictionary?, hread, Option.map_some, Dictionary.ofList_entries]

/-- A choice that is found by its name is read back. -/
theorem oneOf?_string (strictness : Strictness) {choices : List α} {name : α → String} {choice : α}
    (h : choices.find? (fun other => name other == name choice) = some choice) :
    oneOf? strictness choices name (string (name choice)) = some choice :=
  h

theorem valuesOf_eq_nil {name : String} {fields : List (String × Json)}
    (h : name ∉ fields.map Prod.fst) : valuesOf name fields = [] := by
  induction fields with
  | nil => rfl
  | cons field rest ih =>
    rw [List.map_cons, List.mem_cons, not_or] at h
    rw [valuesOf, if_neg (Ne.symm h.1), ih h.2]

/-! ## Members -/

@[simp] theorem members?_object (names : List String) (fields : List (String × Json)) :
    members? names (object fields) = names.mapM (member? fields) :=
  rfl

@[simp] theorem member?_nil (name : String) : member? [] name = some .absent :=
  rfl

/-- A member is not looked for in a field of another name. -/
@[simp] theorem member?_cons_of_ne {name other : String} (h : other ≠ name) (value : Json)
    (fields : List (String × Json)) :
    member? ((other, value) :: fields) name = member? fields name := by
  rw [member?, valuesOf, if_neg h, member?]

/-- **A member is found in the field of its name**, if there is no other one. -/
@[simp] theorem member?_cons_self {name : String} {fields : List (String × Json)}
    (h : name ∉ fields.map Prod.fst) (value : Json) :
    member? ((name, value) :: fields) name = some (.given value) := by
  rw [member?, valuesOf, if_pos rfl, valuesOf_eq_nil h]

namespace Member

variable (read : Json → Option α) (value : Json)

@[simp] theorem required?_given : (given value).required? read = read value :=
  rfl

@[simp] theorem optional?_given : (given value).optional? read = toOption? read value :=
  rfl

@[simp] theorem orElse?_given (assumed : α) : (given value).orElse? assumed read = read value :=
  rfl

@[simp] theorem orElse?_absent (assumed : α) : absent.orElse? assumed read = some assumed :=
  rfl

end Member

/-! ## Tags -/

/-- **A tag is taken from the first field**, and the other fields stay, if none has its name. -/
@[simp] theorem tagged?_cons {field : String} {read : Json → Option String} {tag : Json}
    {fields : List (String × Json)} (h : field ∉ fields.map Prod.fst) :
    tagged? field read (object ((field, tag) :: fields))
      = (read tag).map fun choice => (choice, object fields) := by
  have hothers : ∀ other ∈ fields, other.1 ≠ field := fun other hother heq =>
    h (heq ▸ List.mem_map_of_mem hother)
  rw [tagged?, valuesOf, if_pos rfl, valuesOf_eq_nil h, List.filter_cons_of_neg (by simp),
    List.filter_eq_self.2]
  exact fun other hother => decide_eq_true (hothers other hother)

/-! ## Depth -/

/-- Where there is depth for a value, there is a level of it. -/
theorem exists_succ_of_depth_le {value : Json} {depth : Nat} (h : value.depth ≤ depth) :
    ∃ inner, depth = inner + 1 := by
  have hpos : 0 < value.depth := by cases value <;> simp [Json.depth]
  exact Nat.exists_eq_add_one_of_ne_zero (by omega)

theorem depth_le_depthOfItems {item : Json} {items : List Json} (h : item ∈ items) :
    item.depth ≤ depthOfItems items := by
  induction items with
  | nil => cases h
  | cons first rest ih =>
    rw [depthOfItems]
    rcases List.mem_cons.1 h with rfl | h
    · exact Nat.le_max_left _ _
    · exact Nat.le_trans (ih h) (Nat.le_max_right _ _)

end Json
end ODataQuery
