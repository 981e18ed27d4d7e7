/-!
# Dictionaries

A finite map from names to values that lists its entries in ascending order of the names, each
name once.  Two dictionaries with the same entries are equal, because the order leaves no choice.

* `get?` looks a name up; `insert` does what it says to it (`get?_insert`).
* `ofList` inserts from left to right, so the last entry of a name wins.
-/

set_option autoImplicit false

namespace ODataQuery

/-- A finite map from names to values, listed in ascending order of the names. -/
structure Dictionary (α : Type) where
  entries : List (String × α)
  sorted : entries.Pairwise fun a b => a.1 < b.1
  deriving DecidableEq

namespace Dictionary

variable {α β : Type}

instance [Repr α] : Repr (Dictionary α) where
  reprPrec dictionary := reprPrec dictionary.entries

/-- The dictionary without entries. -/
def empty : Dictionary α := ⟨[], .nil⟩

instance : Inhabited (Dictionary α) := ⟨empty⟩

/-- The value of a name. -/
def get? (dictionary : Dictionary α) (name : String) : Option α :=
  dictionary.entries.lookup name

/-- Does the dictionary have an entry of this name. -/
def contains (dictionary : Dictionary α) (name : String) : Bool :=
  (dictionary.get? name).isSome

/-- The names, in ascending order. -/
def keys (dictionary : Dictionary α) : List String :=
  dictionary.entries.map Prod.fst

/-! ## Insertion -/

/-- Put an entry in its place among ordered entries, replacing one of the same name. -/
def insertEntry (name : String) (value : α) : List (String × α) → List (String × α)
  | [] => [(name, value)]
  | entry :: rest =>
    if name < entry.1 then (name, value) :: entry :: rest
    else if name = entry.1 then (name, value) :: rest
    else entry :: insertEntry name value rest

theorem mem_insertEntry {name : String} {value : α} {entries : List (String × α)}
    {entry : String × α} (h : entry ∈ insertEntry name value entries) :
    entry = (name, value) ∨ entry ∈ entries := by
  induction entries with
  | nil => simp [insertEntry] at h; exact .inl h
  | cons first rest ih =>
    rw [insertEntry] at h
    split at h
    · rcases List.mem_cons.1 h with h | h
      · exact .inl h
      · exact .inr h
    · split at h
      · rcases List.mem_cons.1 h with h | h
        · exact .inl h
        · exact .inr (List.mem_cons_of_mem _ h)
      · rcases List.mem_cons.1 h with h | h
        · exact .inr (h ▸ List.mem_cons_self)
        · exact (ih h).imp_right (List.mem_cons_of_mem _)

theorem lt_of_not_lt_of_ne {a b : String} (h : ¬ a < b) (hne : a ≠ b) : b < a := by
  rcases String.le_total a b with hle | hle
  · exact absurd (String.le_antisymm hle (String.not_lt.1 h)) hne
  · exact String.not_le.1 fun hle' => hne (String.le_antisymm hle' hle)

theorem insertEntry_sorted (name : String) (value : α) {entries : List (String × α)}
    (h : entries.Pairwise fun a b => a.1 < b.1) :
    (insertEntry name value entries).Pairwise fun a b => a.1 < b.1 := by
  induction entries with
  | nil => simp [insertEntry]
  | cons first rest ih =>
    obtain ⟨hfirst, hrest⟩ := List.pairwise_cons.1 h
    rw [insertEntry]
    split
    · rename_i hlt
      refine List.pairwise_cons.2 ⟨fun entry hentry => ?_, h⟩
      rcases List.mem_cons.1 hentry with rfl | hentry
      · exact hlt
      · exact String.lt_trans hlt (hfirst entry hentry)
    · split
      · rename_i heq
        exact List.pairwise_cons.2 ⟨fun entry hentry => heq ▸ hfirst entry hentry, hrest⟩
      · rename_i hlt hne
        refine List.pairwise_cons.2 ⟨fun entry hentry => ?_, ih hrest⟩
        rcases mem_insertEntry hentry with rfl | hentry
        · exact lt_of_not_lt_of_ne hlt hne
        · exact hfirst entry hentry

/-- The dictionary with the value of one name set. -/
def insert (dictionary : Dictionary α) (name : String) (value : α) : Dictionary α :=
  ⟨insertEntry name value dictionary.entries, insertEntry_sorted name value dictionary.sorted⟩

/-- The dictionary of a list of entries, of which the last one of each name counts. -/
def ofList (entries : List (String × α)) : Dictionary α :=
  entries.foldl (fun dictionary entry => dictionary.insert entry.1 entry.2) empty

/-- The entries of both dictionaries; where both have a name, the entry of the second. -/
def merge (first second : Dictionary α) : Dictionary α :=
  second.entries.foldl (fun dictionary entry => dictionary.insert entry.1 entry.2) first

/-- The dictionary with every value replaced by its image. -/
def mapValues (f : String → α → β) (dictionary : Dictionary α) : Dictionary β :=
  ⟨dictionary.entries.map fun entry => (entry.1, f entry.1 entry.2), by
    rw [List.pairwise_map]
    exact dictionary.sorted⟩

/-- The images of the values of entries, in order, or the first failure. -/
def imagesOf {ε : Type} (f : String → α → Except ε β) :
    List (String × α) → Except ε (List (String × β))
  | [] => .ok []
  | (name, value) :: rest => do
    let image ← f name value
    let images ← imagesOf f rest
    .ok ((name, image) :: images)

theorem map_fst_of_imagesOf {ε : Type} {f : String → α → Except ε β} {entries : List (String × α)}
    {images : List (String × β)} (h : imagesOf f entries = .ok images) :
    images.map Prod.fst = entries.map Prod.fst := by
  induction entries generalizing images with
  | nil =>
    cases h
    rfl
  | cons entry rest ih =>
    rw [imagesOf] at h
    cases hfirst : f entry.1 entry.2 with
    | error e => simp [hfirst, bind, Except.bind] at h
    | ok image =>
      cases hrest : imagesOf f rest with
      | error e => simp [hfirst, hrest, bind, Except.bind] at h
      | ok others =>
        simp only [hfirst, hrest, bind, Except.bind, Except.ok.injEq] at h
        subst h
        simp [ih hrest]

/-- The dictionary with every value replaced by its image, or the failure of the first name whose
value has none. -/
def traverse {ε : Type} (f : String → α → Except ε β) (dictionary : Dictionary α) :
    Except ε (Dictionary β) :=
  match h : imagesOf f dictionary.entries with
  | .error error => .error error
  | .ok images => .ok ⟨images, by
      have hnames := List.pairwise_map.2 dictionary.sorted
      rw [← map_fst_of_imagesOf h] at hnames
      exact List.pairwise_map.1 hnames⟩

/-! ## What the operations do to look-ups -/

theorem lookup_cons (name : String) (entry : String × α) (rest : List (String × α)) :
    (entry :: rest).lookup name = if name = entry.1 then some entry.2 else rest.lookup name := by
  obtain ⟨key, value⟩ := entry
  rw [List.lookup_cons]
  by_cases h : name = key
  · subst h; simp
  · have : (name == key) = false := by simpa using h
    simp [this, h]

theorem lookup_insertEntry (name other : String) (value : α) (entries : List (String × α)) :
    (insertEntry name value entries).lookup other
      = if other = name then some value else entries.lookup other := by
  induction entries with
  | nil => rw [insertEntry, lookup_cons]
  | cons first rest ih =>
    rw [insertEntry]
    split
    · rw [lookup_cons]
    · split
      · rename_i heq
        rw [lookup_cons, lookup_cons, heq]
        by_cases ho : other = first.1 <;> simp [ho]
      · rename_i hne
        rw [lookup_cons, lookup_cons, ih]
        by_cases hf : other = first.1
        · have ho : other ≠ name := fun ho => hne (ho ▸ hf)
          simp [hf, Ne.symm hne]
        · simp [hf]

theorem get?_insert (dictionary : Dictionary α) (name other : String) (value : α) :
    (dictionary.insert name value).get? other
      = if other = name then some value else dictionary.get? other :=
  lookup_insertEntry name other value dictionary.entries

@[simp] theorem get?_empty (name : String) : (empty : Dictionary α).get? name = none := rfl

theorem get?_mapValues (f : String → α → β) (dictionary : Dictionary α) (name : String) :
    (dictionary.mapValues f).get? name = (dictionary.get? name).map (f name) := by
  show List.lookup name (dictionary.entries.map fun entry => (entry.1, f entry.1 entry.2))
    = (List.lookup name dictionary.entries).map (f name)
  induction dictionary.entries with
  | nil => rfl
  | cons entry rest ih =>
    rw [List.map_cons, lookup_cons, lookup_cons, ih]
    by_cases h : name = entry.1 <;> simp [h]

/-- What is found is the value of an entry. -/
theorem mem_entries_of_get? {dictionary : Dictionary α} {name : String} {value : α}
    (h : dictionary.get? name = some value) : (name, value) ∈ dictionary.entries := by
  rw [get?, List.lookup_eq_some_iff] at h
  obtain ⟨before, after, hentries, -⟩ := h
  rw [hentries]
  exact List.mem_append_right _ List.mem_cons_self

end Dictionary
end ODataQuery
