import ODataQuery.Dictionary
import ODataQuery.Proofs.Outcomes

/-!
# Merged and traversed dictionaries

What can be looked up in a dictionary that has been made from others.

* `lookup_of_mem`: what is found in a list of entries with distinct keys.
* `Dictionary.mem_keys`: the keys are the names that have a value, which is the one they are listed
  with (`get?_of_mem_entries`).
* `Dictionary.ofList_entries`: a dictionary is made of its entries.
* `Dictionary.get?_merge`: a value of the second dictionary hides that of the first.
* `Dictionary.exists_traverse_iff`, `exists_of_traverse_eq_error`: a traversal succeeds if it does
  at each value, and else fails as it does at one of them.
* `Dictionary.exists_of_get?_traverse`, `keys_of_traverse`: what it gives are the images of the
  values, under the same names.
-/

set_option autoImplicit false

namespace ODataQuery

/-! ## Lists of entries -/

section

variable {κ α : Type} [BEq κ] [LawfulBEq κ] {entries : List (κ × α)} {key : κ} {value : α}

theorem lookup_eq_none_iff_not_mem : entries.lookup key = none ↔ key ∉ entries.map Prod.fst := by
  rw [List.lookup_eq_none_iff, List.mem_map]
  simp only [bne_iff_ne, ne_eq, not_exists, not_and]
  exact forall₂_congr fun entry _ => not_congr eq_comm

theorem isSome_lookup_iff : (entries.lookup key).isSome ↔ key ∈ entries.map Prod.fst := by
  rw [Option.isSome_iff_ne_none, ne_eq, lookup_eq_none_iff_not_mem, Classical.not_not]

/-- If no key is listed twice, every value is found under its key. -/
theorem lookup_of_mem (hdistinct : (entries.map Prod.fst).Nodup) (h : (key, value) ∈ entries) :
    entries.lookup key = some value := by
  obtain ⟨before, after, rfl⟩ := List.append_of_mem h
  rw [List.map_append, List.map_cons, List.nodup_append] at hdistinct
  refine List.lookup_eq_some_iff.2 ⟨before, after, rfl, fun entry hentry => ?_⟩
  rw [bne_iff_ne]
  exact (hdistinct.2.2 entry.1 (List.mem_map_of_mem hentry) key List.mem_cons_self).symm

end

namespace Dictionary

variable {α β ε : Type} {dictionary : Dictionary α} {name : String} {value : α}

/-! ## Names and entries -/

theorem get?_eq_none_iff : dictionary.get? name = none ↔ name ∉ dictionary.keys :=
  lookup_eq_none_iff_not_mem

theorem nodup_keys (dictionary : Dictionary α) : dictionary.keys.Nodup := by
  refine List.pairwise_map.2 (dictionary.sorted.imp fun {first second} hlt heq => ?_)
  rw [heq] at hlt
  exact String.lt_irrefl second.1 hlt

/-- The keys are the names that have a value. -/
theorem mem_keys : name ∈ dictionary.keys ↔ ∃ value, dictionary.get? name = some value := by
  rw [← Option.ne_none_iff_exists', ne_eq, get?_eq_none_iff, Classical.not_not]

theorem lookup_eq_none_of_lt {entries : List (String × α)}
    (h : ∀ entry ∈ entries, name < entry.1) : entries.lookup name = none :=
  List.lookup_eq_none_iff.2 fun entry hentry => bne_iff_ne.2 fun heq =>
    String.lt_irrefl name (heq ▸ h entry hentry : name < name)

/-- The value of an entry is found under its name. -/
theorem get?_of_mem_entries (h : (name, value) ∈ dictionary.entries) :
    dictionary.get? name = some value :=
  lookup_of_mem dictionary.nodup_keys h

/-! ## Entries in order -/

/-- A name behind all others is put at the end. -/
theorem insertEntry_of_forall_lt {entries : List (String × α)}
    (h : ∀ entry ∈ entries, entry.1 < name) :
    insertEntry name value entries = entries ++ [(name, value)] := by
  induction entries with
  | nil => rfl
  | cons first rest ih =>
    rw [List.forall_mem_cons] at h
    have hne : name ≠ first.1 := fun heq => String.lt_irrefl first.1 (heq ▸ h.1)
    rw [insertEntry, if_neg (String.lt_asymm h.1), if_neg hne, ih h.2, List.cons_append]

/-- Entries in order behind those of a dictionary are added at its end. -/
theorem entries_foldl_insert {entries : List (String × α)} (dictionary : Dictionary α)
    (hsorted : (dictionary.entries ++ entries).Pairwise fun a b => a.1 < b.1) :
    (entries.foldl (fun dictionary entry => dictionary.insert entry.1 entry.2) dictionary).entries
      = dictionary.entries ++ entries := by
  induction entries generalizing dictionary with
  | nil => rw [List.foldl_nil, List.append_nil]
  | cons entry rest ih =>
    have hlast : ∀ other ∈ dictionary.entries, other.1 < entry.1 := fun other hother =>
      (List.pairwise_append.1 hsorted).2.2 other hother entry List.mem_cons_self
    have hinsert : (dictionary.insert entry.1 entry.2).entries = dictionary.entries ++ [entry] :=
      insertEntry_of_forall_lt hlast
    rw [List.foldl_cons, ih _ (by simpa [hinsert] using hsorted), hinsert, List.append_assoc,
      List.singleton_append]

/-- A dictionary is made of its entries. -/
theorem ofList_entries (dictionary : Dictionary α) : ofList dictionary.entries = dictionary := by
  have hentries : (ofList dictionary.entries).entries = dictionary.entries :=
    entries_foldl_insert empty dictionary.sorted
  rwa [Dictionary.mk.injEq]

/-! ## Merging -/

theorem get?_foldl_insert {entries : List (String × α)}
    (hsorted : entries.Pairwise fun a b => a.1 < b.1) (dictionary : Dictionary α) (name : String) :
    (entries.foldl (fun dictionary entry => dictionary.insert entry.1 entry.2) dictionary).get? name
      = (entries.lookup name).or (dictionary.get? name) := by
  induction entries generalizing dictionary with
  | nil => rfl
  | cons entry rest ih =>
    obtain ⟨hfirst, hrest⟩ := List.pairwise_cons.1 hsorted
    rw [List.foldl_cons, ih hrest, get?_insert, lookup_cons]
    split
    · rename_i heq
      rw [heq, lookup_eq_none_of_lt hfirst]
      rfl
    · rfl

/-- A value of the second dictionary hides that of the first. -/
theorem get?_merge (first second : Dictionary α) (name : String) :
    (first.merge second).get? name = (second.get? name).or (first.get? name) :=
  get?_foldl_insert second.sorted first name

/-! ## Replacing each value -/

theorem keys_mapValues (f : String → α → β) (dictionary : Dictionary α) :
    (dictionary.mapValues f).keys = dictionary.keys := by
  rw [keys, keys, mapValues, List.map_map]
  rfl

variable {f : String → α → Except ε β}

theorem exists_imagesOf_iff {entries : List (String × α)} :
    (∃ images, imagesOf f entries = .ok images)
      ↔ ∀ entry ∈ entries, ∃ image, f entry.1 entry.2 = .ok image := by
  induction entries with
  | nil => simp [imagesOf]
  | cons entry rest ih =>
    rw [List.forall_mem_cons, ← ih]
    constructor
    · rintro ⟨images, h⟩
      obtain ⟨image, himage, h⟩ := bind_eq_ok.1 h
      obtain ⟨others, hothers, -⟩ := bind_eq_ok.1 h
      exact ⟨⟨image, himage⟩, others, hothers⟩
    · rintro ⟨⟨image, himage⟩, others, hothers⟩
      exact ⟨_, bind_eq_ok.2 ⟨image, himage, bind_eq_ok.2 ⟨others, hothers, rfl⟩⟩⟩

theorem exists_of_imagesOf_eq_error {entries : List (String × α)} {error : ε}
    (h : imagesOf f entries = .error error) :
    ∃ entry ∈ entries, f entry.1 entry.2 = .error error := by
  induction entries with
  | nil => cases h
  | cons entry rest ih =>
    rcases bind_eq_error.1 h with h | ⟨image, -, h⟩
    · exact ⟨entry, List.mem_cons_self, h⟩
    · rcases bind_eq_error.1 h with h | ⟨others, -, h⟩
      · obtain ⟨other, hother, h⟩ := ih h
        exact ⟨other, List.mem_cons_of_mem _ hother, h⟩
      · cases h

theorem imagesOf_of_traverse {images : Dictionary β} (h : dictionary.traverse f = .ok images) :
    imagesOf f dictionary.entries = .ok images.entries := by
  rw [traverse] at h
  split at h
  · cases h
  · rename_i entries hentries
    cases h
    exact hentries

/-- A traversal succeeds exactly if every value has an image. -/
theorem exists_traverse_iff : (∃ images, dictionary.traverse f = .ok images)
    ↔ ∀ name value, dictionary.get? name = some value → ∃ image, f name value = .ok image := by
  have hvalues : (∀ entry ∈ dictionary.entries, ∃ image, f entry.1 entry.2 = .ok image)
      ↔ ∀ name value, dictionary.get? name = some value → ∃ image, f name value = .ok image :=
    ⟨fun h name value hget => h (name, value) (mem_entries_of_get? hget),
      fun h entry hentry => h entry.1 entry.2 (get?_of_mem_entries hentry)⟩
  rw [← hvalues, ← exists_imagesOf_iff]
  constructor
  · rintro ⟨images, h⟩
    exact ⟨_, imagesOf_of_traverse h⟩
  · rintro ⟨entries, h⟩
    rw [traverse]
    split
    · rename_i error herror
      rw [herror] at h
      cases h
    · exact ⟨_, rfl⟩

/-- A traversal fails with what it fails with at some value. -/
theorem exists_of_traverse_eq_error {error : ε} (h : dictionary.traverse f = .error error) :
    ∃ name value, dictionary.get? name = some value ∧ f name value = .error error := by
  rw [traverse] at h
  split at h
  · rename_i cause hcause
    cases h
    obtain ⟨entry, hentry, h⟩ := exists_of_imagesOf_eq_error hcause
    exact ⟨entry.1, entry.2, get?_of_mem_entries hentry, h⟩
  · cases h

theorem exists_of_lookup_imagesOf {entries : List (String × α)} {images : List (String × β)}
    (h : imagesOf f entries = .ok images) {name : String} {image : β}
    (hname : images.lookup name = some image) :
    ∃ value, entries.lookup name = some value ∧ f name value = .ok image := by
  induction entries generalizing images with
  | nil =>
    cases h
    cases hname
  | cons entry rest ih =>
    rw [imagesOf] at h
    obtain ⟨first, hfirst, h⟩ := bind_eq_ok.1 h
    obtain ⟨others, hothers, h⟩ := bind_eq_ok.1 h
    cases h
    rw [lookup_cons] at hname ⊢
    split at hname
    · rename_i heq
      cases hname
      rw [if_pos heq, heq]
      exact ⟨_, rfl, hfirst⟩
    · rename_i hne
      rw [if_neg hne]
      exact ih hothers hname

/-- Every value is the image of the value that had its name. -/
theorem exists_of_get?_traverse {images : Dictionary β} (h : dictionary.traverse f = .ok images)
    {name : String} {image : β} (hname : images.get? name = some image) :
    ∃ value, dictionary.get? name = some value ∧ f name value = .ok image :=
  exists_of_lookup_imagesOf (imagesOf_of_traverse h) hname

theorem keys_of_traverse {images : Dictionary β} (h : dictionary.traverse f = .ok images) :
    images.keys = dictionary.keys :=
  map_fst_of_imagesOf (imagesOf_of_traverse h)

end Dictionary
end ODataQuery
