/-!
# Finite maps from names

A map from names to values is kept as its entries in increasing order of name, each name once. Two maps with the same entries are equal, so the order in which a map was filled never shows. Names compare by code points, which is also the order of their UTF-8 bytes. Where names are listed they are sorted, so a listing does not rest on the order in which the entries are kept.
-/

namespace NowPlaying

universe u v

/-! ### Entries in order of name -/

namespace Entries

variable {α : Type u}

def Ordered (entries : List (String × α)) : Prop := entries.Pairwise fun a b => a.1 < b.1

/-- Puts a value under a name, in place of the value that was there. -/
def insert (name : String) (value : α) : List (String × α) → List (String × α)
  | [] => [(name, value)]
  | (n, v) :: rest =>
    if name < n then (name, value) :: (n, v) :: rest
    else if name = n then (name, value) :: rest
    else (n, v) :: insert name value rest

theorem mem_insert {name : String} {value : α} {entries : List (String × α)} {e : String × α}
    (h : e ∈ insert name value entries) : e = (name, value) ∨ e ∈ entries := by
  induction entries with
  | nil => simpa [insert] using h
  | cons head rest ih =>
    obtain ⟨n, v⟩ := head
    simp only [insert] at h
    split at h
    · simpa using h
    · split at h
      · simp only [List.mem_cons] at h ⊢
        rcases h with h | h
        · exact .inl h
        · exact .inr (.inr h)
      · simp only [List.mem_cons] at h ⊢
        rcases h with h | h
        · exact .inr (.inl h)
        · rcases ih h with h | h
          · exact .inl h
          · exact .inr (.inr h)

theorem lt_of_not_lt_of_ne {a b : String} (h : ¬ a < b) (ne : a ≠ b) : b < a := by
  rcases String.le_total a b with le | le
  · exact absurd (String.le_antisymm le (String.not_lt.mp h)) ne
  · exact String.not_le.mp fun ge => ne (String.le_antisymm ge le)

theorem ordered_insert {name : String} {value : α} {entries : List (String × α)}
    (h : Ordered entries) : Ordered (insert name value entries) := by
  induction entries with
  | nil => simp [insert, Ordered]
  | cons head rest ih =>
    obtain ⟨n, v⟩ := head
    obtain ⟨first, later⟩ := List.pairwise_cons.mp h
    simp only [insert]
    split
    · next lt =>
      refine List.pairwise_cons.mpr ⟨fun e he => ?_, h⟩
      rcases List.mem_cons.mp he with rfl | he
      · exact lt
      · exact String.lt_trans lt (first e he)
    · next notLt =>
      split
      · next eq =>
        subst eq
        exact List.pairwise_cons.mpr ⟨first, later⟩
      · next ne =>
        refine List.pairwise_cons.mpr ⟨fun e he => ?_, ih later⟩
        rcases mem_insert he with rfl | he
        · exact lt_of_not_lt_of_ne notLt ne
        · exact first e he

theorem lookup_insert {name other : String} {value : α} {entries : List (String × α)}
    (h : Ordered entries) :
    (insert name value entries).lookup other = if other = name then some value else entries.lookup other := by
  induction entries with
  | nil =>
    by_cases eq : other = name
    · simp [insert, eq]
    · simp [insert, List.lookup_cons, eq, beq_false_of_ne eq]
  | cons head rest ih =>
    obtain ⟨n, v⟩ := head
    obtain ⟨first, later⟩ := List.pairwise_cons.mp h
    simp only [insert]
    split
    · by_cases eq : other = name
      · simp [eq]
      · simp [List.lookup_cons, eq, beq_false_of_ne eq]
    · split
      · next eqName =>
        subst eqName
        by_cases eq : other = name
        · simp [eq]
        · simp [List.lookup_cons, eq, beq_false_of_ne eq]
      · next ne =>
        by_cases eqHead : other = n
        · subst eqHead
          have eq : ¬ other = name := fun eq => ne eq.symm
          simp [eq]
        · simp [List.lookup_cons, beq_false_of_ne eqHead, ih later]

end Entries

/-! ### Maps -/

structure NameMap (α : Type u) where
  entries : List (String × α)
  ordered : Entries.Ordered entries
  deriving DecidableEq

namespace NameMap

variable {α : Type u} {β : Type v}

def empty : NameMap α := ⟨[], List.Pairwise.nil⟩

instance : Inhabited (NameMap α) := ⟨empty⟩

def get? (map : NameMap α) (name : String) : Option α := map.entries.lookup name

def contains (map : NameMap α) (name : String) : Bool := (map.get? name).isSome

def insert (map : NameMap α) (name : String) (value : α) : NameMap α :=
  ⟨Entries.insert name value map.entries, Entries.ordered_insert map.ordered⟩

def ofList (entries : List (String × α)) : NameMap α :=
  entries.foldl (fun map entry => map.insert entry.1 entry.2) empty

/-- The names, sorted. The order is that of the sort, whatever order the entries are kept in. -/
def names (map : NameMap α) : List String := (map.entries.map Prod.fst).mergeSort

def size (map : NameMap α) : Nat := map.entries.length

def isEmpty (map : NameMap α) : Bool := map.entries.isEmpty

/-- Since the entries are kept in order, the sort finds their names sorted. -/
theorem names_eq_map (map : NameMap α) : map.names = map.entries.map Prod.fst := by
  refine List.mergeSort_of_pairwise (List.pairwise_map.mpr (map.ordered.imp fun hlt => ?_))
  exact decide_eq_true (String.not_lt.mp (String.lt_asymm hlt))

@[simp] theorem get?_empty (name : String) : (empty : NameMap α).get? name = none := rfl

theorem get?_insert (map : NameMap α) (name other : String) (value : α) :
    (map.insert name value).get? other = if other = name then some value else map.get? other :=
  Entries.lookup_insert map.ordered

@[simp] theorem get?_insert_self (map : NameMap α) (name : String) (value : α) :
    (map.insert name value).get? name = some value := by
  simp [get?_insert]

end NameMap

end NowPlaying
