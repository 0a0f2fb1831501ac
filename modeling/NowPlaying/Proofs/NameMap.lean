import Mathlib.Data.List.Basic
import NowPlaying.NameMap

/-!
# Maps as their entries

What is found under a name is its entry, and a map is known by what is found under its names. A name behind all others is appended, and a map filled with its own entries is the map again. Of several entries with one name the last is kept.
-/

namespace NowPlaying

universe u v

variable {α : Type u} {β : Type v}

namespace Entries

/-- Entries in front of the name stay as they are. -/
theorem insert_append_of_forall_lt {name : String} {entries : List (String × α)} (h : ∀ e ∈ entries, e.1 < name)
    (value : α) (more : List (String × α)) : insert name value (entries ++ more) = entries ++ insert name value more := by
  induction entries with
  | nil => rfl
  | cons head rest ih =>
    rw [List.forall_mem_cons] at h
    have hbehind : ¬ name < head.1 := String.lt_asymm h.1
    have hne : name ≠ head.1 := fun heq => String.lt_irrefl _ (heq ▸ h.1)
    rw [List.cons_append, insert, if_neg hbehind, if_neg hne, ih h.2, List.cons_append]

theorem insert_of_forall_lt {name : String} {entries : List (String × α)} (h : ∀ e ∈ entries, e.1 < name) (value : α) :
    insert name value entries = entries ++ [(name, value)] := by
  have happend := insert_append_of_forall_lt h value []
  rwa [List.append_nil] at happend

theorem insert_last {name : String} {entries : List (String × α)} (h : ∀ e ∈ entries, e.1 < name) (value old : α) :
    insert name value (entries ++ [(name, old)]) = entries ++ [(name, value)] := by
  rw [insert_append_of_forall_lt h, insert, if_neg (String.lt_irrefl name), if_pos rfl]

theorem lookup_append_of_forall_lt {name : String} {entries : List (String × α)} (h : ∀ e ∈ entries, e.1 < name)
    (more : List (String × α)) : (entries ++ more).lookup name = more.lookup name := by
  induction entries with
  | nil => rfl
  | cons head rest ih =>
    rw [List.forall_mem_cons] at h
    have hne : (name == head.1) = false := beq_false_of_ne fun heq => String.lt_irrefl _ (heq ▸ h.1)
    rw [List.cons_append, List.lookup_cons, hne]
    exact ih h.2

theorem forall_lt_of_names {entries : List (String × α)} {name : String} (names : List String)
    (hnames : entries.map Prod.fst = names) (h : ∀ n ∈ names, n < name) : ∀ e ∈ entries, e.1 < name := by
  intro e he
  exact h e.1 (hnames ▸ List.mem_map_of_mem he)

theorem forall_lt_of_ordered_append {entries more : List (String × α)} {name : String} {value : α}
    (h : Ordered (entries ++ (name, value) :: more)) : ∀ e ∈ entries, e.1 < name := by
  intro e he
  exact (List.pairwise_append.mp h).2.2 e he (name, value) List.mem_cons_self

/-! ### The last of several -/

/-- What stands last under a name. -/
def last? (entries : List (String × α)) (name : String) : Option α := entries.reverse.lookup name

@[simp] theorem last?_nil (name : String) : last? ([] : List (String × α)) name = none := rfl

theorem last?_cons (entry : String × α) (entries : List (String × α)) (name : String) :
    last? (entry :: entries) name = (last? entries name).or (if name = entry.1 then some entry.2 else none) := by
  rw [last?, List.reverse_cons, List.lookup_append, List.lookup_cons, last?]
  by_cases heq : name = entry.1
  · rw [if_pos heq, beq_iff_eq.mpr heq]
  · rw [if_neg heq, beq_false_of_ne heq]
    rfl

theorem last?_map (f : α → β) (entries : List (String × α)) (name : String) :
    last? (entries.map fun entry => (entry.1, f entry.2)) name = (last? entries name).map f := by
  induction entries with
  | nil => rfl
  | cons entry entries ih =>
    rw [List.map_cons, last?_cons, last?_cons, ih, Option.map_or]
    by_cases heq : name = entry.1
    · rw [if_pos heq, if_pos heq, Option.map_some]
    · rw [if_neg heq, if_neg heq, Option.map_none]

theorem isSome_last?_iff {entries : List (String × α)} {name : String} :
    (last? entries name).isSome ↔ name ∈ entries.map Prod.fst := by
  induction entries with
  | nil => simp [last?]
  | cons entry entries ih =>
    rw [last?_cons, Option.isSome_or, Bool.or_eq_true, ih, List.map_cons, List.mem_cons, or_comm]
    by_cases heq : name = entry.1 <;> simp [heq]

theorem last?_eq_some_iff {entries : List (String × α)} {name : String} {value : α} :
    last? entries name = some value ↔
      ∃ before later, entries = before ++ (name, value) :: later ∧ ∀ entry ∈ later, entry.1 ≠ name := by
  rw [last?, List.lookup_eq_some_iff]
  constructor
  · intro h
    obtain ⟨later, before, hentries, hlater⟩ := h
    refine ⟨before.reverse, later.reverse, ?_, fun entry hentry hname => ?_⟩
    · rw [← List.reverse_reverse entries, hentries, List.reverse_append, List.reverse_cons, List.append_assoc,
        List.singleton_append]
    · exact bne_iff_ne.mp (hlater entry (List.mem_reverse.mp hentry)) hname.symm
  · intro h
    obtain ⟨before, later, rfl, hlater⟩ := h
    refine ⟨later.reverse, before.reverse, ?_, fun entry hentry => ?_⟩
    · rw [List.reverse_append, List.reverse_cons, List.append_assoc, List.singleton_append]
    · exact bne_iff_ne.mpr (hlater entry (List.mem_reverse.mp hentry)).symm

theorem last?_eq_none_iff {entries : List (String × α)} {name : String} :
    last? entries name = none ↔ ∀ entry ∈ entries, entry.1 ≠ name := by
  rw [← Option.not_isSome_iff_eq_none, isSome_last?_iff, List.mem_map, not_exists]
  exact forall_congr' fun entry => not_and

end Entries

namespace NameMap

theorem nodup_names (map : NameMap α) : map.names.Nodup := by
  rw [names_eq_map]
  refine List.pairwise_map.mpr (map.ordered.imp ?_)
  intro entry later hlt heq
  exact String.lt_irrefl _ (heq ▸ hlt)

theorem nodup_entries (map : NameMap α) : map.entries.Nodup :=
  List.Pairwise.of_map Prod.fst (fun _ _ hne heq => hne (heq ▸ rfl)) (map.names_eq_map ▸ map.nodup_names)

theorem get?_eq_some_iff {map : NameMap α} {name : String} {value : α} :
    map.get? name = some value ↔ (name, value) ∈ map.entries := by
  rw [get?, List.lookup_eq_some_iff]
  constructor
  · rintro ⟨before, after, hentries, -⟩
    exact hentries ▸ List.mem_append_right before List.mem_cons_self
  · intro hmem
    obtain ⟨before, after, hentries⟩ := List.append_of_mem hmem
    have hbefore := Entries.forall_lt_of_ordered_append (hentries ▸ map.ordered)
    refine ⟨before, after, hentries, fun entry hentry => ?_⟩
    exact bne_iff_ne.mpr fun heq => String.lt_irrefl _ (heq ▸ hbefore entry hentry)

theorem mem_names_iff {map : NameMap α} {name : String} : name ∈ map.names ↔ map.contains name := by
  rw [contains, Option.isSome_iff_exists]
  simp only [get?_eq_some_iff, names_eq_map, List.mem_map, Prod.exists, exists_and_right, exists_eq_right]

theorem mem_names_iff_exists {map : NameMap α} {name : String} : name ∈ map.names ↔ ∃ value, map.get? name = some value := by
  rw [mem_names_iff, contains, Option.isSome_iff_exists]

theorem mem_names_insert_iff {map : NameMap α} {name other : String} {value : α} :
    other ∈ (map.insert name value).names ↔ other = name ∨ other ∈ map.names := by
  rw [mem_names_iff_exists, mem_names_iff_exists, get?_insert]
  by_cases heq : other = name
  · rw [if_pos heq]
    exact iff_of_true ⟨value, rfl⟩ (.inl heq)
  · rw [if_neg heq, or_iff_right heq]

theorem length_names (map : NameMap α) : map.names.length = map.size := by
  rw [names_eq_map, List.length_map, size]

/-- Looking the sorted names up gives the entries again. -/
theorem filterMap_names (map : NameMap α) (line : String → α → β) :
    (map.names.filterMap fun name => (map.get? name).map (line name)) =
      map.entries.map fun entry => line entry.1 entry.2 := by
  rw [names_eq_map, List.filterMap_map, ← List.filterMap_eq_map]
  refine List.filterMap_congr fun entry hentry => ?_
  rw [Function.comp_apply, get?_eq_some_iff.mpr hentry]
  rfl

/-- Maps with the same values under the same names are equal. -/
theorem ext_get? {map other : NameMap α} (h : ∀ name, map.get? name = other.get? name) : map = other := by
  have hmem (entry : String × α) : entry ∈ map.entries ↔ entry ∈ other.entries := by
    rw [← get?_eq_some_iff, ← get?_eq_some_iff, h]
  have hperm := (List.perm_ext_iff_of_nodup map.nodup_entries other.nodup_entries).mpr hmem
  have hentries : map.entries = other.entries := by
    refine hperm.eq_of_pairwise (fun a b _ _ hlt hgt => ?_) map.ordered other.ordered
    exact absurd hgt (String.lt_asymm hlt)
  cases map
  cases other
  cases hentries
  rfl

/-- A search through the entries stops at the least name where there is something to find. -/
theorem exists_least_of_findSome?_entries {map : NameMap α} {find? : String × α → Option β} {found : β}
    (h : map.entries.findSome? find? = some found) :
    ∃ name value, map.get? name = some value ∧ find? (name, value) = some found ∧
      ∀ other value', map.get? other = some value' → find? (other, value') ≠ none → other ≠ name → name < other := by
  obtain ⟨before, ⟨name, value⟩, after, hentries, hfound, hbefore⟩ := List.findSome?_eq_some_iff.mp h
  have hordered := map.ordered
  rw [hentries, Entries.Ordered, List.pairwise_append, List.pairwise_cons] at hordered
  refine ⟨name, value, get?_eq_some_iff.mpr ?_, hfound, fun other value' hother hsome hne => ?_⟩
  · exact hentries ▸ List.mem_append_right before List.mem_cons_self
  · rw [get?_eq_some_iff, hentries, List.mem_append, List.mem_cons, Prod.mk.injEq] at hother
    obtain hmem | ⟨rfl, -⟩ | hmem := hother
    · exact absurd (hbefore _ hmem) hsome
    · exact absurd rfl hne
    · exact hordered.2.1.1 _ hmem

theorem entries_foldl_insert {map : NameMap α} {more : List (String × α)} (h : Entries.Ordered (map.entries ++ more)) :
    (more.foldl (fun map entry => map.insert entry.1 entry.2) map).entries = map.entries ++ more := by
  induction more generalizing map with
  | nil => exact (List.append_nil _).symm
  | cons entry more ih =>
    obtain ⟨name, value⟩ := entry
    have hinsert : (map.insert name value).entries = map.entries ++ [(name, value)] :=
      Entries.insert_of_forall_lt (Entries.forall_lt_of_ordered_append h) value
    have hordered : Entries.Ordered ((map.insert name value).entries ++ more) := by
      rwa [hinsert, List.append_assoc, List.singleton_append]
    rw [List.foldl_cons, ih hordered, hinsert, List.append_assoc, List.singleton_append]

/-- Entries put into a map one after the other. The last of a name is found, and without one what was there. -/
theorem get?_foldl_insert (map : NameMap α) (entries : List (String × α)) (name : String) :
    (entries.foldl (fun map entry => map.insert entry.1 entry.2) map).get? name =
      (Entries.last? entries name).or (map.get? name) := by
  induction entries generalizing map with
  | nil => rfl
  | cons entry entries ih =>
    rw [List.foldl_cons, ih, get?_insert, Entries.last?_cons, Option.or_assoc]
    by_cases heq : name = entry.1
    · rw [if_pos heq, if_pos heq, Option.some_or]
    · rw [if_neg heq, if_neg heq, Option.none_or]

theorem get?_ofList (entries : List (String × α)) (name : String) :
    (ofList entries).get? name = Entries.last? entries name := by
  rw [ofList, get?_foldl_insert, get?_empty, Option.or_none]

theorem ofList_entries (map : NameMap α) : ofList map.entries = map := by
  have hentries : (ofList map.entries).entries = map.entries := entries_foldl_insert map.ordered
  obtain ⟨entries, ordered⟩ := map
  cases hmap : ofList entries with
  | mk found hfound =>
    rw [hmap] at hentries
    obtain rfl : found = entries := hentries
    rfl

theorem last?_entries (map : NameMap α) (name : String) : Entries.last? map.entries name = map.get? name := by
  rw [← get?_ofList, ofList_entries]

end NameMap

end NowPlaying
