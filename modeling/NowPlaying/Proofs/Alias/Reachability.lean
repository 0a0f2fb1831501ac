import Mathlib.Data.List.Chain
import NowPlaying.Alias

/-!
# What a table of aliases adds

A table adds the names that can be reached from the context along its entries, each entry behind the one that it builds on. A new name has the value of the name where its path begins, and nothing that was there is touched.

Everything is read off one fact about a single entry, `Alias.get?_apply`: a name keeps the value that it has, and where it has none it gets the one of the source. A second run of a table can only find something to do where an entry waits for a later one, which is what `apply_apply_of_pairwise` says.
-/

namespace NowPlaying

variable {context : Context} {name : String} {value : Value}

/-! ### A single entry -/

namespace Alias

theorem get?_apply (entry : Alias) (context : Context) (name : String) :
    (entry.apply context).get? name =
      (context.get? name).or (if entry.name = name then context.get? entry.source else none) := by
  rw [apply, NameMap.contains]
  cases hown : context.get? entry.name with
  | some old =>
    rw [Option.isSome_some, if_pos rfl]
    by_cases hname : entry.name = name
    · rw [← hname, hown, Option.some_or]
    · rw [if_neg hname, Option.or_none]
  | none =>
    rw [Option.isSome_none, if_neg Bool.false_ne_true]
    cases hsource : context.get? entry.source with
    | none => rw [ite_self, Option.or_none]
    | some found =>
      simp only [NameMap.get?_insert]
      by_cases hname : entry.name = name
      · rw [if_pos hname.symm, if_pos hname, ← hname, hown, Option.none_or]
      · rw [if_neg (Ne.symm hname), if_neg hname, Option.or_none]

theorem get?_apply_of_some {entry : Alias} (h : context.get? name = some value) :
    (entry.apply context).get? name = some value := by
  rw [get?_apply, h, Option.some_or]

theorem get?_apply_of_name_ne {entry : Alias} (h : entry.name ≠ name) (context : Context) :
    (entry.apply context).get? name = context.get? name := by
  rw [get?_apply, if_neg h, Option.or_none]

theorem get?_apply_name {entry : Alias} (h : context.get? entry.name = none) :
    (entry.apply context).get? entry.name = context.get? entry.source := by
  rw [get?_apply, h, if_pos rfl, Option.none_or]

theorem contains_apply_name {entry : Alias} (h : context.contains entry.source) :
    (entry.apply context).contains entry.name := by
  rw [NameMap.contains, get?_apply, if_pos rfl, Option.isSome_or, ← NameMap.contains, ← NameMap.contains, h, Bool.or_true]

theorem apply_eq_self {entry : Alias} (h : context.get? entry.name = none → context.get? entry.source = none) :
    entry.apply context = context := by
  rw [apply, NameMap.contains]
  cases hown : context.get? entry.name with
  | some old => rfl
  | none =>
    rw [h hown]
    rfl

end Alias

namespace AliasTable

/-! ### A table, entry by entry -/

@[simp] theorem apply_nil (context : Context) : apply [] context = context := rfl

@[simp] theorem apply_cons (entry : Alias) (table : AliasTable) (context : Context) :
    apply (entry :: table) context = table.apply (entry.apply context) := rfl

theorem apply_append (table more : AliasTable) (context : Context) :
    apply (table ++ more) context = more.apply (table.apply context) := List.foldl_append

/-- Values that are there stay. -/
theorem get?_apply_of_some (table : AliasTable) (h : context.get? name = some value) :
    (table.apply context).get? name = some value := by
  induction table generalizing context with
  | nil => exact h
  | cons entry table ih => exact ih (Alias.get?_apply_of_some h)

theorem get?_apply_of_name_ne {table : AliasTable} (h : ∀ entry ∈ table, entry.name ≠ name) (context : Context) :
    (table.apply context).get? name = context.get? name := by
  induction table generalizing context with
  | nil => rfl
  | cons entry table ih =>
    rw [List.forall_mem_cons] at h
    rw [apply_cons, ih h.2, Alias.get?_apply_of_name_ne h.1]

theorem contains_apply_of_contains (table : AliasTable) (h : context.contains name) :
    (table.apply context).contains name := by
  obtain ⟨value, hvalue⟩ := Option.isSome_iff_exists.mp h
  exact Option.isSome_iff_exists.mpr ⟨value, table.get?_apply_of_some hvalue⟩

/-- A name stays without a value exactly when no entry for it finds its source. -/
theorem get?_apply_eq_none_iff {table : AliasTable} :
    (table.apply context).get? name = none ↔ context.get? name = none ∧
      ∀ before entry after, table = before ++ entry :: after → entry.name = name →
        (apply before context).get? entry.source = none := by
  induction table generalizing context with
  | nil => simp
  | cons first table ih =>
    rw [apply_cons, ih, Alias.get?_apply, Option.or_eq_none_iff, ite_eq_right_iff]
    constructor
    · rintro ⟨⟨hnone, hfirst⟩, hlater⟩
      refine ⟨hnone, fun before entry after htable hname => ?_⟩
      cases before with
      | nil =>
        obtain ⟨rfl, -⟩ := List.cons.inj htable
        exact hfirst hname
      | cons other before =>
        obtain ⟨rfl, rfl⟩ := List.cons.inj htable
        exact hlater before entry after rfl hname
    · rintro ⟨hnone, hall⟩
      refine ⟨⟨hnone, hall [] first table rfl⟩, fun before entry after htable hname => ?_⟩
      exact hall (first :: before) entry after (congrArg (first :: ·) htable) hname

/-- A new name gets the value that the source of one of its entries has when the entry is reached, and is still missing by then. -/
theorem exists_entry_of_get?_apply {table : AliasTable} (hnone : context.get? name = none)
    (h : (table.apply context).get? name = some value) :
    ∃ before entry after, table = before ++ entry :: after ∧ entry.name = name ∧
      (apply before context).get? name = none ∧ (apply before context).get? entry.source = some value := by
  induction table generalizing context with
  | nil =>
    rw [apply_nil, hnone] at h
    contradiction
  | cons first table ih =>
    rw [apply_cons] at h
    cases hstep : (first.apply context).get? name with
    | none =>
      obtain ⟨before, entry, after, rfl, hentry⟩ := ih hstep h
      exact ⟨first :: before, entry, after, rfl, hentry⟩
    | some found =>
      rw [get?_apply_of_some table hstep] at h
      rw [Alias.get?_apply, hnone, Option.none_or, Option.ite_none_right_eq_some, h] at hstep
      exact ⟨[], first, table, rfl, hstep.1, hnone, hstep.2⟩

/-! ### Paths -/

/-- The entries of `path` stand in the table in this order. The first one has the source `start`, the last one has the name `name`, and the name of each is the source of the next. -/
structure Leads (table path : AliasTable) (start name : String) : Prop where
  inOrder : path.Sublist table
  linked : path.IsChain fun entry next => entry.name = next.source
  begins : path.head?.map Alias.source = some start
  ends : path.getLast?.map Alias.name = some name

theorem Leads.mono {table more path : AliasTable} {start name : String} (h : table.Leads path start name)
    (hmore : table.Sublist more) : more.Leads path start name :=
  ⟨h.inOrder.trans hmore, h.linked, h.begins, h.ends⟩

theorem leads_singleton {table : AliasTable} {entry : Alias} (h : entry ∈ table) :
    table.Leads [entry] entry.source entry.name :=
  ⟨List.singleton_sublist.mpr h, .singleton entry, rfl, rfl⟩

/-- An entry in front whose name is where the path begins. -/
theorem Leads.cons {table path : AliasTable} {entry : Alias} {name : String} (h : table.Leads path entry.name name) :
    Leads (entry :: table) (entry :: path) entry.source name := by
  obtain ⟨first, hfirst, hsource⟩ := Option.map_eq_some_iff.mp h.begins
  obtain ⟨last, hlast, hname⟩ := Option.map_eq_some_iff.mp h.ends
  refine ⟨h.inOrder.cons_cons entry, ?_, rfl, ?_⟩
  · rw [List.isChain_cons, hfirst]
    refine ⟨fun next hnext => ?_, h.linked⟩
    obtain rfl := Option.some.inj hnext
    exact hsource.symm
  · rw [List.getLast?_cons, hlast, Option.getD_some, Option.map_some, hname]

/-- An entry behind whose source is where the path ends. -/
theorem Leads.concat {table path : AliasTable} {start : String} {entry : Alias} (h : table.Leads path start entry.source) :
    Leads (table ++ [entry]) (path ++ [entry]) start entry.name := by
  obtain ⟨first, hfirst, hsource⟩ := Option.map_eq_some_iff.mp h.begins
  obtain ⟨last, hlast, hname⟩ := Option.map_eq_some_iff.mp h.ends
  refine ⟨h.inOrder.append_right [entry], ?_, ?_, ?_⟩
  · rw [List.isChain_append, hlast]
    refine ⟨h.linked, .singleton entry, fun other hother next hnext => ?_⟩
    obtain rfl := Option.some.inj hother
    obtain rfl := Option.some.inj hnext
    exact hname
  · rw [List.head?_append, hfirst, Option.some_or, Option.map_some, hsource]
  · rw [List.getLast?_concat, Option.map_some]

/-- A path leaves the first entry aside or begins with it. -/
theorem Leads.of_cons {table path : AliasTable} {entry : Alias} {start name : String}
    (h : Leads (entry :: table) path start name) :
    table.Leads path start name ∨
      entry.source = start ∧ (entry.name = name ∨ ∃ rest, table.Leads rest entry.name name) := by
  obtain ⟨inOrder, linked, begins, ends⟩ := h
  obtain hrest | ⟨rest, rfl, hrest⟩ := List.sublist_cons_iff.mp inOrder
  · exact .inl ⟨hrest, linked, begins, ends⟩
  · refine .inr ⟨Option.some.inj begins, ?_⟩
    cases rest with
    | nil => exact .inl (Option.some.inj ends)
    | cons next rest =>
      rw [List.isChain_cons_cons] at linked
      rw [List.getLast?_cons_cons] at ends
      exact .inr ⟨next :: rest, hrest, linked.2, congrArg some linked.1.symm, ends⟩

/-! ### Paths and what is there -/

theorem contains_apply_of_leads {table path : AliasTable} {start : String} (h : table.Leads path start name)
    (hstart : context.contains start) : (table.apply context).contains name := by
  induction table generalizing context path start with
  | nil =>
    have hbegins := h.begins
    rw [List.sublist_nil.mp h.inOrder] at hbegins
    contradiction
  | cons entry table ih =>
    obtain hrest | ⟨rfl, hentry⟩ := h.of_cons
    · exact ih hrest (contains_apply_of_contains [entry] hstart)
    · have hnext := Alias.contains_apply_name hstart
      obtain rfl | ⟨rest, hrest⟩ := hentry
      · exact contains_apply_of_contains table hnext
      · exact ih hrest hnext

/-- Every value comes from the context, unchanged or along a path. -/
theorem exists_start_of_get?_apply {table : AliasTable} (h : (table.apply context).get? name = some value) :
    ∃ start, context.get? start = some value ∧ (start = name ∨ ∃ path, table.Leads path start name) := by
  induction table generalizing context with
  | nil => exact ⟨name, h, .inl rfl⟩
  | cons entry table ih =>
    obtain ⟨start, hstart, hpath⟩ := ih h
    rw [Alias.get?_apply, Option.or_eq_some_iff, Option.ite_none_right_eq_some] at hstart
    obtain hstart | ⟨-, rfl, hsource⟩ := hstart
    · refine ⟨start, hstart, hpath.imp_right fun ⟨path, hleads⟩ => ?_⟩
      exact ⟨path, hleads.mono (List.sublist_cons_self entry table)⟩
    · refine ⟨entry.source, hsource, .inr ?_⟩
      obtain rfl | ⟨path, hleads⟩ := hpath
      · exact ⟨[entry], leads_singleton List.mem_cons_self⟩
      · exact ⟨entry :: path, hleads.cons⟩

theorem contains_apply_iff {table : AliasTable} :
    (table.apply context).contains name ↔
      context.contains name ∨ ∃ path start, table.Leads path start name ∧ context.contains start := by
  constructor
  · intro h
    obtain ⟨value, hvalue⟩ := Option.isSome_iff_exists.mp h
    obtain ⟨start, hstart, rfl | ⟨path, hleads⟩⟩ := exists_start_of_get?_apply hvalue
    · exact .inl (Option.isSome_iff_exists.mpr ⟨value, hstart⟩)
    · exact .inr ⟨path, start, hleads, Option.isSome_iff_exists.mpr ⟨value, hstart⟩⟩
  · rintro (h | ⟨path, start, hleads, hstart⟩)
    · exact table.contains_apply_of_contains h
    · exact contains_apply_of_leads hleads hstart

/-- The value behind a path stays the same when the last entry is put behind it. -/
theorem exists_leads_concat {before : AliasTable} {entry : Alias}
    (h : (before.apply context).get? entry.source = some value) :
    ∃ path start, Leads (before ++ [entry]) (path ++ [entry]) start entry.name ∧ context.get? start = some value := by
  obtain ⟨start, hstart, rfl | ⟨path, hleads⟩⟩ := exists_start_of_get?_apply h
  · exact ⟨[], _, leads_singleton (List.mem_append_right before List.mem_cons_self), hstart⟩
  · exact ⟨path, start, hleads.concat, hstart⟩

/-! ### The first entry of a name -/

theorem sourceOf?_cons (entry : Alias) (table : AliasTable) (name : String) :
    sourceOf? (entry :: table) name = if entry.name = name then some entry.source else table.sourceOf? name := by
  rw [sourceOf?, List.find?_cons]
  by_cases hname : entry.name = name
  · simp only [hname, decide_true, if_true, Option.map_some]
  · simp only [hname, decide_false, if_false]
    rfl

/-- A later entry of the same name does not matter where the first one finds its source. -/
theorem get?_apply_of_sourceOf? {table : AliasTable} {source : String} (hnone : context.get? name = none)
    (hfirst : table.sourceOf? name = some source) (hsource : context.get? source = some value) :
    (table.apply context).get? name = some value := by
  induction table generalizing context with
  | nil => contradiction
  | cons entry table ih =>
    rw [sourceOf?_cons] at hfirst
    split at hfirst
    · next hname =>
      obtain rfl := hname
      obtain rfl := Option.some.inj hfirst
      exact get?_apply_of_some table ((Alias.get?_apply_name hnone).trans hsource)
    · next hname =>
      refine ih ?_ hfirst (Alias.get?_apply_of_some hsource)
      rw [Alias.get?_apply_of_name_ne hname, hnone]

/-! ### A second run -/

theorem apply_eq_self {table : AliasTable}
    (h : ∀ entry ∈ table, context.get? entry.name = none → context.get? entry.source = none) :
    table.apply context = context := by
  induction table with
  | nil => rfl
  | cons entry table ih =>
    rw [List.forall_mem_cons] at h
    rw [apply_cons, Alias.apply_eq_self h.1, ih h.2]

/-- Where an entry leaves its name missing, no later entry brings its source. -/
theorem get?_source_of_get?_name {before after : AliasTable} {entry : Alias}
    (hlater : ∀ later ∈ after, entry.source ≠ later.name)
    (hname : (apply (before ++ entry :: after) context).get? entry.name = none) :
    (apply (before ++ entry :: after) context).get? entry.source = none := by
  have hsource := (get?_apply_eq_none_iff.mp hname).2 before entry after rfl rfl
  by_cases hself : entry.name = entry.source
  · rwa [← hself]
  · rw [apply_append, apply_cons, get?_apply_of_name_ne fun later hmem heq => hlater later hmem heq.symm]
    rw [Alias.get?_apply_of_name_ne hself, hsource]

theorem apply_apply_of_pairwise {table : AliasTable} (h : table.Pairwise fun entry later => entry.source ≠ later.name)
    (context : Context) : table.apply (table.apply context) = table.apply context := by
  refine apply_eq_self fun entry hmem => ?_
  obtain ⟨before, after, rfl⟩ := List.append_of_mem hmem
  have hlater := (List.pairwise_cons.mp (List.pairwise_append.mp h).2.1).1
  exact get?_source_of_get?_name hlater

/-- A table keeps every value and adds exactly the names that its paths lead to. A new name gets the value where such a path begins: the path ends with the first entry for the name whose source is there when the entry is reached, so a source that is there for the first entry of all decides. Where no entry has the name of a later one as its source, a second run of the table changes nothing. -/
theorem apply_eq_reachable (table : AliasTable) (context : Context) :
    (∀ name value, context.get? name = some value → (table.apply context).get? name = some value) ∧
    (∀ name, (table.apply context).contains name ↔
      context.contains name ∨ ∃ path start, table.Leads path start name ∧ context.contains start) ∧
    (∀ name value, context.get? name = none → (table.apply context).get? name = some value →
      ∃ before entry after path start, table = before ++ entry :: after ∧ entry.name = name ∧
        (apply before context).get? entry.source = some value ∧
        (∀ earlier other later, before = earlier ++ other :: later → other.name = name →
          (apply earlier context).get? other.source = none) ∧
        Leads (before ++ [entry]) (path ++ [entry]) start name ∧ context.get? start = some value) ∧
    (∀ name source value, context.get? name = none → table.sourceOf? name = some source →
      context.get? source = some value → (table.apply context).get? name = some value) ∧
    ((table.Pairwise fun entry later => entry.source ≠ later.name) →
      table.apply (table.apply context) = table.apply context) := by
  refine ⟨fun name value => table.get?_apply_of_some, fun name => contains_apply_iff, ?_, ?_, ?_⟩
  · intro name value hnone h
    obtain ⟨before, entry, after, htable, rfl, hmissing, hsource⟩ := exists_entry_of_get?_apply hnone h
    obtain ⟨path, start, hleads, hstart⟩ := exists_leads_concat hsource
    exact ⟨before, entry, after, path, start, htable, rfl, hsource, (get?_apply_eq_none_iff.mp hmissing).2, hleads, hstart⟩
  · exact fun name source value => get?_apply_of_sourceOf?
  · exact fun h => apply_apply_of_pairwise h context

/-- The entry for `a` comes before the one that it builds on, so it waits for the second run. -/
example :
    let table : AliasTable := [⟨"a", "b"⟩, ⟨"b", "c"⟩]
    let once := table.apply (NameMap.empty.insert "c" (.text "x"))
    once.names = ["b", "c"] ∧ (table.apply once).names = ["a", "b", "c"] := by
  simp only [NameMap.names_eq_map]
  decide +kernel

end AliasTable

end NowPlaying
