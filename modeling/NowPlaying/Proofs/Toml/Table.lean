import NowPlaying.Proofs.NameMap
import NowPlaying.Toml

/-!
# Tables filled in order

A key behind all others is put at the end of its table. `Leads` describes the table that a path leads to by the document around it: a function of the entries of this table, such that a change at the end of the path changes them and nothing else. Lines that fill the table need not know what stands in front of it.
-/

namespace NowPlaying.Toml

variable {entries : Entries} {key : String}

/-! ### One more entry -/

theorem alter_of_forall_lt (h : ∀ e ∈ entries, e.1 < key) (change : Option Toml → Option Toml) :
    alter key change entries = (change none).map fun value => entries ++ [(key, value)] := by
  have hlookup : entries.lookup key = none := by
    have happend := Entries.lookup_append_of_forall_lt h []
    rwa [List.append_nil] at happend
  rw [alter, hlookup]
  apply Option.map_congr
  intro value _
  exact Entries.insert_of_forall_lt h value

theorem alter_last (h : ∀ e ∈ entries, e.1 < key) (old : Toml) (change : Option Toml → Option Toml) :
    alter key change (entries ++ [(key, old)]) = (change (some old)).map fun value => entries ++ [(key, value)] := by
  have hlookup : (entries ++ [(key, old)]).lookup key = some old := by
    rw [Entries.lookup_append_of_forall_lt h, List.lookup_cons_self]
  rw [alter, hlookup]
  apply Option.map_congr
  intro value _
  exact Entries.insert_last h value old

theorem assign_of_forall_lt (h : ∀ e ∈ entries, e.1 < key) (value : Toml) :
    assign ⟨[], key⟩ value entries = some (entries ++ [(key, value)]) := by
  rw [assign, withinDotted, define, alter_of_forall_lt h]
  rfl

theorem openTable_of_forall_lt (h : ∀ e ∈ entries, e.1 < key) :
    openTable key entries = some (entries ++ [(key, .table .header [])]) := by
  rw [openTable, alter_of_forall_lt h]
  rfl

/-- A header in a table that does not exist implies this table. -/
theorem within_openTable_of_forall_lt (h : ∀ e ∈ entries, e.1 < key) (inner : String) :
    within [key] (openTable inner) entries = some (entries ++ [(key, .table .implied [(inner, .table .header [])])]) := by
  rw [within, alter_of_forall_lt h, within, openTable_of_forall_lt (by simp)]
  rfl

/-! ### Paths -/

/-- A change at the end of the path is a change of the entries that the document is a function of. -/
def Leads (path : List String) (document : Entries → Entries) : Prop :=
  ∀ change entries, within path change (document entries) = (change entries).map document

theorem leads_nil : Leads [] id := by
  intro change entries
  rw [within, Option.map_id]
  rfl

/-- The last table is on a path, unless it stands in braces. -/
theorem leads_cons {path : List String} {document : Entries → Entries} {origin : TableOrigin} (h : Leads path document)
    (horigin : origin ≠ .braces) (hkey : ∀ e ∈ entries, e.1 < key) :
    Leads (key :: path) fun inner => entries ++ [(key, .table origin (document inner))] := by
  intro change inner
  rw [within, alter_last hkey]
  simp only [if_neg horigin, h change inner, Option.map_map, Function.comp_def]

theorem leads_last (h : ∀ e ∈ entries, e.1 < key) : Leads [key] fun inner => entries ++ [(key, .table .header inner)] :=
  leads_cons leads_nil (by decide) h

end NowPlaying.Toml
