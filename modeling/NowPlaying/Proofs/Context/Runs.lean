import Mathlib.Data.List.Infix
import Mathlib.Data.Set.Card
import NowPlaying.Proofs.Context.Writes

/-!
# Contexts over a run

An operation on a context is a single write or a whole table of aliases, which writes once for each of its entries. A write takes effect on a name or leaves it alone, and which of the two is told from the context in front of the write. So a run leaves under each name what the last write left that took effect on it, and the names that are found are counted by the size of the context.
-/

namespace NowPlaying

/-! ### The number of names -/

namespace NameMap

universe u

variable {α : Type u}

theorem card_names (map : NameMap α) : map.names.toFinset.card = map.size := by
  rw [List.toFinset_card_of_nodup map.nodup_names, length_names]

theorem ncard_found (map : NameMap α) : {name | ∃ value, map.get? name = some value}.ncard = map.size := by
  have hnames : {name | ∃ value, map.get? name = some value} = ↑map.names.toFinset := by
    ext name
    rw [Set.mem_ofPred_eq, Finset.mem_coe, List.mem_toFinset, mem_names_iff_exists]
  rw [hnames, Set.ncard_coe_finset, card_names]

theorem size_insert_of_none {map : NameMap α} {name : String} (h : map.get? name = none) (value : α) :
    (map.insert name value).size = map.size + 1 := by
  have hnames : (map.insert name value).names.toFinset = Insert.insert name map.names.toFinset := by
    ext other
    rw [List.mem_toFinset, Finset.mem_insert, List.mem_toFinset, mem_names_insert_iff]
  have hfree : name ∉ map.names.toFinset := by
    rw [List.mem_toFinset, mem_names_iff, contains, h]
    exact Bool.false_ne_true
  rw [← card_names, hnames, Finset.card_insert_of_notMem hfree, card_names]

end NameMap

variable {context : Context} {name : String} {value : Value} {found : Option Value}

namespace Context

/-- An insertion with a condition tells whether the context has grown. -/
theorem fst_insertIfAbsent_iff :
    (context.insertIfAbsent name value).1 = true ↔ (context.insertIfAbsent name value).2.size = context.size + 1 := by
  cases hfound : context.get? name with
  | none =>
    rw [insertIfAbsent_of_none hfound]
    exact iff_of_true rfl (NameMap.size_insert_of_none hfound value)
  | some old =>
    rw [insertIfAbsent_of_some hfound]
    exact iff_of_false Bool.false_ne_true (Nat.succ_ne_self _).symm

theorem snd_insertIfAbsent_of_fst (h : (context.insertIfAbsent name value).1 = false) :
    (context.insertIfAbsent name value).2 = context := by
  cases hfound : context.get? name with
  | none =>
    rw [insertIfAbsent_of_none hfound] at h
    contradiction
  | some old => rw [insertIfAbsent_of_some hfound]

end Context

/-! ### Effective writes -/

namespace Write

/-- The write takes effect on the name and leaves `found` under it. An insertion always does, an insertion with a condition only where the name is free, and an alias only where its name is free and its source is there. A loaded object takes effect on every name, since it leaves nothing under those that it does not have. -/
inductive Settles (context : Context) (name : String) : Write → Option Value → Prop
  | set (value : Value) : Settles context name (.set name value) (some value)
  | setIfAbsent {value : Value} (hfree : context.get? name = none) :
    Settles context name (.setIfAbsent name value) (some value)
  | copy {source : String} {value : Value} (hfree : context.get? name = none) (hsource : context.get? source = some value) :
    Settles context name (.copy ⟨name, source⟩) (some value)
  | load (members : List (String × Json)) :
    Settles context name (.load members) ((Entries.last? members name).map Value.ofJson)

/-- The names that the write is about. -/
def Concerns : Write → String → Prop
  | .set name _, other => other = name
  | .setIfAbsent name _, other => other = name
  | .copy entry, other => other = entry.name
  | .load _, _ => True

variable {write : Write}

theorem Settles.concerns (h : write.Settles context name found) : write.Concerns name := by
  cases h with
  | load => exact trivial
  | _ => exact rfl

theorem Settles.get?_run (h : write.Settles context name found) : (write.run context).get? name = found := by
  rw [Write.get?_run]
  cases h with
  | set value => rw [effect, if_pos rfl]
  | setIfAbsent hfree => rw [effect, hfree, if_pos rfl, Option.none_or]
  | copy hfree hsource => rw [effect, hfree, if_pos rfl, hsource, Option.none_or]
  | load members => rw [effect]

/-- A write that does not take effect on a name leaves it alone. -/
theorem get?_run_of_not_settles (h : ∀ found, ¬ write.Settles context name found) :
    (write.run context).get? name = context.get? name := by
  rw [Write.get?_run]
  cases write with
  | set other value =>
    have hother : name ≠ other := by
      rintro rfl
      exact h _ (.set value)
    rw [effect, if_neg hother]
  | setIfAbsent other value =>
    cases hfound : context.get? name with
    | some old => rw [effect, hfound, Option.some_or]
    | none =>
      have hother : name ≠ other := by
        rintro rfl
        exact h _ (.setIfAbsent hfound)
      rw [effect, hfound, if_neg hother, Option.none_or]
  | copy entry =>
    cases hfound : context.get? name with
    | some old => rw [effect, hfound, Option.some_or]
    | none =>
      have hcopied : (if name = entry.name then context.get? entry.source else none) = none := by
        rw [ite_eq_right_iff]
        rintro rfl
        rw [Option.eq_none_iff_forall_ne_some]
        intro value hsource
        exact h _ (.copy hfound hsource)
      rw [effect, hfound, hcopied, Option.none_or]
  | load members => exact absurd (.load members) (h _)

theorem get?_run_of_not_concerns (h : ¬ write.Concerns name) : (write.run context).get? name = context.get? name :=
  get?_run_of_not_settles fun _ hsettles => h hsettles.concerns

theorem get?_foldl_run_of_not_concerns {writes : List Write} (h : ∀ write ∈ writes, ¬ write.Concerns name) :
    (writes.foldl run context).get? name = context.get? name := by
  induction writes generalizing context with
  | nil => rfl
  | cons write writes ih =>
    rw [List.forall_mem_cons] at h
    rw [List.foldl_cons, ih h.2, get?_run_of_not_concerns h.1]

/-! ### The last effective write -/

/-- None of the later writes takes effect on the name when its turn comes, behind the earlier ones. -/
def LeftAlone (before later : List Write) (name : String) : Prop :=
  ∀ earlier write, earlier ++ [write] <+: later → ∀ found, ¬ write.Settles (.ofWrites (before ++ earlier)) name found

/-- The last write of the history that takes effect on the name leaves `found` under it. Where there is no such write, there is nothing. -/
def Leaves (writes : List Write) (name : String) (found : Option Value) : Prop :=
  (∃ before write later, writes = before ++ write :: later ∧ write.Settles (.ofWrites before) name found ∧
    LeftAlone (before ++ [write]) later name) ∨
  LeftAlone [] writes name ∧ found = none

variable {before later writes : List Write}

theorem leftAlone_nil (before : List Write) (name : String) : LeftAlone before [] name := by
  intro earlier write hfront
  exact absurd (List.prefix_nil.mp hfront) (List.append_ne_nil_of_right_ne_nil earlier (List.cons_ne_nil write []))

theorem leftAlone_concat_iff : LeftAlone before (later ++ [write]) name ↔
    LeftAlone before later name ∧ ∀ found, ¬ write.Settles (.ofWrites (before ++ later)) name found := by
  constructor
  · intro h
    refine ⟨fun earlier other hfront => ?_, h later write (List.prefix_refl _)⟩
    exact h earlier other (hfront.trans (List.prefix_append later [write]))
  · rintro ⟨hlater, hwrite⟩ earlier other hfront
    obtain heq | hfront := List.prefix_concat_iff.mp hfront
    · obtain ⟨rfl, hsame⟩ := List.append_inj' heq rfl
      obtain rfl := List.singleton_inj.mp hsame
      exact hwrite
    · exact hlater earlier other hfront

theorem LeftAlone.get?_ofWrites (h : LeftAlone before later name) :
    (Context.ofWrites (before ++ later)).get? name = (Context.ofWrites before).get? name := by
  induction later using List.reverseRecOn with
  | nil => rw [List.append_nil]
  | append_singleton later write ih =>
    obtain ⟨hlater, hwrite⟩ := leftAlone_concat_iff.mp h
    rw [← List.append_assoc, Context.ofWrites_concat, Write.get?_run_of_not_settles hwrite, ih hlater]

theorem Leaves.concat (h : Leaves writes name found) (hwrite : ∀ found, ¬ write.Settles (.ofWrites writes) name found) :
    Leaves (writes ++ [write]) name found := by
  obtain ⟨before, last, later, rfl, hlast, hlater⟩ | ⟨hnever, hfound⟩ := h
  · refine .inl ⟨before, last, later ++ [write], List.append_assoc _ _ _, hlast, leftAlone_concat_iff.mpr ⟨hlater, ?_⟩⟩
    rwa [List.append_assoc, List.singleton_append]
  · exact .inr ⟨leftAlone_concat_iff.mpr ⟨hnever, hwrite⟩, hfound⟩

theorem leaves_get?_ofWrites (writes : List Write) (name : String) :
    Leaves writes name ((Context.ofWrites writes).get? name) := by
  -- The last write takes effect on the name, or it finds there what the history in front of it leaves.
  induction writes using List.reverseRecOn with
  | nil => exact .inr ⟨leftAlone_nil [] name, rfl⟩
  | append_singleton writes write ih =>
    rw [Context.ofWrites_concat]
    by_cases heffect : ∃ found, write.Settles (.ofWrites writes) name found
    · obtain ⟨found, hsettles⟩ := heffect
      rw [hsettles.get?_run]
      exact .inl ⟨writes, write, [], rfl, hsettles, leftAlone_nil _ name⟩
    · rw [not_exists] at heffect
      rw [Write.get?_run_of_not_settles heffect]
      exact ih.concat heffect

theorem Leaves.get?_ofWrites (h : Leaves writes name found) : (Context.ofWrites writes).get? name = found := by
  obtain ⟨before, write, later, rfl, hsettles, hlater⟩ | ⟨hnever, rfl⟩ := h
  · rw [← List.singleton_append, ← List.append_assoc, hlater.get?_ofWrites, Context.ofWrites_concat, hsettles.get?_run]
  · exact hnever.get?_ofWrites

end Write

theorem Context.get?_ofWrites_eq_iff {writes : List Write} :
    (ofWrites writes).get? name = found ↔ Write.Leaves writes name found := by
  constructor
  · rintro rfl
    exact Write.leaves_get?_ofWrites writes name
  · exact Write.Leaves.get?_ofWrites

/-! ### Runs -/

/-- A single write, or a table of aliases that is applied as a whole. -/
inductive Operation where
  | single (write : Write)
  | applyTable (table : AliasTable)

namespace Operation

def run (context : Context) : Operation → Context
  | .single write => write.run context
  | .applyTable table => table.apply context

/-- What the operation writes, in this order. So an entry of a table finds what the entries in front of it have added. -/
def writes : Operation → List Write
  | .single write => [write]
  | .applyTable table => table.map .copy

theorem run_eq_foldl (operation : Operation) (context : Context) :
    operation.run context = operation.writes.foldl Write.run context := by
  cases operation with
  | single write => rfl
  | applyTable table =>
    rw [writes, List.foldl_map]
    rfl

end Operation

namespace Context

/-- The context after a run, begun with the empty one. -/
def after (operations : List Operation) : Context := operations.foldl Operation.run NameMap.empty

theorem after_concat (operations : List Operation) (operation : Operation) :
    after (operations ++ [operation]) = operation.run (after operations) :=
  List.foldl_concat Operation.run NameMap.empty operation operations

theorem after_eq_ofWrites (operations : List Operation) :
    after operations = ofWrites (operations.flatMap Operation.writes) := by
  have hrun : Operation.run = fun context operation => operation.writes.foldl Write.run context := by
    funext context operation
    exact operation.run_eq_foldl context
  rw [after, hrun, ofWrites, List.foldl_flatMap]

/-- Over every run of operations, begun with the empty context, a context is a finite map. Its names are listed once each, exactly as they were written, and counted by its size. Under a name is what the last write left that took effect on it, and no operation on other names changes that. An insertion with a condition tells whether the context has grown, and leaves it as it was if not. -/
theorem after_keeps_last_effective (operations : List Operation) :
    (after operations).names.Nodup ∧
    (∀ name, name ∈ (after operations).names ↔ ∃ value, (after operations).get? name = some value) ∧
    (∀ name, (after operations).contains name ↔ ∃ value, (after operations).get? name = some value) ∧
    (after operations).names.length = (after operations).size ∧
    (after operations).size = {name | ∃ value, (after operations).get? name = some value}.ncard ∧
    (∀ name found, (after operations).get? name = found ↔ Write.Leaves (operations.flatMap Operation.writes) name found) ∧
    (∀ name value other, other ∈ (after (operations ++ [.single (.set name value)])).names ↔
      other = name ∨ other ∈ (after operations).names) ∧
    (∀ operation name, (∀ write ∈ operation.writes, ¬ write.Concerns name) →
      (after (operations ++ [operation])).get? name = (after operations).get? name) ∧
    ∀ name value,
      (((after operations).insertIfAbsent name value).1 = true ↔
        ((after operations).insertIfAbsent name value).2.size = (after operations).size + 1) ∧
      (((after operations).insertIfAbsent name value).1 = false →
        ((after operations).insertIfAbsent name value).2 = after operations) := by
  refine ⟨NameMap.nodup_names _, fun name => NameMap.mem_names_iff_exists, fun name => Option.isSome_iff_exists,
    NameMap.length_names _, (NameMap.ncard_found _).symm, fun name found => ?_, fun name value other => ?_,
    fun operation name hother => ?_, fun name value => ⟨fst_insertIfAbsent_iff, snd_insertIfAbsent_of_fst⟩⟩
  · rw [after_eq_ofWrites, get?_ofWrites_eq_iff]
  · rw [after_concat]
    exact NameMap.mem_names_insert_iff
  · rw [after_concat, Operation.run_eq_foldl, Write.get?_foldl_run_of_not_concerns hother]

/-- A loaded object takes the place of a first value, a table builds on what it has just added, and neither it nor an insertion with a condition replaces anything. Names that differ in case or in a blank are different names. -/
theorem after_keeps_last_effective_table :
    let operations : List Operation := [.single (.set "title" (.text "Low")),
      .single (.load [("xesam:artist", .text "Bowie"), ("Title", .text "Heroes")]),
      .applyTable [⟨"artist", "xesam:artist"⟩, ⟨"Title", "xesam:artist"⟩, ⟨"singer", "artist"⟩],
      .single (.setIfAbsent "artist" (.text "Eno"))]
    Write.Leaves (operations.flatMap Operation.writes) "singer" (some (.text "Bowie")) ∧
      Write.Leaves (operations.flatMap Operation.writes) "Title" (some (.text "Heroes")) ∧
      Write.Leaves (operations.flatMap Operation.writes) "title" none ∧
      (after operations).names.length = 4 ∧
      (after (operations ++ [.single (.set " artist" (.text "Eno"))])).get? "artist" = some (.text "Bowie") ∧
      ((after operations).insertIfAbsent "ARTIST" (.text "Eno")).2.size = 5 ∧
      ((after operations).insertIfAbsent "artist" (.text "Eno")).2 = after operations := by
  intro operations
  obtain ⟨-, -, -, hlength, -, hlast, -, hothers, hoffer⟩ := after_keeps_last_effective operations
  have hsize : (after operations).size = 4 := by decide +kernel
  refine ⟨(hlast _ _).mp rfl, (hlast _ _).mp rfl, (hlast _ _).mp rfl, hlength.trans hsize, ?_, ?_, ?_⟩
  · exact hothers (.single (.set " artist" (.text "Eno"))) "artist" (by simp [Operation.writes, Write.Concerns])
  · rw [(hoffer "ARTIST" (.text "Eno")).1.mp (by decide +kernel), hsize]
  · exact (hoffer "artist" (.text "Eno")).2 (by decide +kernel)

end Context

end NowPlaying
