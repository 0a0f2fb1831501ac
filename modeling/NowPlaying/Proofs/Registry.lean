import NowPlaying.Proofs.NameMap
import NowPlaying.Proofs.Template.Names
import NowPlaying.Proofs.Text.ByteOrder

/-!
# Registries after a history of registrations

A registration puts a helper under its own name and leaves every other name as it was. So what is found under a name is the helper of that name that was registered last, and a registration can only be seen by templates that call its name.
-/

namespace NowPlaying

open Text

namespace Registry

/-! ### One registration -/

/-- Every helper is kept under its own name. -/
def OwnNames (registry : Registry) : Prop := ∀ name helper, registry.get? name = some helper → helper.name = name

theorem get?_register (registry : Registry) (helper : Helper) (name : String) :
    (registry.register helper).get? name = if name = helper.name then some helper else registry.get? name :=
  NameMap.get?_insert registry helper.name name helper

theorem ownNames_empty : OwnNames NameMap.empty := by
  intro name helper hfound
  contradiction

theorem OwnNames.register {registry : Registry} (h : OwnNames registry) (helper : Helper) :
    OwnNames (registry.register helper) := by
  intro name found hfound
  rw [get?_register] at hfound
  by_cases hname : name = helper.name
  · rw [if_pos hname] at hfound
    obtain rfl := Option.some.inj hfound
    exact hname.symm
  · rw [if_neg hname] at hfound
    exact h name found hfound

theorem render_register {template : Template} {helper : Helper}
    (h : ∀ argument, .call helper.name argument ∉ template.tokens) (registry : Registry) (context : Context) :
    template.render (registry.register helper) context = template.render registry context := by
  refine render_congr (fun _ _ => rfl) fun name argument hcall => ?_
  have hother : name ≠ helper.name := fun hsame => h argument (hsame ▸ hcall)
  rw [get?_register, if_neg hother]

/-! ### Histories -/

/-- What a history of registrations makes of a registry. -/
def after (start : Registry) (history : List Helper) : Registry := history.foldl register start

/-- The last helper of a name in a history. -/
def latest? (history : List Helper) (name : String) : Option Helper :=
  Entries.last? (history.map fun helper => (helper.name, helper)) name

theorem latest?_eq_some_iff {history : List Helper} {name : String} {helper : Helper} :
    latest? history name = some helper ↔
      ∃ before later, history = before ++ helper :: later ∧ helper.name = name ∧ ∀ other ∈ later, other.name ≠ name := by
  rw [latest?, Entries.last?_eq_some_iff]
  constructor
  · intro h
    obtain ⟨front, rest, hentries, hrest⟩ := h
    obtain ⟨before, more, rfl, -, hmore⟩ := List.map_eq_append_iff.mp hentries
    obtain ⟨found, later, rfl, hfound, rfl⟩ := List.map_eq_cons_iff.mp hmore
    obtain ⟨hname, rfl⟩ := Prod.mk.inj hfound
    exact ⟨before, later, rfl, hname, fun other hother => hrest _ (List.mem_map_of_mem hother)⟩
  · intro h
    obtain ⟨before, later, rfl, hname, hlater⟩ := h
    refine ⟨before.map fun helper => (helper.name, helper), later.map fun helper => (helper.name, helper), ?_, ?_⟩
    · rw [List.map_append, List.map_cons, hname]
    · intro entry hentry
      obtain ⟨other, hother, rfl⟩ := List.mem_map.mp hentry
      exact hlater other hother

theorem latest?_eq_none_iff {history : List Helper} {name : String} :
    latest? history name = none ↔ ∀ helper ∈ history, helper.name ≠ name := by
  rw [latest?, Entries.last?_eq_none_iff, List.forall_mem_map]

theorem get?_after (start : Registry) (history : List Helper) (name : String) :
    (start.after history).get? name = (latest? history name).or (start.get? name) := by
  rw [latest?, ← NameMap.get?_foldl_insert, List.foldl_map]
  rfl

theorem OwnNames.after {start : Registry} (h : OwnNames start) (history : List Helper) : OwnNames (start.after history) := by
  induction history generalizing start with
  | nil => exact h
  | cons helper history ih => exact ih (h.register helper)

theorem ownNames_builtIn : OwnNames builtIn := fun _ _ hfound => (get?_builtIn_eq_some_iff.mp hfound).2

/-- Registrations begun with no helpers or with the built-in ones: each entry is under the name of its helper, under a name is the last helper of that name, or else the built-in one, and the names are those under which something is found, once each and in the order of their bytes. One more registration makes no difference to a template that does not call its name. -/
theorem registrations_keep_last {start : Registry} (hstart : start = NameMap.empty ∨ start = builtIn) (history : List Helper) :
    (∀ entry ∈ (start.after history).entries, entry.1 = entry.2.name) ∧
    (∀ name helper, (start.after history).get? name = some helper ↔
      (∃ before later, history = before ++ helper :: later ∧ helper.name = name ∧ ∀ other ∈ later, other.name ≠ name) ∨
      ((∀ other ∈ history, other.name ≠ name) ∧ start = builtIn ∧
        helper ∈ [Helper.lowercase, Helper.uppercase, Helper.duration] ∧ helper.name = name)) ∧
    ((start.after history).names.Pairwise fun name later => utf8 name < utf8 later) ∧
    (start.after history).names.Nodup ∧
    (∀ name, name ∈ (start.after history).names ↔ ∃ helper, (start.after history).get? name = some helper) ∧
    (start.after history).names.length = (start.after history).size ∧
    ∀ (helper : Helper) (template : Template), (∀ argument, .call helper.name argument ∉ template.tokens) →
      ∀ context, template.render ((start.after history).register helper) context =
        template.render (start.after history) context := by
  have hownNames : OwnNames (start.after history) := by
    obtain rfl | rfl := hstart
    · exact ownNames_empty.after history
    · exact ownNames_builtIn.after history
  have hbegun (name : String) (helper : Helper) : start.get? name = some helper ↔
      start = builtIn ∧ helper ∈ [Helper.lowercase, Helper.uppercase, Helper.duration] ∧ helper.name = name := by
    obtain rfl | rfl := hstart
    · refine ⟨fun hfound => absurd hfound (Option.some_ne_none helper).symm, fun ⟨hsame, hhelper⟩ => ?_⟩
      rw [hsame]
      exact get?_builtIn_eq_some_iff.mpr hhelper
    · rw [get?_builtIn_eq_some_iff, eq_self, true_and]
  refine ⟨fun entry hentry => ?_, fun name helper => ?_, NameMap.pairwise_utf8_names _, NameMap.nodup_names _,
    fun name => NameMap.mem_names_iff_exists, NameMap.length_names _,
    fun helper template huncalled context => render_register huncalled _ context⟩
  · exact (hownNames entry.1 entry.2 (NameMap.get?_eq_some_iff.mpr hentry)).symm
  · rw [get?_after, Option.or_eq_some_iff, latest?_eq_some_iff, latest?_eq_none_iff, hbegun]

/-- Two helpers take the place of a built-in one, and only the calls of its name see a third. -/
theorem registrations_keep_last_lc :
    let first : Helper := ⟨"lc", "First", fun _ => some "1"⟩
    let second : Helper := ⟨"lc", "Second", fun _ => some "2"⟩
    let registry := builtIn.after [first, ⟨"é", "Other", fun _ => none⟩, second]
    registry.get? "lc" = some second ∧ registry.get? "uc" = some Helper.uppercase ∧ registry.names = ["duration", "lc", "uc", "é"] ∧
      ∀ template : Template, (∀ argument, .call "lc" argument ∉ template.tokens) →
        ∀ context, template.render (registry.register first) context = template.render registry context := by
  intro first second registry
  obtain ⟨-, hfound, -, -, -, -, hrender⟩ :=
    registrations_keep_last (.inr rfl) [first, ⟨"é", "Other", fun _ => none⟩, second]
  refine ⟨(hfound "lc" second).mpr (.inl ?_), (hfound "uc" Helper.uppercase).mpr (.inr ?_), ?_, ?_⟩
  · exact ⟨[first, _], [], rfl, rfl, by simp⟩
  · refine ⟨?_, rfl, by simp, rfl⟩
    intro other hother
    simp only [List.mem_cons, List.not_mem_nil, or_false] at hother
    obtain rfl | rfl | rfl := hother <;> decide
  · rw [NameMap.names_eq_map]
    decide +kernel
  · exact fun template huncalled context => hrender first template huncalled context

end Registry

end NowPlaying
