import NowPlaying.CommandLine.Run
import NowPlaying.Proofs.Context.Writes
import NowPlaying.Proofs.Json.Values

/-!
# Entries from a file and from assignments

A context is built in three steps, and in each of them what comes later takes the place of what was there: the members of an object are gathered by name, they are put into the context, and the assignments are made. Put together, a name has the value of its last assignment, and without one that of its last member.
-/

namespace NowPlaying

/-! ### The three steps -/

/-- The entry that an assignment makes. -/
def Assignment.entry (assignment : Assignment) : String × Value := (assignment.key, assignment.value)

theorem Assignment.get?_applyAll (assignments : List Assignment) (context : Context) (name : String) :
    (applyAll assignments context).get? name =
      (Entries.last? (assignments.map entry) name).or (context.get? name) := by
  rw [← NameMap.get?_foldl_insert, List.foldl_map]
  rfl

theorem Context.get?_ofMembers_gather (members : List (String × Json)) (name : String) :
    (ofMembers (Json.gather members)).get? name = (Entries.last? members name).map Value.ofJson := by
  rw [get?_ofMembers, Json.last?_gather]

/-- The names of the context are those of the members and of the assignments, each once. The last assignment to a name gives its value, and without one the last member of that name does. -/
structure Context.KeepsLast (context : Context) (members : List (String × Json)) (assignments : List Assignment) : Prop where
  nodup_names : context.names.Nodup
  mem_names_iff : ∀ name, name ∈ context.names ↔ name ∈ members.map Prod.fst ∨ name ∈ assignments.map Assignment.key
  get?_eq : ∀ name, context.get? name =
    (Entries.last? (assignments.map Assignment.entry) name).or ((Entries.last? members name).map Value.ofJson)

namespace CommandLine

/-- The members that a source of entries takes from its file, as they are written there. Without a file there are none. -/
def EntrySource.Gives (source : EntrySource) (files : Files) (members : List (String × Json)) : Prop :=
  match source.json with
  | none => members = []
  | some path => ∃ content, files path = .text content ∧ Json.HoldsMembers content members

variable {files : Files} {source : EntrySource} {path content : String} {members : List (String × Json)}

theorem contextOfJson_of_holdsMembers (h : Json.HoldsMembers content members) :
    contextOfJson path content = .ok (Context.ofMembers (Json.gather members)) := by
  rw [contextOfJson, Json.read?_eq_object_iff.mpr ⟨members, h, rfl⟩]

theorem contextOfJson_of_forall_not (path : String) (h : ∀ members, ¬ Json.HoldsMembers content members) :
    Json.read? content = none ∧ contextOfJson path content = .error (.notJson path) ∨
      ∃ json, Json.read? content = some json ∧ ¬ json.IsObject ∧
        contextOfJson path content = .error (.notObject path (kindOf json)) := by
  rw [contextOfJson]
  cases hread : Json.read? content with
  | none => exact .inl ⟨rfl, rfl⟩
  | some json =>
    refine .inr ⟨json, rfl, ?_⟩
    cases json with
    | object gathered =>
      obtain ⟨members, hmembers, -⟩ := Json.read?_eq_object_iff.mp hread
      exact absurd hmembers (h members)
    | _ => exact ⟨id, rfl⟩

theorem EntrySource.Gives.sized (h : source.Gives files members) : ∀ member ∈ members, member.2.IsSized := by
  cases hjson : source.json with
  | none =>
    simp only [Gives, hjson] at h
    exact h ▸ fun member hmem => absurd hmem List.not_mem_nil
  | some path =>
    simp only [Gives, hjson] at h
    obtain ⟨content, -, hmembers⟩ := h
    exact hmembers.sized

theorem EntrySource.Gives.buildContext_eq (h : source.Gives files members) :
    buildContext files source = .ok (Assignment.applyAll source.assignments (Context.ofMembers (Json.gather members))) := by
  cases hjson : source.json with
  | none =>
    simp only [Gives, hjson] at h
    simp only [buildContext, hjson, h]
    rfl
  | some path =>
    simp only [Gives, hjson] at h
    obtain ⟨content, hcontent, hmembers⟩ := h
    simp only [buildContext, hjson, readJson, hcontent, contextOfJson_of_holdsMembers hmembers]
    rfl

theorem EntrySource.Gives.exists_keepsLast (h : source.Gives files members) :
    ∃ context, buildContext files source = .ok context ∧ context.KeepsLast members source.assignments := by
  have hget (name : String) :
      (Assignment.applyAll source.assignments (Context.ofMembers (Json.gather members))).get? name =
        (Entries.last? (source.assignments.map Assignment.entry) name).or
          ((Entries.last? members name).map Value.ofJson) := by
    rw [Assignment.get?_applyAll, Context.get?_ofMembers_gather]
  refine ⟨_, h.buildContext_eq, NameMap.nodup_names _, fun name => ?_, hget⟩
  rw [NameMap.mem_names_iff, NameMap.contains, hget, Option.isSome_or, Option.isSome_map, Bool.or_eq_true,
    Entries.isSome_last?_iff, Entries.isSome_last?_iff, List.map_map, or_comm]
  rfl

/-- The context of a source keeps what was written last under each name, by an assignment or else as a member of the file, and a file whose text is not an object gives no context. A value tells the JSON value that it was made of, up to an integer that needs the 64th bit, which becomes the nearest double; and only a list of texts is made of a list of JSON texts. -/
theorem entries_last_write_wins (files : Files) (source : EntrySource) :
    (∀ members, source.Gives files members → (∀ member ∈ members, member.2.IsSized) ∧
      ∃ context, buildContext files source = .ok context ∧ context.KeepsLast members source.assignments) ∧
    (∀ path content, source.json = some path → files path = .text content →
      (∀ members, ¬ Json.HoldsMembers content members) →
        Json.read? content = none ∧ buildContext files source = .error (.notJson path) ∨
          ∃ json, Json.read? content = some json ∧ ¬ json.IsObject ∧
            buildContext files source = .error (.notObject path (kindOf json))) ∧
    (∀ json : Json, json.IsSized → (∀ n, json = .integer n → n ≤ Int64.maxValue.toInt) → (Value.ofJson json).toJson = json) ∧
    (∀ n : Int, Int64.maxValue.toInt < n → n < 2 ^ 64 → ∃ d, Value.ofJson (.integer n) = .float d ∧ d.IsNearest false n) ∧
    ∀ json items, Value.ofJson json = .texts items ↔ json = .list (items.map Json.text) := by
  refine ⟨fun members h => ⟨h.sized, h.exists_keepsLast⟩, fun path content hjson hcontent hnone => ?_,
    fun json => Value.toJson_ofJson, fun n hlt hsized => ?_, fun json items => Value.ofJson_eq_texts_iff⟩
  · have hbuild : buildContext files source =
        (contextOfJson path content).map (Assignment.applyAll source.assignments) := by
      simp only [buildContext, hjson, readJson, hcontent]
    obtain ⟨hread, herror⟩ | ⟨json, hread, hobject, herror⟩ := contextOfJson_of_forall_not path hnone
    · exact .inl ⟨hread, by rw [hbuild, herror]; rfl⟩
    · exact .inr ⟨json, hread, hobject, by rw [hbuild, herror]; rfl⟩
  · have hnonneg : 0 ≤ n := (by decide : 0 ≤ Int64.maxValue.toInt).trans hlt.le
    exact ⟨_, Value.ofJson_integer_of_lt hlt, Double.isNearest_ofInt hnonneg hsized⟩

/-- Members and assignments that give a name twice, a file that holds a list, and two values next to the greatest integer of a context. -/
theorem entries_last_write_wins_twice :
    let files : Files := fun path =>
      if path = "a.json" then .text "\x7b\"a\": 1, \"b\": [\"x\"], \"a\": 2\x7d" else .text "[1, 2]"
    let assignments : List Assignment := [⟨"b", .integer 3⟩, ⟨"c", .text ""⟩, ⟨"b", .integer 4⟩]
    let members : List (String × Json) := [("a", .integer 1), ("b", .list [.text "x"]), ("a", .integer 2)]
    (EntrySource.Gives ⟨some "a.json", assignments⟩ files members ∧
      ∃ context, buildContext files ⟨some "a.json", assignments⟩ = .ok context ∧ context.get? "a" = some (.integer 2) ∧
        context.get? "b" = some (.integer 4) ∧ context.get? "c" = some (.text "") ∧ context.get? "d" = none) ∧
    buildContext files ⟨some "b.json", assignments⟩ = .error (.notObject "b.json" "an array") ∧
    (Value.ofJson (.integer 9223372036854775807)).toJson = .integer 9223372036854775807 ∧
    ∃ d, Value.ofJson (.integer 9223372036854775808) = .float d ∧ d.IsNearest false (9223372036854775808 : Int) := by
  intro files assignments members
  obtain ⟨hentries, -, hrestored, hlarge, -⟩ := entries_last_write_wins files ⟨some "a.json", assignments⟩
  have hgives : EntrySource.Gives ⟨some "a.json", assignments⟩ files members :=
    ⟨_, rfl, .of_readBracket? rfl rfl rfl⟩
  obtain ⟨-, context, hbuild, hlast⟩ := hentries members hgives
  refine ⟨⟨hgives, context, hbuild, ?_, ?_, ?_, ?_⟩, ?_, ?_, ?_⟩
  · rw [hlast.get?_eq]; rfl
  · rw [hlast.get?_eq]; rfl
  · rw [hlast.get?_eq]; rfl
  · rw [hlast.get?_eq]; rfl
  · have hlist : Json.read? "[1, 2]" = some (.list [.integer 1, .integer 2]) := rfl
    have hnone : ∀ members, ¬ Json.HoldsMembers "[1, 2]" members := by
      intro members hmembers
      have hobject := Json.read?_eq_object_iff.mpr ⟨members, hmembers, rfl⟩
      exact absurd (hlist.symm.trans hobject) (by simp)
    obtain ⟨hread, -⟩ | ⟨json, hread, -, herror⟩ :=
      (entries_last_write_wins files ⟨some "b.json", assignments⟩).2.1 "b.json" "[1, 2]" rfl rfl hnone
    · exact absurd (hlist.symm.trans hread) (by simp)
    · obtain rfl := Option.some.inj (hlist.symm.trans hread)
      exact herror
  · exact hrestored _ ⟨by decide, by decide⟩ fun n hn => Json.integer.inj hn ▸ by decide
  · exact hlarge _ (by decide) (by decide)

end CommandLine

end NowPlaying
