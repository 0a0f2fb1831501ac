import NowPlaying.Proofs.Alias.Reachability
import NowPlaying.Proofs.NameMap

/-!
# Contexts after a history of writes

A context can be filled in four ways: a value is put under a name, put there only if the name is free, copied from another name by an alias, or a JSON object is loaded in place of all that was there. Each way is told apart from the map by what it does to the content, a function from names to values. The content after a history of writes is what is found in the context, and it determines the context.
-/

namespace NowPlaying

/-! ### Loaded and assigned values -/

theorem Context.get?_ofMembers (members : List (String × Json)) (name : String) :
    (ofMembers members).get? name = (Entries.last? members name).map Value.ofJson := by
  have hfold : ofMembers members = NameMap.ofList (members.map fun member => (member.1, Value.ofJson member.2)) := by
    rw [NameMap.ofList, List.foldl_map]
    rfl
  rw [hfold, NameMap.get?_ofList, Entries.last?_map]

theorem Context.insertIfAbsent_of_none {context : Context} {name : String} (h : context.get? name = none) (value : Value) :
    context.insertIfAbsent name value = (true, NameMap.insert context name value) := by
  rw [insertIfAbsent, NameMap.contains, h, Option.isSome_none, if_neg Bool.false_ne_true]

theorem Context.insertIfAbsent_of_some {context : Context} {name : String} {found : Value}
    (h : context.get? name = some found) (value : Value) : context.insertIfAbsent name value = (false, context) := by
  rw [insertIfAbsent, NameMap.contains, h, Option.isSome_some, if_pos rfl]

theorem Context.get?_insertIfAbsent (context : Context) (name other : String) (value : Value) :
    (context.insertIfAbsent name value).2.get? other =
      (context.get? other).or (if other = name then some value else none) := by
  cases hfound : context.get? name with
  | none =>
    rw [insertIfAbsent_of_none hfound, NameMap.get?_insert]
    by_cases heq : other = name
    · rw [if_pos heq, if_pos heq, heq, hfound, Option.none_or]
    · rw [if_neg heq, if_neg heq, Option.or_none]
  | some found =>
    rw [insertIfAbsent_of_some hfound]
    by_cases heq : other = name
    · rw [heq, hfound, Option.some_or]
    · rw [if_neg heq, Option.or_none]

/-! ### Histories -/

/-- What is found under each name. -/
abbrev Content := String → Option Value

/-- A way to write to a context. -/
inductive Write where
  | set (name : String) (value : Value)
  | setIfAbsent (name : String) (value : Value)
  | copy (entry : Alias)
  | load (members : List (String × Json))

namespace Write

/-- What the write does to a context. -/
def run (context : Context) : Write → Context
  | .set name value => NameMap.insert context name value
  | .setIfAbsent name value => (context.insertIfAbsent name value).2
  | .copy entry => entry.apply context
  | .load members => Context.ofMembers members

/-- What the write does to the content: an insertion always takes effect on its name, an insertion with a condition and an alias only where nothing was found, and a loaded object on all names. -/
def effect (content : Content) : Write → Content
  | .set name value, other => if other = name then some value else content other
  | .setIfAbsent name value, other => (content other).or (if other = name then some value else none)
  | .copy entry, other => (content other).or (if other = entry.name then content entry.source else none)
  | .load members, other => (Entries.last? members other).map Value.ofJson

theorem get?_run (write : Write) (context : Context) : (write.run context).get? = write.effect context.get? := by
  funext other
  cases write with
  | set name value => exact NameMap.get?_insert context name other value
  | setIfAbsent name value => exact Context.get?_insertIfAbsent context name other value
  | copy entry =>
    rw [run, effect, Alias.get?_apply]
    simp only [eq_comm]
  | load members => exact Context.get?_ofMembers members other

end Write

/-- The context that a history leaves, begun with the empty one. -/
def Context.ofWrites (writes : List Write) : Context := writes.foldl Write.run NameMap.empty

theorem Context.ofWrites_concat (writes : List Write) (write : Write) :
    ofWrites (writes ++ [write]) = write.run (ofWrites writes) :=
  List.foldl_concat Write.run NameMap.empty write writes

/-- The content that a history leaves. -/
def Content.ofWrites (writes : List Write) : Content := writes.foldl Write.effect fun _ => none

theorem Context.get?_foldl_run (writes : List Write) (context : Context) :
    (writes.foldl Write.run context).get? = writes.foldl Write.effect context.get? := by
  induction writes generalizing context with
  | nil => rfl
  | cons write writes ih => rw [List.foldl_cons, ih, Write.get?_run, List.foldl_cons]

theorem Context.get?_ofWrites (writes : List Write) : (ofWrites writes).get? = Content.ofWrites writes :=
  get?_foldl_run writes NameMap.empty

/-- Histories that leave the same content leave the same context. -/
theorem Context.ofWrites_congr {writes writes' : List Write} (h : Content.ofWrites writes = Content.ofWrites writes') :
    ofWrites writes = ofWrites writes' := by
  refine NameMap.ext_get? fun name => ?_
  rw [get?_ofWrites, get?_ofWrites, h]

end NowPlaying
