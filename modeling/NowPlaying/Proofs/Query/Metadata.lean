import NowPlaying.Proofs.Context.Writes
import NowPlaying.Proofs.Template.ReadableNames
import NowPlaying.Proofs.Text.ByteOrder
import NowPlaying.Query

/-!
# Metadata without a format

Where keys are selected, each of them that has a value puts its display form on a line of its own, and what it puts there is what a format that only reads the key would print. Where none are, every name of the metadata stands with its value on one line, in the order of the bytes of the names. Aliases serve selected keys only, so the full listing is a function of what is found under the names, however it came to be there.
-/

namespace NowPlaying.Query

open Text

/-! ### Selected keys -/

section

variable {entries : Context} {aliases : AliasTable} {keys : List String} {key : String}

theorem defaultOutput_of_keys (hkeys : keys ≠ []) :
    (Query.metadata entries keys).defaultOutput aliases = selection (aliases.apply entries) keys := by
  obtain ⟨first, rest, rfl⟩ := List.exists_cons_of_ne_nil hkeys
  rfl

/-- The selected keys that have a value, with their values. -/
def shown (context : Context) (keys : List String) : List (String × Value) :=
  keys.filterMap fun key => (context.get? key).map fun value => (key, value)

theorem selection_eq_join_shown (context : Context) (keys : List String) :
    selection context keys = "\n".intercalate ((shown context keys).map fun entry => entry.2.display) := by
  rw [selection, joinLines, shown, List.map_filterMap]
  simp only [Option.map_map]
  rfl

theorem map_fst_shown (context : Context) (keys : List String) :
    (shown context keys).map Prod.fst = keys.filter context.contains := by
  rw [shown, List.map_filterMap, ← List.filterMap_eq_filter]
  refine List.filterMap_congr fun key _ => ?_
  rw [Option.map_map, Option.guard, NameMap.contains]
  cases context.get? key <;> rfl

theorem get?_of_mem_shown {context : Context} {keys : List String} {entry : String × Value}
    (h : entry ∈ shown context keys) : context.get? entry.1 = some entry.2 := by
  obtain ⟨key, -, hentry⟩ := List.mem_filterMap.mp h
  obtain ⟨value, hvalue, rfl⟩ := Option.map_eq_some_iff.mp hentry
  exact hvalue

/-- What a format prints that only reads a name. -/
theorem output_padded {query : Query} (h : IsName key) (aliases : AliasTable) :
    ∃ template, Template.parse (padded key) = .ok template ∧
      ∀ engine, query.output engine (some template) aliases =
        .ok (Token.contribution engine.registry (query.context aliases) (.lookup key)) := by
  refine ⟨_, Template.parse_of_tokenize (tokenize_padded h), fun engine => ?_⟩
  change render engine.registry (query.context aliases) [.lookup key] = _
  rw [render_eq_ok_iff]
  refine ⟨by simp, ?_⟩
  rw [contributions, List.map_singleton, String.join_cons, String.join_nil, String.append_empty]

/-- Selected keys are shown in the order in which they were given, and as often, each by the display form of the value that it has once the aliases are applied; a key without a value is left out, one with an empty value is not. What a key shows is what a format prints that only reads it, and such a format prints nothing for a key that is left out. -/
theorem selection_agrees_with_formats (entries : Context) (aliases : AliasTable) {keys : List String} (hkeys : keys ≠ []) :
    (∃ shown : List (String × Value),
      (Query.metadata entries keys).defaultOutput aliases = "\n".intercalate (shown.map fun entry => entry.2.display) ∧
      shown.map Prod.fst = keys.filter (aliases.apply entries).contains ∧
      ∀ entry ∈ shown, (aliases.apply entries).get? entry.1 = some entry.2) ∧
    ∀ key ∈ keys, IsName key →
      ∃ template, Template.parse ("\x7b\x7b " ++ key ++ " \x7d\x7d") = .ok template ∧
        ∀ engine, (Query.metadata entries keys).output engine (some template) aliases =
          .ok (match (aliases.apply entries).get? key with
            | some value => value.display
            | none => "") := by
  refine ⟨⟨shown (aliases.apply entries) keys, ?_, map_fst_shown _ keys, fun entry => get?_of_mem_shown⟩, ?_⟩
  · rw [defaultOutput_of_keys hkeys, selection_eq_join_shown]
  · exact fun key _ hname => output_padded hname aliases

end

/-- An empty value is shown twice, and an alias without a source is left out. -/
theorem selection_agrees_with_formats_empty_title :
    let entries : Context := NameMap.empty.insert "xesam:title" (.text "")
    let keys := ["title", "album", "title"]
    (keys ≠ [] ∧ "title" ∈ keys ∧ IsName "title") ∧
      (∃ shown : List (String × Value),
        (Query.metadata entries keys).defaultOutput AliasTable.builtIn =
          "\n".intercalate (shown.map fun entry => entry.2.display) ∧
        shown.map Prod.fst = ["title", "title"]) ∧
      ∃ template, Template.parse "\x7b\x7b title \x7d\x7d" = .ok template ∧
        ∀ engine, (Query.metadata entries keys).output engine (some template) AliasTable.builtIn = .ok "" := by
  intro entries keys
  have htokens : tokenize "\x7b\x7btitle\x7d\x7d" = .ok [.lookup "title"] := by decide +kernel
  have hname : IsName "title" := (wellFormedTokens_of_tokenize htokens).each _ List.mem_cons_self
  have hkeys : keys ≠ [] := List.cons_ne_nil _ _
  obtain ⟨⟨shown, houtput, hshown, -⟩, hformats⟩ := selection_agrees_with_formats entries AliasTable.builtIn hkeys
  refine ⟨⟨hkeys, List.mem_cons_self, hname⟩, ⟨shown, houtput, hshown.trans (by decide +kernel)⟩, ?_⟩
  exact hformats "title" List.mem_cons_self hname

/-! ### The full listing -/

theorem listing_eq_join_entries (entries : Context) :
    listing entries = "\n".intercalate (entries.entries.map fun entry => entry.1 ++ ": " ++ entry.2.display) := by
  rw [listing, joinLines, NameMap.filterMap_names entries fun name value => name ++ ": " ++ value.display]

/-- Without keys every name of the metadata is shown once with its value, in the order of the bytes of the names, and nothing else. So aliases make no difference, nor does the order of the writes that filled the metadata, nor what they wrote in between. -/
theorem listing_canonical :
    (∀ (entries : Context) (aliases : AliasTable), ∃ shown : List (String × Value),
      (Query.metadata entries []).defaultOutput aliases =
        "\n".intercalate (shown.map fun entry => entry.1 ++ ": " ++ entry.2.display) ∧
      (∀ name value, (name, value) ∈ shown ↔ entries.get? name = some value) ∧
      (shown.map Prod.fst).Pairwise fun name later => utf8 name < utf8 later) ∧
    (∀ (entries : Context) (aliases aliases' : AliasTable),
      (Query.metadata entries []).defaultOutput aliases = (Query.metadata entries []).defaultOutput aliases') ∧
    ∀ (writes writes' : List Write) (aliases aliases' : AliasTable), Content.ofWrites writes = Content.ofWrites writes' →
      (Query.metadata (.ofWrites writes) []).defaultOutput aliases =
        (Query.metadata (.ofWrites writes') []).defaultOutput aliases' := by
  refine ⟨fun entries aliases => ?_, fun entries aliases aliases' => rfl, fun writes writes' aliases aliases' h => ?_⟩
  · refine ⟨entries.entries, listing_eq_join_entries entries, fun name value => NameMap.get?_eq_some_iff.symm, ?_⟩
    exact entries.names_eq_map ▸ entries.pairwise_utf8_names
  · rw [Context.ofWrites_congr h]
    rfl

/-- A value replaced by a second one, and a loaded object with values added to it. -/
theorem listing_canonical_two_histories :
    let writes : List Write := [.set "b" (.integer 1), .set "a" (.text "x"), .set "b" (.integer 2)]
    let writes' : List Write := [.load [("a", .text "x")], .setIfAbsent "b" (.integer 2), .setIfAbsent "a" (.text "y")]
    Content.ofWrites writes = Content.ofWrites writes' ∧
      (Query.metadata (.ofWrites writes) []).defaultOutput [] =
        (Query.metadata (.ofWrites writes') []).defaultOutput AliasTable.builtIn := by
  intro writes writes'
  have hcontent : Content.ofWrites writes = Content.ofWrites writes' := by
    funext name
    simp only [writes, writes', Content.ofWrites, List.foldl_cons, List.foldl_nil, Write.effect, Entries.last?_cons]
    by_cases ha : name = "a"
    · simp [ha, Value.ofJson]
    · by_cases hb : name = "b" <;> simp [ha, hb]
  exact ⟨hcontent, listing_canonical.2.2 writes writes' [] AliasTable.builtIn hcontent⟩

end NowPlaying.Query
