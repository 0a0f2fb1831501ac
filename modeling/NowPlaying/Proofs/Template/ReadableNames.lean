import NowPlaying.Assignment
import NowPlaying.Config.Decode
import NowPlaying.Json.Reader
import NowPlaying.Proofs.Template.Concatenation
import NowPlaying.Proofs.Template.Names

/-!
# The names that a format can read

A context may hold a value under any name, but a format reads only names that are trimmed, not empty and without marks. Such a name is always read when it stands alone between double braces with a blank on either side, also where it begins or ends with a brace itself. What stands under any other name is never seen.
-/

namespace NowPlaying

open Template Text

variable {name : String}

/-- A format that only reads a name. The blanks keep braces of the name apart from those of the directive. -/
def padded (name : String) : String := "\x7b\x7b " ++ name ++ " \x7d\x7d"

/-! ### Names that are read -/

theorem isBody_padded (h : IsName name) : IsBody (' ' :: (name.toList ++ [' '])) := by
  have hspace (mark : Mark) : ' ' ∉ mark.chars := by cases mark <;> decide
  obtain ⟨c, hc, hvisible⟩ := h.isBody.notBlank
  refine ⟨(h.unmarked.concat hspace).cons hspace, c, ?_, hvisible⟩
  exact List.mem_cons_of_mem _ (List.mem_append_left _ hc)

theorem tokenize_padded (h : IsName name) : tokenize (padded name) = .ok [.lookup name] := by
  have hspace : isBlank ' ' := by decide
  have htrim : trim (' ' :: (name.toList ++ [' '])) = name.toList := by
    rw [trim_cons_of_blank hspace, trim_concat_of_blank hspace, h.trimmed]
  have hlast : (' ' :: (name.toList ++ [' '])).getLast? ≠ some '}' := by
    rw [← List.cons_append, List.getLast?_concat]
    decide
  have hwritten : (Written.lookup (' ' :: (name.toList ++ [' ']))).WellFormed := ⟨isBody_padded h, hlast⟩
  have hformat : padded name = String.ofList (Written.lookup (' ' :: (name.toList ++ [' ']))).chars := by
    apply String.toList_injective
    simp [Written.chars, Written.inner, padded]
  rw [hformat, tokenize_directive hwritten, Written.token, htrim, String.ofList_toList]

theorem expand_padded (h : IsName name) (registry : Registry) (context : Context) (value : Value) :
    (Engine.mk registry none).expand (padded name) (context.insert name value) = .ok value.display := by
  have hpiece : Token.contribution registry (context.insert name value) (.lookup name) = value.display := by
    rw [Token.contribution, NameMap.get?_insert_self]
  rw [expand_of_tokenize registry _ (tokenize_padded h), render_eq_ok_iff]
  refine ⟨by simp, ?_⟩
  rw [contributions, List.map_singleton, hpiece, String.join_cons, String.join_nil, String.append_empty]

/-! ### Names that are not -/

/-- Whatever a token looks up is a name in the form that the tokenizer leaves. -/
theorem Template.isName_of_mem_names {template : Template} (h : name ∈ template.names) : IsName name := by
  obtain ⟨token, hmem, hreads⟩ := mem_namesOf_iff.mp h
  have htoken := template.wellFormed hmem
  obtain rfl | ⟨helper, rfl⟩ := Token.name?_eq_some_iff.mp hreads
  · exact htoken
  · exact htoken.2

theorem exists_mem_names_iff :
    (∃ format template, Template.parse format = .ok template ∧ name ∈ template.names) ↔ IsName name := by
  constructor
  · rintro ⟨format, template, -, hmem⟩
    exact Template.isName_of_mem_names hmem
  · intro h
    refine ⟨padded name, _, Template.parse_of_tokenize (tokenize_padded h), ?_⟩
    exact mem_namesOf_iff.mpr ⟨.lookup name, List.mem_cons_self, rfl⟩

theorem expand_congr_of_not_isName (h : ¬ IsName name) (engine : Engine) (format : String) {context context' : Context}
    (hagree : ∀ other, other ≠ name → context.get? other = context'.get? other) :
    engine.expand format context = engine.expand format context' := by
  refine Engine.expand_congr fun template _ other hother => hagree other ?_
  rintro rfl
  exact h (Template.isName_of_mem_names hother)

/-- Members, assignments and aliases may all have names that no format reads. -/
theorem exists_unreadable_name :
    ∃ name, ¬ IsName name ∧
      (∃ text members, Json.read? text = some (.object members) ∧ (Context.ofMembers members).contains name) ∧
      (∃ argument assignment, Assignment.parse argument = .ok assignment ∧ assignment.key = name) ∧
      ∃ text config, Config.read text = .ok config ∧ config.aliases.contains name := by
  refine ⟨"a(b)", fun h => h.unmarked .paren ⟨['a'], ['b', ')'], by decide⟩, ?member, ?assignment, ?configured⟩
  case member => exact ⟨"\x7b\"a(b)\": null\x7d", [("a(b)", .null)], by rfl, by rfl⟩
  case assignment => exact ⟨"a(b)=x", ⟨"a(b)", .text "x"⟩, by rfl, rfl⟩
  case configured =>
    let config : Config := ⟨none, "info", NameMap.ofList [("a(b)", "x")], NameMap.empty⟩
    exact ⟨"[metadata.aliases]\n'a(b)' = 'x'", config, by decide +kernel, by rfl⟩

/-- A format that reads a name exists exactly for the names that are not empty, trimmed and without marks. Each of them is read between double braces and blanks, and shows as the display form of its value. A name that no format reads matters to no expansion, whether it is bound, bound otherwise or not at all, and yet every source of names lets such names in. -/
theorem readable_iff_isName (name : String) :
    ((∃ format template, Template.parse format = .ok template ∧ name ∈ template.names) ↔ IsName name) ∧
    (IsName name → ∀ registry (context : Context) value,
      (Engine.mk registry none).expand ("\x7b\x7b " ++ name ++ " \x7d\x7d") (context.insert name value) = .ok value.display) ∧
    (¬ IsName name → ∀ (engine : Engine) format (context context' : Context),
      (∀ other, other ≠ name → context.get? other = context'.get? other) →
        engine.expand format context = engine.expand format context') ∧
    ∃ other, ¬ IsName other ∧
      (∃ text members, Json.read? text = some (.object members) ∧ (Context.ofMembers members).contains other) ∧
      (∃ argument assignment, Assignment.parse argument = .ok assignment ∧ assignment.key = other) ∧
      ∃ text config, Config.read text = .ok config ∧ config.aliases.contains other := by
  refine ⟨exists_mem_names_iff, fun h registry context value => expand_padded h registry context value, ?_, ?_⟩
  · intro h engine format context context' hagree
    exact expand_congr_of_not_isName h engine format hagree
  · exact exists_unreadable_name

end NowPlaying
