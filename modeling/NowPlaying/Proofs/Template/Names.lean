import Mathlib.Algebra.Order.BigOperators.Group.List
import Mathlib.Algebra.Order.Group.Nat
import Mathlib.Data.List.Induction
import NowPlaying.Proofs.Template.Rendering

/-!
# The names a template reads

The names of a template are what its rendering depends on, no less and no more. Contexts that agree on the names give the same result under registries that agree on the helpers that are called. And where all helpers are built in, no name is listed in vain: every built-in helper makes some text of the number zero, so giving the number to a name that was missing makes the output longer.
-/

namespace NowPlaying

theorem Token.name?_eq_some_iff {token : Token} {name : String} :
    token.name? = some name ↔ token = .lookup name ∨ ∃ helper, token = .call helper name := by
  cases token <;> simp [name?]

/-- The number of tokens in front of the first one that reads a name. -/
def firstUse (tokens : List Token) (name : String) : Nat := tokens.findIdx fun token => token.name? = some name

/-! ### Order of first use

The names grow with the tokens: one more token puts its name behind the others, unless it is there already. -/

namespace Template

theorem mem_namesOf_iff {tokens : List Token} {name : String} :
    name ∈ namesOf tokens ↔ ∃ token ∈ tokens, token.name? = some name := by
  rw [namesOf, List.mem_eraseDups, List.mem_filterMap]

theorem namesOf_concat_of_new {tokens : List Token} {token : Token} {name : String} (hname : token.name? = some name)
    (hnew : name ∉ namesOf tokens) : namesOf (tokens ++ [token]) = namesOf tokens ++ [name] := by
  have hunused : name ∉ tokens.filterMap Token.name? := by rwa [namesOf, List.mem_eraseDups] at hnew
  have hsingle : [token].filterMap Token.name? = [name] := List.filterMap_cons_some hname
  rw [namesOf, namesOf, List.filterMap_append, List.eraseDups_append, hsingle, List.removeAll,
    List.filter_cons_of_pos (by simpa using hunused)]
  rfl

theorem namesOf_concat_of_known {tokens : List Token} {token : Token}
    (hknown : ∀ name, token.name? = some name → name ∈ namesOf tokens) :
    namesOf (tokens ++ [token]) = namesOf tokens := by
  have hremoved : ([token].filterMap Token.name?).removeAll (tokens.filterMap Token.name?) = [] := by
    cases hname : token.name? with
    | none => rw [List.filterMap_cons_none hname]; rfl
    | some name =>
      have hused := hknown name hname
      rw [namesOf, List.mem_eraseDups] at hused
      rw [List.filterMap_cons_some hname, List.removeAll, List.filter_cons_of_neg (by simpa using hused)]
      rfl
  rw [namesOf, namesOf, List.filterMap_append, List.eraseDups_append, hremoved]
  exact List.append_nil _

end Template

theorem firstUse_lt_length_iff {tokens : List Token} {name : String} :
    firstUse tokens name < tokens.length ↔ name ∈ Template.namesOf tokens := by
  rw [firstUse, List.findIdx_lt_length, Template.mem_namesOf_iff]
  simp only [decide_eq_true_eq]

theorem firstUse_append (tokens more : List Token) (name : String) :
    firstUse (tokens ++ more) name =
      if firstUse tokens name < tokens.length then firstUse tokens name else firstUse more name + tokens.length :=
  List.findIdx_append

theorem firstUse_append_of_mem {tokens : List Token} {name : String} (h : name ∈ Template.namesOf tokens)
    (more : List Token) : firstUse (tokens ++ more) name = firstUse tokens name := by
  rw [firstUse_append, if_pos (firstUse_lt_length_iff.mpr h)]

theorem length_le_firstUse_append {tokens : List Token} {name : String} (h : name ∉ Template.namesOf tokens)
    (more : List Token) : tokens.length ≤ firstUse (tokens ++ more) name := by
  have hunused : ¬ firstUse tokens name < tokens.length := fun hused => h (firstUse_lt_length_iff.mp hused)
  rw [firstUse_append, if_neg hunused]
  omega

theorem pairwise_firstUse_namesOf (tokens : List Token) :
    (Template.namesOf tokens).Pairwise fun name later => firstUse tokens name < firstUse tokens later := by
  induction tokens using List.reverseRecOn with
  | nil => exact List.Pairwise.nil
  | append_singleton tokens token ih =>
    have hkept : (Template.namesOf tokens).Pairwise fun name later =>
        firstUse (tokens ++ [token]) name < firstUse (tokens ++ [token]) later := by
      refine List.Pairwise.imp_of_mem (fun hname hlater hlt => ?_) ih
      rwa [firstUse_append_of_mem hname, firstUse_append_of_mem hlater]
    by_cases hknown : ∀ name, token.name? = some name → name ∈ Template.namesOf tokens
    · rw [Template.namesOf_concat_of_known hknown]
      exact hkept
    · push Not at hknown
      obtain ⟨name, hname, hnew⟩ := hknown
      rw [Template.namesOf_concat_of_new hname hnew, List.pairwise_append]
      refine ⟨hkept, List.pairwise_singleton _ _, fun other hother last hlast => ?_⟩
      obtain rfl := List.mem_singleton.mp hlast
      rw [firstUse_append_of_mem hother]
      exact lt_of_lt_of_le (firstUse_lt_length_iff.mpr hother) (length_le_firstUse_append hnew [token])

theorem nodup_namesOf (tokens : List Token) : (Template.namesOf tokens).Nodup :=
  (pairwise_firstUse_namesOf tokens).imp fun hlt hsame => absurd hlt (by rw [hsame]; exact lt_irrefl _)

/-! ### Nothing else is read -/

/-- A token looks up one name at most, and asks its helper for nothing but an application. -/
theorem Token.render_congr {token : Token} {registry registry' : Registry} {context context' : Context}
    (hcontext : ∀ name, token.name? = some name → context.get? name = context'.get? name)
    (hregistry : ∀ helper argument, token = .call helper argument →
      (registry.get? helper).map Helper.apply = (registry'.get? helper).map Helper.apply) :
    token.render registry context = token.render registry' context' := by
  cases token with
  | literal text => rfl
  | lookup name => rw [render, render, hcontext name rfl]
  | call helper argument =>
    have hhelper := hregistry helper argument rfl
    rw [render, render, hcontext argument rfl]
    cases hfound : registry.get? helper with
    | none =>
      rw [hfound, Option.map_none, eq_comm, Option.map_eq_none_iff] at hhelper
      rw [hhelper]
    | some found =>
      rw [hfound, Option.map_some, eq_comm, Option.map_eq_some_iff] at hhelper
      obtain ⟨found', hfound', happly⟩ := hhelper
      simp only [hfound', happly]

theorem render_congr {tokens : List Token} {registry registry' : Registry} {context context' : Context}
    (hcontext : ∀ name ∈ Template.namesOf tokens, context.get? name = context'.get? name)
    (hregistry : ∀ helper argument, .call helper argument ∈ tokens →
      (registry.get? helper).map Helper.apply = (registry'.get? helper).map Helper.apply) :
    render registry context tokens = render registry' context' tokens := by
  have htoken : ∀ token ∈ tokens, token.render registry context = token.render registry' context' := by
    intro token hmem
    refine Token.render_congr (fun name hname => ?_) (fun helper argument hcall => ?_)
    · exact hcontext name (Template.mem_namesOf_iff.mpr ⟨token, hmem, hname⟩)
    · exact hregistry helper argument (hcall ▸ hmem)
  clear hcontext hregistry
  induction tokens with
  | nil => rfl
  | cons token tokens ih =>
    rw [List.forall_mem_cons] at htoken
    rw [render_cons, render_cons, htoken.1, ih htoken.2]

theorem Engine.expand_congr {engine : Engine} {format : String} {context context' : Context}
    (h : ∀ template, engine.compile format = .ok template →
      ∀ name ∈ template.names, context.get? name = context'.get? name) :
    engine.expand format context = engine.expand format context' := by
  rw [expand, expand]
  cases hcompile : engine.compile format with
  | error error => rfl
  | ok template => exact render_congr (h template hcompile) fun _ _ _ => rfl

/-! ### Nothing is listed in vain -/

theorem Registry.get?_builtIn_eq_some_iff {name : String} {helper : Helper} :
    builtIn.get? name = some helper ↔
      helper ∈ [Helper.lowercase, Helper.uppercase, Helper.duration] ∧ helper.name = name := by
  constructor
  · intro h
    simp only [builtIn, List.foldl_cons, List.foldl_nil, register, NameMap.get?_insert, NameMap.get?_empty] at h
    split at h
    · next hname => exact Option.some.inj h ▸ ⟨by simp, hname.symm⟩
    · split at h
      · next hname => exact Option.some.inj h ▸ ⟨by simp, hname.symm⟩
      · split at h
        · next hname => exact Option.some.inj h ▸ ⟨by simp, hname.symm⟩
        · contradiction
  · rintro ⟨hhelper, rfl⟩
    simp only [List.mem_cons, List.not_mem_nil, or_false] at hhelper
    obtain rfl | rfl | rfl := hhelper <;> rfl

/-- Every built-in helper takes the number zero and makes some text of it. -/
theorem Registry.apply_zero_of_builtIn {name : String} {helper : Helper} (h : Registry.builtIn.get? name = some helper) :
    ∃ text, helper.apply (.integer 0) = some text ∧ 0 < text.length := by
  obtain ⟨hhelper, -⟩ := Registry.get?_builtIn_eq_some_iff.mp h
  simp only [List.mem_cons, List.not_mem_nil, or_false] at hhelper
  obtain rfl | rfl | rfl := hhelper
  · exact ⟨"0", by decide +kernel, by decide⟩
  · exact ⟨"0", by decide +kernel, by decide⟩
  · exact ⟨"0:00", by decide +kernel, by decide⟩

namespace Token

theorem contribution_of_get?_eq_none {token : Token} {name : String} (hname : token.name? = some name) {context : Context}
    (hnone : context.get? name = none) (registry : Registry) : token.contribution registry context = "" := by
  obtain rfl | ⟨helper, rfl⟩ := name?_eq_some_iff.mp hname
  · rw [contribution, hnone]
  · rw [contribution, hnone]
    cases registry.get? helper <;> rfl

theorem contribution_of_zero {token : Token} {name : String} (hname : token.name? = some name) {context : Context}
    (hzero : context.get? name = some (.integer 0))
    (hknown : ∀ helper argument, token = .call helper argument → Registry.builtIn.get? helper ≠ none) :
    0 < (token.contribution Registry.builtIn context).length := by
  obtain rfl | ⟨helper, rfl⟩ := name?_eq_some_iff.mp hname
  · rw [contribution, hzero]
    decide +kernel
  · obtain ⟨found, hfound⟩ := Option.ne_none_iff_exists'.mp (hknown helper name rfl)
    obtain ⟨text, htext, hlength⟩ := Registry.apply_zero_of_builtIn hfound
    rw [contribution, hfound, hzero]
    simp only [htext]
    exact hlength

/-- A context with one more entry changes what the tokens contribute that read the entry, and nothing else. -/
theorem contribution_insert_of_name?_ne {token : Token} {name : String} (hname : token.name? ≠ some name)
    (registry : Registry) (context : Context) (value : Value) :
    token.contribution registry (context.insert name value) = token.contribution registry context := by
  cases token with
  | literal text => rfl
  | lookup other =>
    have hne : other ≠ name := fun heq => hname (congrArg some heq)
    rw [contribution, contribution, NameMap.get?_insert, if_neg hne]
  | call helper argument =>
    have hne : argument ≠ name := fun heq => hname (congrArg some heq)
    rw [contribution, contribution, NameMap.get?_insert, if_neg hne]

end Token

/-- Giving zero to a name that was missing makes the output of a template with built-in helpers longer. -/
theorem length_contributions_lt {tokens : List Token} {name : String} {context : Context}
    (hknown : ∀ helper argument, .call helper argument ∈ tokens → Registry.builtIn.get? helper ≠ none)
    (hname : name ∈ Template.namesOf tokens) (hnone : context.get? name = none) :
    (contributions Registry.builtIn context tokens).length <
      (contributions Registry.builtIn (context.insert name (.integer 0)) tokens).length := by
  have hlt : ∀ token ∈ tokens, token.name? = some name → (token.contribution Registry.builtIn context).length <
      (token.contribution Registry.builtIn (context.insert name (.integer 0))).length := by
    intro token hmem hreads
    rw [Token.contribution_of_get?_eq_none hreads hnone]
    refine Token.contribution_of_zero hreads (NameMap.get?_insert_self ..) fun helper argument hcall => ?_
    exact hknown helper argument (hcall ▸ hmem)
  obtain ⟨reader, hmem, hreads⟩ := Template.mem_namesOf_iff.mp hname
  have hlength : ∀ context, (contributions Registry.builtIn context tokens).length =
      (tokens.map fun token => (token.contribution Registry.builtIn context).length).sum := by
    intro context
    rw [contributions, String.length_join, List.map_map]
    rfl
  rw [hlength, hlength]
  refine List.sum_lt_sum _ _ (fun token htoken => ?_) ⟨reader, hmem, hlt reader hmem hreads⟩
  by_cases hother : token.name? = some name
  · exact (hlt token htoken hother).le
  · rw [Token.contribution_insert_of_name?_ne hother]

/-- The names of a template are the names its tokens read, each once and in the order of their first use. Rendering depends on nothing else in a context, and where all helpers are built in it depends on each of them. -/
theorem names_eq_what_render_reads (template : Template) :
    (template.names.Nodup ∧
      (∀ name, name ∈ template.names ↔ .lookup name ∈ template.tokens ∨ ∃ helper, .call helper name ∈ template.tokens) ∧
      template.names.Pairwise fun name later => firstUse template.tokens name < firstUse template.tokens later) ∧
    (∀ (registry registry' : Registry) (context context' : Context),
      (∀ name ∈ template.names, context.get? name = context'.get? name) →
      (∀ helper argument, .call helper argument ∈ template.tokens →
        (registry.get? helper).map Helper.apply = (registry'.get? helper).map Helper.apply) →
      template.render registry context = template.render registry' context') ∧
    ((∀ helper argument, .call helper argument ∈ template.tokens → Registry.builtIn.get? helper ≠ none) →
      ∀ name ∈ template.names, ∀ context : Context, context.get? name = none →
        ∃ output extended, template.render Registry.builtIn context = .ok output ∧
          template.render Registry.builtIn (context.insert name (.integer 0)) = .ok extended ∧ output ≠ extended) := by
  refine ⟨⟨nodup_namesOf _, fun name => ?_, pairwise_firstUse_namesOf _⟩, ?_, ?_⟩
  · rw [Template.names, Template.mem_namesOf_iff]
    constructor
    · intro h
      obtain ⟨token, hmem, hreads⟩ := h
      obtain rfl | ⟨helper, rfl⟩ := Token.name?_eq_some_iff.mp hreads
      · exact .inl hmem
      · exact .inr ⟨helper, hmem⟩
    · intro h
      obtain hmem | ⟨helper, hmem⟩ := h
      · exact ⟨_, hmem, rfl⟩
      · exact ⟨_, hmem, rfl⟩
  · intro registry registry' context context' hcontext hregistry
    exact render_congr hcontext hregistry
  · intro hknown name hname context hnone
    refine ⟨_, _, render_eq_ok_iff.mpr ⟨hknown, rfl⟩, render_eq_ok_iff.mpr ⟨hknown, rfl⟩, fun hsame => ?_⟩
    have hlonger := length_contributions_lt hknown hname hnone
    rw [hsame] at hlonger
    exact lt_irrefl _ hlonger

end NowPlaying
