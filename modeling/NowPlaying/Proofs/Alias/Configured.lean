import NowPlaying.Proofs.Alias.Reachability
import NowPlaying.Proofs.Template.Names
import NowPlaying.Query

/-!
# Configured aliases beside the built-in ones

The built-in aliases come first, and none of their sources is the name of a built-in alias, so applying them twice is applying them once. Whatever a configuration puts behind them, even under the same names, finds them done and adds to what they left: no name of the metadata with its built-in aliases changes, and a format that reads only such names is rendered as if nothing had been configured.
-/

namespace NowPlaying

variable {name : String} {value : Value}

/-- No built-in alias has the name of another one as its source. -/
theorem Context.ofMetadata_ofMetadata (raw : Context) : ofMetadata (ofMetadata raw) = ofMetadata raw :=
  AliasTable.apply_apply_of_pairwise (by decide) raw

namespace AliasTable

theorem apply_configured (aliases : NameMap String) (context : Context) :
    (configured aliases).apply context =
      apply (aliases.entries.map fun (name, source) => ⟨name, source⟩) (Context.ofMetadata context) :=
  apply_append builtIn _ context

theorem apply_configured_ofMetadata (aliases : NameMap String) (raw : Context) :
    (configured aliases).apply (Context.ofMetadata raw) = (configured aliases).apply raw := by
  rw [apply_configured, apply_configured, Context.ofMetadata_ofMetadata]

theorem get?_apply_configured_of_some (aliases : NameMap String) {raw : Context}
    (h : (Context.ofMetadata raw).get? name = some value) : ((configured aliases).apply raw).get? name = some value := by
  rw [apply_configured]
  exact get?_apply_of_some _ h

end AliasTable

theorem render_apply_configured (aliases : NameMap String) {raw : Context} {tokens : List Token}
    (h : ∀ name ∈ Template.namesOf tokens, (Context.ofMetadata raw).contains name) (registry : Registry) :
    render registry ((AliasTable.configured aliases).apply raw) tokens = render registry (Context.ofMetadata raw) tokens := by
  refine render_congr (fun name hname => ?_) fun _ _ _ => rfl
  obtain ⟨value, hvalue⟩ := Option.isSome_iff_exists.mp (h name hname)
  rw [hvalue, AliasTable.get?_apply_configured_of_some aliases hvalue]

/-- The context of a metadata query has every name that the built-in aliases alone would give, with the same value. Metadata with its built-in aliases in it already gives the same context, and a template that reads only names that are there is rendered the same under every configuration. -/
theorem configured_aliases_only_add (raw : Context) (aliases : NameMap String) :
    (∀ keys name value, (Context.ofMetadata raw).get? name = some value →
      ((Query.metadata raw keys).context (AliasTable.configured aliases)).get? name = some value) ∧
    (AliasTable.configured aliases).apply (Context.ofMetadata raw) = (AliasTable.configured aliases).apply raw ∧
    ∀ (engine : Engine) (template : Template) (keys : List String),
      (∀ name ∈ template.names, (Context.ofMetadata raw).contains name) →
        (Query.metadata raw keys).output engine (some template) (AliasTable.configured aliases) =
          engine.render template (Context.ofMetadata raw) := by
  refine ⟨fun keys name value => AliasTable.get?_apply_configured_of_some aliases, ?_, ?_⟩
  · exact AliasTable.apply_configured_ofMetadata aliases raw
  · exact fun engine template keys h => render_apply_configured aliases h engine.registry

end NowPlaying
