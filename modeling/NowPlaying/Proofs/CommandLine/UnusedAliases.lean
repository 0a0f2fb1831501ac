import NowPlaying.Proofs.Alias.Reachability
import NowPlaying.Proofs.CommandLine.Stages
import NowPlaying.Proofs.Template.Names

/-!
# Metadata queries and plain rendering

A metadata query with a format and a rendering of the format differ in one thing only: the query looks at its entries through the aliases of the configuration. Both load the configuration, build the entries and use the format, in this order, so they fail alike. And where no name that the format reads gets its value from an alias alone, they print the same.
-/

namespace NowPlaying

theorem AliasTable.get?_apply_of_unused {table : AliasTable} {context : Context} {name : String}
    (h : ¬ (context.get? name = none ∧ (table.apply context).contains name)) :
    (table.apply context).get? name = context.get? name := by
  cases hvalue : context.get? name with
  | some value => exact table.get?_apply_of_some hvalue
  | none =>
    by_contra hadded
    exact h ⟨hvalue, Option.isSome_iff_ne_none.mpr hadded⟩

/-- Aliases that give no value to a name of the format make no difference to it. -/
theorem Engine.expand_apply_of_unused {engine : Engine} {table : AliasTable} {format : String} {context : Context}
    (h : ∀ template, engine.compile format = .ok template →
      ∀ name ∈ template.names, ¬ (context.get? name = none ∧ (table.apply context).contains name)) :
    engine.expand format (table.apply context) = engine.expand format context :=
  Engine.expand_congr fun template hcompile name hname => AliasTable.get?_apply_of_unused (h template hcompile name hname)

namespace CommandLine

variable {files : Files} {path format : String} {preset : Option String} {source : EntrySource} {keys : List String}

theorem run_metadata :
    run files ⟨path, some format, preset, .metadata source keys⟩ =
      loadConfig files path >>= fun config => buildContext files source >>= fun entries =>
        (orRejected ((Engine.withLimit config.limit).expand format
          ((AliasTable.configured config.aliases).apply entries))).map printLine := by
  rw [run]
  refine congrArg _ (funext fun config => ?_)
  change (buildContext files source >>= fun entries => runQuery config (some format) (.metadata entries keys)) = _
  simp only [runQuery_eq_expand, Query.context]

theorem run_render :
    run files ⟨path, some format, preset, .render source⟩ =
      loadConfig files path >>= fun config => buildContext files source >>= fun entries =>
        (orRejected ((Engine.withLimit config.limit).expand format entries)).map printLine := rfl

/-- A metadata query with a format has the outcome of a rendering, unless a name that the format reads is missing from the entries and added by an alias. Where the format compiles, the query renders it with the aliases applied to the entries, whatever its keys are. -/
theorem metadata_eq_render_unless_aliased {preset' : Option String} {args args' : List String}
    (hmetadata : Request.read args = .ok ⟨path, some format, preset, .metadata source keys⟩)
    (hrender : Request.read args' = .ok ⟨path, some format, preset', .render source⟩) :
    ((∀ config entries template, loadConfig files path = .ok config → buildContext files source = .ok entries →
        (Engine.withLimit config.limit).compile format = .ok template →
        ∀ name ∈ template.names,
          ¬ (entries.get? name = none ∧ ((AliasTable.configured config.aliases).apply entries).contains name)) →
      outcome files args = outcome files args') ∧
    ∀ config template, loadConfig files path = .ok config → (Engine.withLimit config.limit).compile format = .ok template →
      outcome files args = .ofRun (do
        let entries ← buildContext files source
        let output ← orRejected
          ((Engine.withLimit config.limit).render template ((AliasTable.configured config.aliases).apply entries))
        .ok (printLine output)) := by
  have hquery : outcome files args = .ofRun (run files ⟨path, some format, preset, .metadata source keys⟩) := by
    rw [outcome, hmetadata]
  have hplain : outcome files args' = .ofRun (run files ⟨path, some format, preset', .render source⟩) := by
    rw [outcome, hrender]
  rw [hquery, hplain, run_metadata, run_render]
  constructor
  · intro hunused
    cases hconfig : loadConfig files path with
    | error failure => rfl
    | ok config =>
      cases hentries : buildContext files source with
      | error failure => rfl
      | ok entries =>
        have hexpand := Engine.expand_apply_of_unused fun template => hunused config entries template hconfig hentries
        change Outcome.ofRun ((orRejected (Engine.expand _ _ (AliasTable.apply _ _))).map printLine) = _
        rw [hexpand]
        rfl
  · intro config template hconfig hcompile
    rw [hconfig]
    change Outcome.ofRun (buildContext files source >>= _) = _
    cases buildContext files source with
    | error failure => rfl
    | ok entries =>
      change Outcome.ofRun ((orRejected (Engine.expand _ _ _)).map printLine) = Outcome.ofRun (orRejected _ >>= _)
      rw [Engine.expand_eq_render hcompile]
      cases orRejected ((Engine.withLimit config.limit).render template _) <;> rfl

/-- The alias for a title is there and is not used, since the entries have a title of their own. -/
theorem metadata_eq_render_title :
    outcome (fun _ => .absent "") ["-f", "\x7b\x7btitle\x7d\x7d", "metadata", "--set", "title=é", "--set", "xesam:title=x", "k"] =
      outcome (fun _ => .absent "") ["render", "--set", "title=é", "--set", "xesam:title=x", "-f", "\x7b\x7btitle\x7d\x7d"] := by
  have hmetadata : Request.read ["-f", "\x7b\x7btitle\x7d\x7d", "metadata", "--set", "title=é", "--set", "xesam:title=x", "k"] =
      .ok ⟨"trackfmt.toml", some "\x7b\x7btitle\x7d\x7d", none,
        .metadata ⟨none, [⟨"title", .text "é"⟩, ⟨"xesam:title", .text "x"⟩]⟩ ["k"]⟩ := by rfl
  have hrender : Request.read ["render", "--set", "title=é", "--set", "xesam:title=x", "-f", "\x7b\x7btitle\x7d\x7d"] =
      .ok ⟨"trackfmt.toml", some "\x7b\x7btitle\x7d\x7d", none,
        .render ⟨none, [⟨"title", .text "é"⟩, ⟨"xesam:title", .text "x"⟩]⟩⟩ := by rfl
  have htokens : tokenize "\x7b\x7btitle\x7d\x7d" = .ok [.lookup "title"] := by decide +kernel
  refine (metadata_eq_render_unless_aliased hmetadata hrender).1
    fun config entries template hconfig hentries hcompile name hname => ?_
  obtain rfl := Except.ok.inj hconfig
  obtain rfl := Except.ok.inj hentries
  obtain rfl := Except.ok.inj ((Template.parse_of_tokenize htokens).symm.trans hcompile)
  obtain rfl : name = "title" := List.mem_singleton.mp hname
  exact fun h => absurd h.1 (by simp [Assignment.applyAll, NameMap.get?_insert])

/-- Without a title of their own, the entries have one in the query alone. -/
example :
    outcome (fun _ => .absent "") ["metadata", "-f", "\x7b\x7btitle\x7d\x7d", "--set", "xesam:title=x"] = ⟨0, "x\n", ""⟩ ∧
      outcome (fun _ => .absent "") ["render", "-f", "\x7b\x7btitle\x7d\x7d", "--set", "xesam:title=x"] = ⟨0, "\n", ""⟩ := by
  decide +kernel

end CommandLine

end NowPlaying
