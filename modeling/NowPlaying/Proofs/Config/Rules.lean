import NowPlaying.Proofs.Config.RoundTrip
import NowPlaying.Proofs.Config.Validation
import NowPlaying.Proofs.Text.ByteOrder

/-!
# The rules of a configuration

A configuration is valid when its limit is not zero, its level is known, every alias has a name and a source, and every preset has a name and a format that is not too long. Rules have an order: the limit, the level, the aliases, the presets; among entries the one with the lesser name comes first, and each entry has its own rules in order. What validation tells is the message of the first broken rule, so no rule hides another and none is skipped.
-/

namespace NowPlaying.Config

open Text

/-! ### Valid configurations -/

/-- A text with a character that is not blank. -/
def Visible (s : String) : Prop := ∃ c ∈ s.toList, isBlank c = false

structure IsValid (config : Config) : Prop where
  limit : config.limit ≠ some 0
  level : config.level ∈ ["trace", "debug", "info", "warn", "error"]
  aliases : ∀ name source, config.aliases.get? name = some source → Visible name ∧ Visible source
  presets : ∀ name format, config.presets.get? name = some format →
    Visible name ∧ format ≠ "" ∧ ∀ limit, config.limit = some limit → format.utf8ByteSize ≤ limit

theorem isBlankText_iff {s : String} : isBlankText s ↔ ¬ Visible s := by
  simp [isBlankText, Visible]

theorem limitViolation?_eq_none_iff {limit : Option Nat} : limitViolation? limit = none ↔ limit ≠ some 0 := by
  simp [limitViolation?]

theorem levelViolation?_eq_none_iff {level : String} : levelViolation? level = none ↔ level ∈ levels := by
  simp [levelViolation?]

theorem aliasViolation?_eq_none_iff {name source : String} :
    aliasViolation? name source = none ↔ Visible name ∧ Visible source := by
  unfold aliasViolation?
  by_cases hname : Visible name <;> by_cases hsource : Visible source <;> simp [isBlankText_iff, hname, hsource]

theorem lengthViolation?_eq_none_iff_le {limit : Option Nat} {name format : String} :
    lengthViolation? limit name format = none ↔ ∀ max, limit = some max → format.utf8ByteSize ≤ max := by
  cases limit <;> simp [lengthViolation?]

theorem presetViolation?_eq_none_iff {limit : Option Nat} {name format : String} :
    presetViolation? limit name format = none ↔
      Visible name ∧ format ≠ "" ∧ ∀ max, limit = some max → format.utf8ByteSize ≤ max := by
  have hlength : lengthViolation? limit name format = none ↔ _ := lengthViolation?_eq_none_iff_le
  rw [← hlength]
  unfold presetViolation?
  by_cases hname : Visible name <;> by_cases hformat : format = "" <;> simp [isBlankText_iff, hname, hformat]

theorem violation?_eq_none_iff_isValid {config : Config} : config.violation? = none ↔ config.IsValid := by
  rw [violation?_eq_none_iff]
  simp only [Prod.forall, ← NameMap.get?_eq_some_iff, limitViolation?_eq_none_iff, levelViolation?_eq_none_iff,
    aliasViolation?_eq_none_iff, presetViolation?_eq_none_iff]
  exact ⟨fun ⟨hlimit, hlevel, haliases, hpresets⟩ => ⟨hlimit, hlevel, haliases, hpresets⟩,
    fun h => ⟨h.limit, h.level, h.aliases, h.presets⟩⟩

/-! ### Rules in order -/

/-- A rule, with the name of the entry that it is asked of. -/
inductive Rule where
  | limit
  | level
  | aliasName (name : String)
  | aliasSource (name : String)
  | presetName (name : String)
  | presetFormat (name : String)
  | presetLength (name : String)

namespace Rule

/-- The part of a configuration that a rule is about. -/
def part : Rule → Nat
  | .limit => 0
  | .level => 1
  | .aliasName _ | .aliasSource _ => 2
  | .presetName _ | .presetFormat _ | .presetLength _ => 3

/-- The name of the entry. Limit and level are no entries. -/
def entry : Rule → String
  | .limit | .level => ""
  | .aliasName name | .aliasSource name | .presetName name | .presetFormat name | .presetLength name => name

/-- The place of a rule among those of one entry. -/
def step : Rule → Nat
  | .limit | .level | .aliasName _ | .presetName _ => 0
  | .aliasSource _ | .presetFormat _ => 1
  | .presetLength _ => 2

/-- Rules come in order of their parts, then of the bytes of the names, then of their places at one entry. -/
def Before (a b : Rule) : Prop :=
  a.part < b.part ∨ a.part = b.part ∧ (utf8 a.entry < utf8 b.entry ∨ a.entry = b.entry ∧ a.step < b.step)

theorem eq_of_place {a b : Rule} (hpart : a.part = b.part) (hentry : a.entry = b.entry) (hstep : a.step = b.step) :
    a = b := by
  cases a <;> cases b <;> simp_all [part, entry, step]

theorem Before.asymm {a b : Rule} (h : a.Before b) : ¬ b.Before a := by
  unfold Before at h ⊢
  rw [utf8_lt_iff] at h ⊢
  rintro (hpart | ⟨hpart, hentry | ⟨hentry, hstep⟩⟩)
  · omega
  · obtain h | ⟨-, h | ⟨h, -⟩⟩ := h
    · omega
    · exact String.lt_asymm h hentry
    · exact String.lt_irrefl _ (h ▸ hentry)
  · obtain h | ⟨-, h | ⟨-, h⟩⟩ := h
    · omega
    · exact String.lt_irrefl _ (hentry ▸ h)
    · omega

end Rule

/-- A configuration breaks a rule, and a message says so. -/
inductive Breaks (config : Config) : Rule → String → Prop
  | limit (zero : config.limit = some 0) : Breaks config .limit "format.max_length must be non-zero when set"
  | level (unknown : config.level ∉ ["trace", "debug", "info", "warn", "error"]) :
    Breaks config .level
      ("logging.level must be one of [\"trace\", \"debug\", \"info\", \"warn\", \"error\"], got " ++ quoted config.level)
  | aliasName {name source : String} (entry : config.aliases.get? name = some source) (blank : ¬ Visible name) :
    Breaks config (.aliasName name) "metadata.aliases keys must not be empty"
  | aliasSource {name source : String} (entry : config.aliases.get? name = some source) (blank : ¬ Visible source) :
    Breaks config (.aliasSource name) ("metadata.aliases." ++ quoted name ++ " must name a metadata key")
  | presetName {name format : String} (entry : config.presets.get? name = some format) (blank : ¬ Visible name) :
    Breaks config (.presetName name) "presets keys must not be empty"
  | presetFormat {name : String} (entry : config.presets.get? name = some "") :
    Breaks config (.presetFormat name) ("presets." ++ quoted name ++ " must not be empty")
  | presetLength {name format : String} {limit : Nat} (entry : config.presets.get? name = some format)
    (limited : config.limit = some limit) (long : limit < format.utf8ByteSize) :
    Breaks config (.presetLength name)
      ("presets." ++ quoted name ++ " is " ++ toString format.utf8ByteSize ++ " bytes, over format.max_length (" ++
        toString limit ++ ")")

/-- The broken rule that comes before all other broken ones. -/
def FirstBroken (config : Config) (rule : Rule) (message : String) : Prop :=
  config.Breaks rule message ∧ ∀ other told, config.Breaks other told → other ≠ rule → rule.Before other

section

variable {config : Config} {rule other : Rule} {message told name value : String} {violation : Violation}

theorem Breaks.message_unique (h : config.Breaks rule message) (h' : config.Breaks rule told) : message = told := by
  cases h <;> cases h' <;> simp_all

theorem Breaks.not_isValid (h : config.Breaks rule message) : ¬ config.IsValid := by
  intro hvalid
  cases h with
  | limit zero => exact hvalid.limit zero
  | level unknown => exact unknown hvalid.level
  | aliasName entry blank => exact blank (hvalid.aliases _ _ entry).1
  | aliasSource entry blank => exact blank (hvalid.aliases _ _ entry).2
  | presetName entry blank => exact blank (hvalid.presets _ _ entry).1
  | presetFormat entry => exact (hvalid.presets _ _ entry).2.1 rfl
  | presetLength entry limited long => exact absurd ((hvalid.presets _ _ entry).2.2 _ limited) (Nat.not_le.mpr long)

theorem Breaks.limitViolation?_ne_none (h : config.Breaks rule message) (hpart : rule.part = 0) :
    limitViolation? config.limit ≠ none := by
  cases h with
  | limit zero => exact fun hnone => limitViolation?_eq_none_iff.mp hnone zero
  | _ => simp [Rule.part] at hpart

theorem Breaks.levelViolation?_ne_none (h : config.Breaks rule message) (hpart : rule.part = 1) :
    levelViolation? config.level ≠ none := by
  cases h with
  | level unknown => exact mt levelViolation?_eq_none_iff.mp unknown
  | _ => simp [Rule.part] at hpart

theorem Breaks.exists_alias (h : config.Breaks rule message) (hpart : rule.part = 2) :
    ∃ source, config.aliases.get? rule.entry = some source ∧ aliasViolation? rule.entry source ≠ none := by
  cases h with
  | aliasName entry blank => exact ⟨_, entry, fun hnone => blank (aliasViolation?_eq_none_iff.mp hnone).1⟩
  | aliasSource entry blank => exact ⟨_, entry, fun hnone => blank (aliasViolation?_eq_none_iff.mp hnone).2⟩
  | _ => simp [Rule.part] at hpart

theorem Breaks.exists_preset (h : config.Breaks rule message) (hpart : rule.part = 3) :
    ∃ format, config.presets.get? rule.entry = some format ∧ presetViolation? config.limit rule.entry format ≠ none := by
  cases h with
  | presetName entry blank => exact ⟨_, entry, fun hnone => blank (presetViolation?_eq_none_iff.mp hnone).1⟩
  | presetFormat entry => exact ⟨_, entry, fun hnone => (presetViolation?_eq_none_iff.mp hnone).2.1 rfl⟩
  | presetLength entry limited long =>
    exact ⟨_, entry, fun hnone => Nat.not_le.mpr long ((presetViolation?_eq_none_iff.mp hnone).2.2 _ limited)⟩
  | _ => simp [Rule.part] at hpart

theorem FirstBroken.rule_unique (h : config.FirstBroken rule message) (h' : config.FirstBroken other told) : rule = other := by
  by_contra hne
  exact (h.2 other told h'.1 (Ne.symm hne)).asymm (h'.2 rule message h.1 hne)

/-- Rules of earlier parts, of lesser names and of earlier places are what a broken rule has to be compared with. -/
theorem Breaks.firstBroken (h : config.Breaks rule message)
    (hpart : ∀ other told, config.Breaks other told → rule.part ≤ other.part)
    (hentry : ∀ other told, config.Breaks other told → other.part = rule.part → other.entry ≠ rule.entry →
      rule.entry < other.entry)
    (hstep : ∀ other told, config.Breaks other told → other.part = rule.part → other.entry = rule.entry →
      rule.step ≤ other.step) : config.FirstBroken rule message := by
  refine ⟨h, fun other told hother hne => ?_⟩
  have hle := hpart other told hother
  by_cases hsamePart : other.part = rule.part
  · refine .inr ⟨hsamePart.symm, ?_⟩
    by_cases hsameEntry : other.entry = rule.entry
    · have hstepLe := hstep other told hother hsamePart hsameEntry
      have hstepNe : other.step ≠ rule.step := fun heq => hne (Rule.eq_of_place hsamePart hsameEntry heq)
      exact .inr ⟨hsameEntry.symm, by omega⟩
    · exact .inl (utf8_lt_of_lt (hentry other told hother hsamePart hsameEntry))
  · exact .inl (by omega)

/-! ### What validation tells -/

theorem firstBroken_of_limitViolation? (h : limitViolation? config.limit = some violation) :
    ∃ rule, config.FirstBroken rule violation.message := by
  unfold limitViolation? at h
  split at h
  · next hzero =>
    obtain rfl := Option.some.inj h
    refine ⟨.limit, Breaks.firstBroken (.limit hzero) ?_ ?_ ?_⟩
    · exact fun other told hother => Nat.zero_le _
    · intro other told hother hpart hentry
      cases other <;> simp [Rule.part, Rule.entry] at hpart hentry
    · exact fun other told hother hpart hentry => Nat.zero_le _
  · contradiction

theorem firstBroken_of_levelViolation? (hlimit : limitViolation? config.limit = none)
    (h : levelViolation? config.level = some violation) : ∃ rule, config.FirstBroken rule violation.message := by
  unfold levelViolation? at h
  split at h
  · contradiction
  · next hunknown =>
    obtain rfl := Option.some.inj h
    refine ⟨.level, Breaks.firstBroken (.level hunknown) ?_ ?_ ?_⟩
    · intro other told hother
      have hne : other.part ≠ 0 := fun hpart => hother.limitViolation?_ne_none hpart hlimit
      exact Nat.pos_of_ne_zero hne
    · intro other told hother hpart hentry
      cases other <;> simp [Rule.part, Rule.entry] at hpart hentry
    · exact fun other told hother hpart hentry => Nat.zero_le _

/-- The entries of one part are searched in order of their names, and each tells the first rule that it breaks. -/
theorem firstBroken_of_findSome? {part : Nat} {map : NameMap String} {find? : String × String → Option Violation}
    (hpart : ∀ rule told, config.Breaks rule told → part ≤ rule.part)
    (hentry : ∀ rule told, config.Breaks rule told → rule.part = part →
      ∃ value, map.get? rule.entry = some value ∧ find? (rule.entry, value) ≠ none)
    (hrule : ∀ name value violation, map.get? name = some value → find? (name, value) = some violation →
      ∃ rule, rule.part = part ∧ rule.entry = name ∧ config.Breaks rule violation.message ∧
        ∀ other told, config.Breaks other told → other.part = part → other.entry = name → rule.step ≤ other.step)
    (h : map.entries.findSome? find? = some violation) : ∃ rule, config.FirstBroken rule violation.message := by
  obtain ⟨name, value, hget, hfound, hleast⟩ := NameMap.exists_least_of_findSome?_entries h
  obtain ⟨rule, rfl, rfl, hbreaks, hstep⟩ := hrule name value violation hget hfound
  refine ⟨rule, hbreaks.firstBroken hpart (fun other told hother hsame hne => ?_) hstep⟩
  obtain ⟨value', hget', hbroken⟩ := hentry other told hother hsame
  exact hleast other.entry value' hget' hbroken hne

theorem exists_rule_of_aliasViolation? (hget : config.aliases.get? name = some value)
    (h : aliasViolation? name value = some violation) :
    ∃ rule : Rule, rule.part = 2 ∧ rule.entry = name ∧ config.Breaks rule violation.message ∧
      ∀ other told, config.Breaks other told → other.part = 2 → other.entry = name → rule.step ≤ other.step := by
  unfold aliasViolation? at h
  split at h
  · next hblank =>
    obtain rfl := Option.some.inj h
    exact ⟨.aliasName name, rfl, rfl, .aliasName hget (isBlankText_iff.mp hblank), fun _ _ _ _ _ => Nat.zero_le _⟩
  · next hvisible =>
    split at h
    · next hblank =>
      obtain rfl := Option.some.inj h
      refine ⟨.aliasSource name, rfl, rfl, .aliasSource hget (isBlankText_iff.mp hblank), ?_⟩
      intro other told hother hpart hentry
      cases hother with
      | aliasName entry blank =>
        obtain rfl : _ = name := hentry
        exact absurd (isBlankText_iff.mpr blank) hvisible
      | aliasSource => exact Nat.le_refl _
      | _ => simp [Rule.part] at hpart
    · contradiction

theorem exists_rule_of_presetViolation? (hget : config.presets.get? name = some value)
    (h : presetViolation? config.limit name value = some violation) :
    ∃ rule : Rule, rule.part = 3 ∧ rule.entry = name ∧ config.Breaks rule violation.message ∧
      ∀ other told, config.Breaks other told → other.part = 3 → other.entry = name → rule.step ≤ other.step := by
  unfold presetViolation? at h
  split at h
  · next hblank =>
    obtain rfl := Option.some.inj h
    exact ⟨.presetName name, rfl, rfl, .presetName hget (isBlankText_iff.mp hblank), fun _ _ _ _ _ => Nat.zero_le _⟩
  · next hvisible =>
    have hname {other : Rule} {told : String} (hother : config.Breaks other told) (hpart : other.part = 3)
        (hentry : other.entry = name) : other ≠ .presetName name := by
      rintro rfl
      cases hother with
      | presetName entry blank => exact hvisible (isBlankText_iff.mpr blank)
    split at h
    · next hempty =>
      obtain rfl := Option.some.inj h
      rw [String.isEmpty_iff] at hempty
      refine ⟨.presetFormat name, rfl, rfl, .presetFormat (hempty ▸ hget), ?_⟩
      intro other told hother hpart hentry
      have hne := hname hother hpart hentry
      cases hother <;> simp_all [Rule.part, Rule.entry, Rule.step]
    · next hnonempty =>
      rw [String.isEmpty_iff] at hnonempty
      unfold lengthViolation? at h
      split at h
      · next limit hlimit =>
        split at h
        · next hlong =>
          obtain rfl := Option.some.inj h
          refine ⟨.presetLength name, rfl, rfl, .presetLength hget hlimit hlong, ?_⟩
          intro other told hother hpart hentry
          have hne := hname hother hpart hentry
          cases hother <;> simp_all [Rule.part, Rule.entry, Rule.step]
        · contradiction
      · contradiction

theorem exists_firstBroken_of_violation? (h : config.violation? = some violation) :
    ∃ rule, config.FirstBroken rule violation.message := by
  simp only [violation?, Option.orElse_eq_some] at h
  obtain hlimit | ⟨hlimit, hlevel | ⟨hlevel, haliases | ⟨haliases, hpresets⟩⟩⟩ := h
  · exact firstBroken_of_limitViolation? hlimit
  · exact firstBroken_of_levelViolation? hlimit hlevel
  · refine firstBroken_of_findSome? (fun rule told hrule => ?_) (fun rule told hrule hpart => hrule.exists_alias hpart)
      (fun name value violation => exists_rule_of_aliasViolation?) haliases
    have hnotLimit : rule.part ≠ 0 := fun hpart => hrule.limitViolation?_ne_none hpart hlimit
    have hnotLevel : rule.part ≠ 1 := fun hpart => hrule.levelViolation?_ne_none hpart hlevel
    omega
  · refine firstBroken_of_findSome? (fun rule told hrule => ?_) (fun rule told hrule hpart => hrule.exists_preset hpart)
      (fun name value violation => exists_rule_of_presetViolation?) hpresets
    have hnotLimit : rule.part ≠ 0 := fun hpart => hrule.limitViolation?_ne_none hpart hlimit
    have hnotLevel : rule.part ≠ 1 := fun hpart => hrule.levelViolation?_ne_none hpart hlevel
    have hnotAlias : rule.part ≠ 2 := by
      intro hpart
      obtain ⟨source, hget, hbroken⟩ := hrule.exists_alias hpart
      exact hbroken (List.findSome?_eq_none_iff.mp haliases _ (NameMap.get?_eq_some_iff.mp hget))
    omega

/-- Validation finds nothing exactly in valid configurations, and otherwise tells the first of the broken rules. A text is read as a configuration exactly when it decodes to one that is valid. -/
theorem violation_is_first_broken (config : Config) :
    (config.violation? = none ↔ config.IsValid) ∧
      (∀ message, config.violation?.map Violation.message = some message ↔ ∃ rule, config.FirstBroken rule message) ∧
      ∀ text, read text = .ok config ↔ Toml.read? text >>= ofEntries? = some config ∧ config.IsValid := by
  refine ⟨violation?_eq_none_iff_isValid, fun message => ?_, fun text => ?_⟩
  · rw [Option.map_eq_some_iff]
    constructor
    · rintro ⟨violation, hviolation, rfl⟩
      exact exists_firstBroken_of_violation? hviolation
    · rintro ⟨rule, hrule⟩
      obtain ⟨violation, hviolation⟩ := Option.ne_none_iff_exists'.mp
        (mt violation?_eq_none_iff_isValid.mp hrule.1.not_isValid)
      obtain ⟨found, hfound⟩ := exists_firstBroken_of_violation? hviolation
      obtain rfl := hfound.rule_unique hrule
      exact ⟨violation, hviolation, hfound.1.message_unique hrule.1⟩
  · rw [read_eq_ok_iff, violation?_eq_none_iff_isValid]

end

end NowPlaying.Config
