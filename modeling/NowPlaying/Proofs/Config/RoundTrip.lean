import NowPlaying.Config.Decode
import NowPlaying.Config.Writer
import NowPlaying.Proofs.Toml.Line
import NowPlaying.Proofs.Toml.Table

/-!
# A written configuration is read back

A configuration stands for one document: four tables in order of their names, with the aliases in a table of their own. What the writer prints reads as this document, line by line, and the document decodes to the configuration.
-/

namespace NowPlaying.Config

open Toml

/-! ### The document of a configuration -/

def limitEntries : Option Nat → Entries
  | none => []
  | some limit => [("max_length", .integer limit)]

def textEntries (texts : List (String × String)) : Entries := texts.map fun (name, value) => (name, .text value)

/-- The document up to its first table, and so on for the other tables. -/
def upToFormat (config : Config) : Entries := [("format", .table .header (limitEntries config.limit))]

def upToLogging (config : Config) : Entries :=
  config.upToFormat ++ [("logging", .table .header [("level", .text config.level)])]

def upToAliases (config : Config) : Entries :=
  config.upToLogging ++ [("metadata", .table .implied [("aliases", .table .header (textEntries config.aliases.entries))])]

def document (config : Config) : Entries :=
  config.upToAliases ++ [("presets", .table .header (textEntries config.presets.entries))]

/-! ### Lines -/

theorem writePair_append (key value rest : List Char) :
    writePair key value ++ rest = (key ++ ' ' :: '=' :: ' ' :: value) ++ '\n' :: rest := by
  simp [writePair]

theorem writeHeader_append (name : String) (rest : List Char) :
    writeHeader name ++ rest = ('[' :: name.toList ++ [']']) ++ '\n' :: rest := by
  simp [writeHeader]

section Lines

variable {path : List String} {document : Entries → Entries} {root : Entries} {rest : List Char}

/-- A line with a key behind all others adds an entry to the table of the last header. -/
theorem reads_pair {entries : Entries} {key : String} {value : Toml} {s : List Char} (hleads : Leads path document)
    (hkey : ∀ e ∈ entries, e.1 < key) (hwrites : Writes value s)
    (hrest : Reads ⟨document (entries ++ [(key, value)]), path⟩ rest root) :
    Reads ⟨document entries, path⟩ (writePair (writeKey key.toList) s ++ rest) root := by
  have hadd : Draft.add? ⟨document entries, path⟩ (.pair ⟨[], key⟩ value) =
      some ⟨document (entries ++ [(key, value)]), path⟩ := by
    rw [Draft.add?, hleads (assign ⟨[], key⟩ value) entries, assign_of_forall_lt hkey]
    rfl
  have hline := readLine?_pair hwrites key rest
  rw [writePair_append]
  exact reads_line (by simpa using hline) hadd hrest

/-- Texts in order of their names, behind the entries that the table has. -/
theorem reads_texts (hleads : Leads path document) {texts : List (String × String)} {entries : Entries}
    (hordered : Entries.Ordered (entries ++ textEntries texts))
    (hrest : Reads ⟨document (entries ++ textEntries texts), path⟩ rest root) :
    Reads ⟨document entries, path⟩
      (texts.flatMap (fun (name, value) => writePair (writeKey name.toList) (writeText value.toList)) ++ rest) root := by
  -- What is read moves from the texts to the entries, and the order makes every name a new one.
  induction texts generalizing entries with
  | nil =>
    rw [textEntries, List.map_nil, List.append_nil] at hrest
    exact hrest
  | cons entry texts ih =>
    obtain ⟨name, value⟩ := entry
    have hkey : ∀ e ∈ entries, e.1 < name := Entries.forall_lt_of_ordered_append hordered
    have hsplit : entries ++ textEntries ((name, value) :: texts) = (entries ++ [(name, .text value)]) ++ textEntries texts := by
      simp [textEntries]
    rw [hsplit] at hordered hrest
    rw [List.flatMap_cons, List.append_assoc]
    exact reads_pair hleads hkey (writes_text value) (ih hordered hrest)

theorem ordered_textEntries (texts : NameMap String) : Entries.Ordered (textEntries texts.entries) :=
  List.pairwise_map.mpr texts.ordered

theorem reads_writeTexts (hleads : Leads path document) {texts : NameMap String}
    (hrest : Reads ⟨document (textEntries texts.entries), path⟩ rest root) :
    Reads ⟨document [], path⟩ (writeTexts texts ++ rest) root :=
  reads_texts hleads (ordered_textEntries texts) hrest

theorem reads_writeLimit (hleads : Leads path document) {limit : Option Nat} (hlimit : ∀ n ∈ limit, n < Nat.pow 2 64)
    (hrest : Reads ⟨document (limitEntries limit), path⟩ rest root) :
    Reads ⟨document [], path⟩ (writeLimit limit ++ rest) root := by
  cases limit with
  | none => exact hrest
  | some n =>
    have hn : n < Nat.pow 2 128 := Nat.lt_trans (hlimit n rfl) (by decide)
    have hnone : ∀ e ∈ ([] : Entries), e.1 < "max_length" := by simp
    exact reads_pair hleads hnone (writes_number hn) hrest

/-- A header opens the table that the lines behind it fill. -/
theorem reads_header {name : String} (key : Key) {draft : Draft} {opened : Entries}
    (hline : readLine? (('[' :: name.toList ++ [']']) ++ '\n' :: rest) = some (.header key, '\n' :: rest))
    (hopen : within key.front (openTable key.last) draft.root = some opened)
    (hrest : Reads ⟨opened, key.front ++ [key.last]⟩ rest root) : Reads draft (writeHeader name ++ rest) root := by
  have hadd : draft.add? (.header key) = some ⟨opened, key.front ++ [key.last]⟩ := by
    rw [Draft.add?, hopen]
    rfl
  rw [writeHeader_append]
  exact reads_line hline hadd hrest

end Lines

/-! ### Tables -/

section Tables

variable (config : Config) (path : List String) {rest : List Char} {root : Entries}

theorem reads_presets (hrest : Reads ⟨config.document, ["presets"]⟩ rest root) :
    Reads ⟨config.upToAliases, path⟩ (writeHeader "presets" ++ (writeTexts config.presets ++ rest)) root := by
  have hkey : ∀ e ∈ config.upToAliases, e.1 < "presets" :=
    Entries.forall_lt_of_names ["format", "logging", "metadata"] rfl (by decide)
  exact reads_header ⟨[], "presets"⟩ rfl (openTable_of_forall_lt hkey) (reads_writeTexts (leads_last hkey) hrest)

theorem reads_aliases (hrest : Reads ⟨config.upToAliases, ["metadata", "aliases"]⟩ rest root) :
    Reads ⟨config.upToLogging, path⟩ (writeHeader "metadata.aliases" ++ (writeTexts config.aliases ++ rest)) root := by
  have hkey : ∀ e ∈ config.upToLogging, e.1 < "metadata" :=
    Entries.forall_lt_of_names ["format", "logging"] rfl (by decide)
  have hnone : ∀ e ∈ ([] : Entries), e.1 < "aliases" := by simp
  have hleads := leads_cons (leads_last hnone) (show TableOrigin.implied ≠ .braces by decide) hkey
  exact reads_header ⟨["metadata"], "aliases"⟩ rfl (within_openTable_of_forall_lt hkey "aliases")
    (reads_writeTexts hleads hrest)

theorem reads_logging (hrest : Reads ⟨config.upToLogging, ["logging"]⟩ rest root) :
    Reads ⟨config.upToFormat, path⟩
      (writeHeader "logging" ++ (writePair "level".toList (writeText config.level.toList) ++ rest)) root := by
  have hkey : ∀ e ∈ config.upToFormat, e.1 < "logging" := Entries.forall_lt_of_names ["format"] rfl (by decide)
  have hnone : ∀ e ∈ ([] : Entries), e.1 < "level" := by simp
  exact reads_header ⟨[], "logging"⟩ rfl (openTable_of_forall_lt hkey)
    (reads_pair (leads_last hkey) hnone (writes_text config.level) hrest)

theorem reads_format (hlimit : ∀ n ∈ config.limit, n < Nat.pow 2 64) (hrest : Reads ⟨config.upToFormat, ["format"]⟩ rest root) :
    Reads ⟨[], path⟩ (writeHeader "format" ++ (writeLimit config.limit ++ rest)) root := by
  have hkey : ∀ e ∈ ([] : Entries), e.1 < "format" := by simp
  exact reads_header ⟨[], "format"⟩ rfl (openTable_of_forall_lt hkey) (reads_writeLimit (leads_last hkey) hlimit hrest)

/-- The writer's text, alone or with a line break behind it, is the configuration's document. -/
theorem reads_writeChars (hlimit : ∀ n ∈ config.limit, n < Nat.pow 2 64) {tail : List Char} (htail : tail = [] ∨ tail = ['\n']) :
    Reads ⟨[], []⟩ (config.writeChars ++ tail) config.document := by
  have hend : Reads ⟨config.document, ["presets"]⟩ tail config.document := by
    obtain rfl | rfl := htail
    · exact reads_nil _
    · exact reads_blank (reads_nil _)
  have hpresets := reads_blank (reads_presets config ["metadata", "aliases"] hend)
  have haliases := reads_blank (reads_aliases config ["logging"] hpresets)
  have hlogging := reads_blank (reads_logging config ["format"] haliases)
  have hformat := reads_format config [] hlimit hlogging
  simpa [writeChars] using hformat

theorem read?_write (hlimit : ∀ n ∈ config.limit, n < Nat.pow 2 64) {tail : String} (htail : tail = "" ∨ tail = "\n") :
    Toml.read? (config.write ++ tail) = some config.document := by
  have hchars : (config.write ++ tail).toList = config.writeChars ++ tail.toList := by
    rw [String.toList_append, write, String.toList_ofList]
  have hmark : dropMark (config.writeChars ++ tail.toList) = config.writeChars ++ tail.toList := rfl
  have hreads : Reads ⟨[], []⟩ (config.writeChars ++ tail.toList) config.document := by
    apply reads_writeChars config hlimit
    obtain rfl | rfl := htail
    · exact .inl rfl
    · exact .inr rfl
  rw [Toml.read?, hchars, hmark]
  exact hreads _ (Nat.lt_succ_self _)

end Tables

/-! ### Decoding -/

theorem mapM_textEntries (texts : List (String × String)) :
    (textEntries texts).mapM (fun (name, value) => (text? value).map (name, ·)) = some texts := by
  induction texts with
  | nil => rfl
  | cons entry texts ih =>
    rw [textEntries, List.map_cons, List.mapM_cons]
    rw [textEntries] at ih
    rw [ih]
    rfl

theorem texts?_textEntries (texts : NameMap String) (origin : TableOrigin) :
    texts? (.table origin (textEntries texts.entries)) = some texts := by
  have hmap := mapM_textEntries texts.entries
  simp only [texts?, entries?, Option.bind_eq_bind, Option.bind_some, hmap, NameMap.ofList_entries]

theorem length?_integer {n : Nat} (h : n < Nat.pow 2 64) : length? (.integer n) = some (some n) := by
  rw [length?, if_pos (by omega), Int.toNat_natCast]

theorem field?_limitEntries {limit : Option Nat} (h : ∀ n ∈ limit, n < Nat.pow 2 64) :
    field? "max_length" length? none (limitEntries limit) = some limit := by
  cases limit with
  | none => rfl
  | some n =>
    rw [limitEntries, field?, List.lookup_cons_self]
    exact length?_integer (h n rfl)

theorem passOver?_of_known {known : List String} {entries : Entries} (h : ∀ e ∈ entries, e.1 ∈ known) :
    passOver? known entries = some entries := by
  have hall : entries.all (fun (key, value) => key ∈ known || value.isSound) = true := by
    rw [List.all_eq_true]
    intro e he
    simp only [decide_eq_true (h e he), Bool.true_or]
  rw [passOver?, if_pos hall]

theorem field?_of_lookup {α : Type} {key : String} {value : Toml} {entries : Entries} (h : entries.lookup key = some value)
    (decode : Toml → Option α) (absent : α) : field? key decode absent entries = decode value := by
  rw [field?, h]

/-- A table with one key that is known, and nothing else. -/
theorem field?_table {α : Type} {key inner : String} {origin : TableOrigin} {entries fields : Entries}
    {decode : Toml → Option α} {absent innerAbsent decoded : α} (hkey : entries.lookup key = some (.table origin fields))
    (hknown : ∀ e ∈ fields, e.1 ∈ [inner]) (hinner : field? inner decode innerAbsent fields = some decoded) :
    field? key (fun value => fields? [inner] value >>= field? inner decode innerAbsent) absent entries = some decoded := by
  have hfields : fields? [inner] (.table origin fields) = some fields := passOver?_of_known hknown
  rw [field?_of_lookup hkey, hfields]
  exact hinner

theorem ofEntries?_document (config : Config) (hlimit : ∀ n ∈ config.limit, n < Nat.pow 2 64) :
    ofEntries? config.document = some config := by
  have hknown : ∀ e ∈ config.document, e.1 ∈ ["format", "logging", "metadata", "presets"] := by
    simp [document, upToAliases, upToLogging, upToFormat]
  have hlimitKnown : ∀ e ∈ limitEntries config.limit, e.1 ∈ ["max_length"] := by
    cases config.limit <;> simp [limitEntries]
  have hformat : field? "format" (fun value => fields? ["max_length"] value >>= field? "max_length" length? none)
      default.limit config.document = some config.limit :=
    field?_table rfl hlimitKnown (field?_limitEntries hlimit)
  have hlogging : field? "logging" (fun value => fields? ["level"] value >>= field? "level" text? default.level)
      default.level config.document = some config.level :=
    field?_table rfl (by simp) rfl
  have hmetadata : field? "metadata" (fun value => fields? ["aliases"] value >>= field? "aliases" texts? default.aliases)
      default.aliases config.document = some config.aliases :=
    field?_table rfl (by simp) (texts?_textEntries config.aliases .header)
  have hpresets : field? "presets" texts? default.presets config.document = some config.presets :=
    texts?_textEntries config.presets .header
  rw [ofEntries?, passOver?_of_known hknown]
  simp only [Option.bind_eq_bind, Option.bind_some] at hformat hlogging hmetadata ⊢
  rw [hformat, hlogging, hmetadata, hpresets]
  rfl

theorem lt_of_length? {value : Toml} {limit : Option Nat} (h : length? value = some limit) : ∀ n ∈ limit, n < Nat.pow 2 64 := by
  intro n hn
  cases value with
  | integer m =>
    rw [length?] at h
    split at h
    · next hbounds =>
      obtain rfl := Option.some.inj h
      obtain rfl := Option.some.inj hn
      omega
    · contradiction
  | _ => contradiction

theorem field?_eq_some {α : Type} {key : String} {decode : Toml → Option α} {absent decoded : α} {entries : Entries}
    (h : field? key decode absent entries = some decoded) : decoded = absent ∨ ∃ value, decode value = some decoded := by
  rw [field?] at h
  split at h
  · next value _ => exact .inr ⟨value, h⟩
  · exact .inl (Option.some.inj h).symm

theorem lt_of_ofEntries? {entries : Entries} {config : Config} (h : ofEntries? entries = some config) :
    ∀ n ∈ config.limit, n < Nat.pow 2 64 := by
  simp only [ofEntries?, Option.bind_eq_bind, Option.bind_eq_some_iff] at h
  obtain ⟨entries, -, limit, hlimit, level, -, aliases, -, presets, -, heq⟩ := h
  obtain rfl := Option.some.inj heq
  obtain rfl | ⟨value, hvalue⟩ := field?_eq_some hlimit
  · simp [default]
  · obtain ⟨fields, -, hfield⟩ := Option.bind_eq_some_iff.mp hvalue
    obtain rfl | ⟨length, hlength⟩ := field?_eq_some hfield
    · simp
    · exact lt_of_length? hlength

/-! ### The round trip -/

theorem read_eq_ok_iff {text : String} {config : Config} :
    read text = .ok config ↔ Toml.read? text >>= ofEntries? = some config ∧ config.violation? = none := by
  rw [read]
  cases hdecoded : Toml.read? text >>= ofEntries? with
  | none => simp
  | some decoded =>
    have hsame : some decoded = some config ↔ decoded = config := Option.some_inj
    cases hviolation : decoded.violation? with
    | some violation =>
      simp only [hviolation, hsame]
      constructor
      · intro h
        contradiction
      · rintro ⟨rfl, hnone⟩
        rw [hviolation] at hnone
        contradiction
    | none =>
      simp only [hviolation, hsame]
      constructor
      · intro h
        obtain rfl := Except.ok.inj h
        exact ⟨rfl, hviolation⟩
      · rintro ⟨rfl, -⟩
        rfl

theorem read_write {text : String} {config : Config} (h : read text = .ok config) :
    read config.write = .ok config ∧ read (config.write ++ "\n") = .ok config := by
  obtain ⟨hdecoded, hvalid⟩ := read_eq_ok_iff.mp h
  obtain ⟨entries, -, hentries⟩ := Option.bind_eq_some_iff.mp hdecoded
  -- Digits beyond 128 bits would read as no number, but no configuration comes with such a limit.
  have hlimit := lt_of_ofEntries? hentries
  have hread : ∀ tail, tail = "" ∨ tail = "\n" → read (config.write ++ tail) = .ok config := by
    intro tail htail
    rw [read_eq_ok_iff, read?_write config hlimit htail]
    exact ⟨ofEntries?_document config hlimit, hvalid⟩
  have halone := hread "" (.inl rfl)
  rw [String.append_empty] at halone
  exact ⟨halone, hread "\n" (.inr rfl)⟩

/-- The texts need three kinds of quotes, and escapes for controls. -/
theorem read_write_quoted :
    ∃ config : Config,
      read ("format.max_length = 0x40\nlogging = ['trace']\npresets.'a.b' = \"say \\\"it's\\\"\\n\\t\\u0001\"\n"
        ++ "[metadata.aliases]\n\"é \\r\" = '''\nC:\\x'''\n") = .ok config ∧
      config.write = "[format]\nmax_length = 64\n\n[logging]\nlevel = \"trace\"\n\n[metadata.aliases]\n\"é \\r\" = 'C:\\x'\n\n"
        ++ "[presets]\n\"a.b\" = \"\"\"\nsay \"it's\"\n\\t\\u0001\"\"\"\n" ∧
      read config.write = .ok config ∧ read (config.write ++ "\n") = .ok config := by
  let config : Config :=
    ⟨some 64, "trace", NameMap.ofList [("é \r", "C:\\x")], NameMap.ofList [("a.b", "say \"it's\"\n\t\x01")]⟩
  refine ⟨config, ?hread, ?hwrite, read_write ?hread⟩
  case hread => decide +kernel
  case hwrite => decide +kernel

end NowPlaying.Config
