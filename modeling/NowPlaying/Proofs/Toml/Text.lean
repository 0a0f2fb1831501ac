import Mathlib.Data.List.Basic
import Mathlib.Data.List.TakeWhile
import NowPlaying.Toml.Text
import NowPlaying.Toml.Writer

/-!
# Written texts are read back

Whatever the form that a text is written in, reading finds the closing quotes where the writer put them and decodes what stands between them to the text. Each half looks at the body in its own way. The search for the closing quotes counts the quotes that stand in a row without a backslash before them: a body never has as many as the closing quotes. The decoder goes character by character, and every character is written in one of three ways that it undoes.

The main statements are `readText?_writeText` for texts of any form and `readLineText?_keyQuoting` for the quoted keys.
-/

namespace NowPlaying.Toml

/-! ### How a character is written -/

/-- The ways to write a character between double quotes: as it is, by a letter, or by its code. -/
inductive Spelled (multiline : Bool) (c : Char) : List Char → Prop where
  | plain (h : stepPlain? multiline c = some ([c], .nothing)) : Spelled multiline c [c]
  | letter (e : Char) (h : simpleEscape? e = some c) : Spelled multiline c ['\\', e]
  | code (h : c.toNat < 0x10000) : Spelled multiline c ('\\' :: 'u' :: hexDigits 4 c.toNat)

theorem hexDigit?_toUpper_digitChar {d : Nat} (h : d < 16) : hexDigit? (Nat.digitChar d).toUpper = some d := by
  have hall : ∀ d < 16, hexDigit? (Nat.digitChar d).toUpper = some d := by decide
  exact hall d h

theorem scalar?_toNat (c : Char) : scalar? c.toNat = some c := by
  have hvalid : c.toNat.isValidChar := c.valid
  rw [scalar?, if_pos hvalid, Char.ofNat_toNat]

theorem isVisible_of_not_needsCode {c : Char} (h : needsCode c = false) (hline : c ≠ '\n') : isVisible c = true := by
  simp only [needsCode, Bool.or_eq_false_iff, Bool.and_eq_false_iff, decide_eq_false_iff_not] at h
  simp only [isVisible, Bool.or_eq_true, Bool.and_eq_true, decide_eq_true_eq]
  by_cases htab : c = '\t'
  · exact .inl htab
  · have hhigh : ¬ c.toNat < 0x20 := by tauto
    exact .inr ⟨by omega, h.2⟩

theorem lt_of_needsCode {c : Char} (h : needsCode c = true) : c.toNat < 0x10000 := by
  simp only [needsCode, Bool.or_eq_true, Bool.and_eq_true, decide_eq_true_eq] at h
  omega

theorem stepPlain?_of_visible {multiline : Bool} {c : Char} (hc : isVisible c) (hescape : c ≠ '\\') :
    stepPlain? multiline c = some ([c], .nothing) := by
  rw [stepPlain?, if_neg hescape, if_pos hc]

theorem ne_of_stepPlain? {multiline : Bool} {c : Char} (h : stepPlain? multiline c = some ([c], .nothing)) : c ≠ '\\' := by
  intro hescape
  rw [stepPlain?, if_pos hescape] at h
  simp at h

/-- Whatever a character needs, the writer has a way to write it. -/
theorem spelled_escapeChar (multiline : Bool) (c : Char) : Spelled multiline c (escapeChar multiline c) := by
  unfold escapeChar
  split
  · exact .letter 'b' rfl
  · exact .letter 't' rfl
  · cases multiline with
    | true => exact .plain rfl
    | false => exact .letter 'n' rfl
  · exact .letter 'f' rfl
  · exact .letter 'r' rfl
  · exact .letter '"' rfl
  · exact .letter '\\' rfl
  · next hback htab hline hfeed hreturn hquote hescape =>
    split
    · next hcode => exact .code (lt_of_needsCode hcode)
    · next hplain =>
      refine .plain (stepPlain?_of_visible ?_ hescape)
      exact isVisible_of_not_needsCode (Bool.eq_false_iff.mpr hplain) hline

/-! ### Decoding -/

theorem decodeFrom?_cons {multiline : Bool} {pending next : Pending} {c : Char} {added : List Char}
    (h : step? multiline pending c = some (added, next)) (rest : List Char) :
    decodeFrom? multiline pending (c :: rest) = (decodeFrom? multiline next rest).map (added ++ ·) := by
  rw [decodeFrom?, h]
  simp only [Option.bind_eq_bind, Option.bind_some]
  cases decodeFrom? multiline next rest <;> rfl

theorem decodeFrom?_cons_silent {multiline : Bool} {pending next : Pending} {c : Char}
    (h : step? multiline pending c = some ([], next)) (rest : List Char) :
    decodeFrom? multiline pending (c :: rest) = decodeFrom? multiline next rest := by
  rw [decodeFrom?_cons h]
  exact Option.map_id'

/-- The number that is read with the last hexadecimal digits of `n` behind the digits of `value`. -/
def withHexDigits (value : Nat) : Nat → Nat → Nat
  | 0, _ => value
  | width + 1, n => 16 * withHexDigits value width (n / 16) + n % 16

theorem decodeFrom?_hexDigits (multiline : Bool) (width more value n : Nat) (rest : List Char) :
    decodeFrom? multiline (.code (width + (more + 1)) value) (hexDigits width n ++ rest) =
      decodeFrom? multiline (.code (more + 1) (withHexDigits value width n)) rest := by
  induction width generalizing more n rest with
  | zero =>
    rw [hexDigits, withHexDigits, List.nil_append, Nat.zero_add]
  | succ width ih =>
    have hdigit : n % 16 < 16 := Nat.mod_lt _ (by omega)
    have hmore : ¬ more + 1 + 1 ≤ 1 := by omega
    have hstep : step? multiline (.code (more + 1 + 1) (withHexDigits value width (n / 16))) (Nat.digitChar (n % 16)).toUpper =
        some ([], .code (more + 1) (withHexDigits value (width + 1) n)) := by
      rw [step?, stepCode?, hexDigit?_toUpper_digitChar hdigit]
      simp only [Option.bind_eq_bind, Option.bind_some, if_neg hmore, withHexDigits, Nat.add_sub_cancel]
    rw [hexDigits, List.append_assoc, Nat.add_assoc, Nat.add_comm 1 (more + 1), ih, List.singleton_append,
      decodeFrom?_cons_silent hstep]

theorem decodeFrom?_spelled {multiline : Bool} {c : Char} {chunk : List Char} (h : Spelled multiline c chunk)
    (rest : List Char) :
    decodeFrom? multiline .nothing (chunk ++ rest) = (decodeFrom? multiline .nothing rest).map (c :: ·) := by
  cases h with
  | plain hplain =>
    have hstep : step? multiline .nothing c = some ([c], .nothing) := hplain
    exact decodeFrom?_cons hstep rest
  | letter e hletter =>
    have hstep : step? multiline .escape e = some ([c], .nothing) := by rw [step?, stepEscape?, hletter]
    rw [List.cons_append, decodeFrom?_cons_silent rfl, List.singleton_append, decodeFrom?_cons hstep]
    rfl
  | code hcode =>
    have hdigit : c.toNat % 16 < 16 := Nat.mod_lt _ (by omega)
    have hfront : withHexDigits 0 3 (c.toNat / 16) = c.toNat / 16 := by
      simp only [withHexDigits]
      omega
    have hlast : step? multiline (.code 1 (c.toNat / 16)) (Nat.digitChar (c.toNat % 16)).toUpper = some ([c], .nothing) := by
      have hvalue : 16 * (c.toNat / 16) + c.toNat % 16 = c.toNat := Nat.div_add_mod ..
      rw [step?, stepCode?, hexDigit?_toUpper_digitChar hdigit]
      simp only [Option.bind_eq_bind, Option.bind_some, if_pos (Nat.le_refl 1), hvalue, scalar?_toNat]
    rw [List.cons_append, List.cons_append, decodeFrom?_cons_silent rfl, decodeFrom?_cons_silent rfl, hexDigits,
      List.append_assoc, decodeFrom?_hexDigits multiline 3 0, hfront, List.singleton_append, decodeFrom?_cons hlast]
    rfl

/-- A body begins with one of the ways to write its first character, and goes on as a body. -/
theorem escapeBody_cons (multiline : Bool) (allowed quotes : Nat) (c : Char) (rest : List Char) :
    ∃ chunk quotes', Spelled multiline c chunk ∧ quotes' ≤ allowed ∧
      escapeBody multiline allowed quotes (c :: rest) = chunk ++ escapeBody multiline allowed quotes' rest := by
  rw [escapeBody]
  split
  · next hquote =>
    subst hquote
    split
    · next hmore => exact ⟨['"'], quotes + 1, .plain (stepPlain?_of_visible rfl (by decide)), hmore, rfl⟩
    · exact ⟨['\\', '"'], 0, .letter '"' rfl, Nat.zero_le _, rfl⟩
  · exact ⟨escapeChar multiline c, 0, spelled_escapeChar multiline c, Nat.zero_le _, rfl⟩

theorem decodeFrom?_escapeBody (multiline : Bool) (allowed quotes : Nat) (s : List Char) :
    decodeFrom? multiline .nothing (escapeBody multiline allowed quotes s) = some s := by
  induction s generalizing quotes with
  | nil => rfl
  | cons c rest ih =>
    obtain ⟨chunk, quotes', hchunk, -, hbody⟩ := escapeBody_cons multiline allowed quotes c rest
    rw [hbody, decodeFrom?_spelled hchunk, ih]
    rfl

theorem decodeBasic?_body (s : List Char) : decodeBasic? (Quoting.basic.body s) = some s :=
  decodeFrom?_escapeBody false 0 0 s

/-- No line break stands at the front of a body but the one that the writer puts there. -/
theorem behindNewline?_escapeBody (allowed quotes : Nat) {s : List Char} (h : '\n' ∉ s) :
    behindNewline? (escapeBody true allowed quotes s) = none := by
  cases s with
  | nil => rfl
  | cons c rest =>
    obtain ⟨chunk, quotes', hchunk, -, hbody⟩ := escapeBody_cons true allowed quotes c rest
    rw [hbody]
    cases hchunk with
    | plain hplain =>
      have hline : c ≠ '\n' := fun heq => h (heq ▸ List.mem_cons_self)
      have hreturn : c ≠ '\r' := by
        rintro rfl
        contradiction
      unfold behindNewline?
      split <;> simp_all
    | letter e hletter => rfl
    | code hcode => rfl

theorem dropFirstNewline_ownLine {s body : List Char} (h : '\n' ∉ s → behindNewline? body = none) :
    dropFirstNewline (ownLine s ++ body) = body := by
  rw [ownLine]
  split
  · rfl
  · next hline => rw [List.nil_append, dropFirstNewline, h hline, Option.getD_none]

theorem decodeMultilineBasic?_body (s : List Char) : decodeMultilineBasic? (Quoting.multilineBasic.body s) = some s := by
  rw [decodeMultilineBasic?, Quoting.body, dropFirstNewline_ownLine (behindNewline?_escapeBody 2 0),
    decodeFrom?_escapeBody]

theorem literal_fits_iff {s : List Char} :
    Quoting.literal.fits s ↔ (∀ c ∈ s, needsCode c = false) ∧ ∀ c ∈ s, c ≠ '\'' ∧ c ≠ '\n' := by
  simp [Quoting.fits]

theorem multilineLiteral_fits_iff {s : List Char} :
    Quoting.multilineLiteral.fits s ↔ (∀ c ∈ s, needsCode c = false) ∧ longestRun '\'' 0 s ≤ 2 := by
  simp [Quoting.fits]

theorem decodeLiteral?_body {s : List Char} (h : Quoting.literal.fits s) :
    decodeLiteral? (Quoting.literal.body s) = some s := by
  obtain ⟨hplain, hquote⟩ := literal_fits_iff.mp h
  have hvisible : s.all isVisible = true :=
    List.all_eq_true.mpr fun c hc => isVisible_of_not_needsCode (hplain c hc) (hquote c hc).2
  rw [decodeLiteral?, Quoting.body, if_pos hvisible]

/-- A text without characters that need a code has no carriage return. -/
theorem isMultiline_of_not_needsCode {s : List Char} (h : ∀ c ∈ s, needsCode c = false) : isMultiline s = true := by
  induction s with
  | nil => rfl
  | cons c rest ih =>
    rw [List.forall_mem_cons] at h
    have hreturn : c ≠ '\r' := by
      rintro rfl
      exact absurd h.1 (by decide)
    have hvisible : (isVisible c || decide (c = '\n')) = true := by
      by_cases hline : c = '\n'
      · simp [hline]
      · simp [isVisible_of_not_needsCode h.1 hline]
    rw [isMultiline]
    · rw [hvisible, ih h.2]
      rfl
    · rintro rest' rfl
      contradiction

theorem decodeMultilineLiteral?_body {s : List Char} (h : Quoting.multilineLiteral.fits s) :
    decodeMultilineLiteral? (Quoting.multilineLiteral.body s) = some s := by
  obtain ⟨hplain, -⟩ := multilineLiteral_fits_iff.mp h
  have hfront : '\n' ∉ s → behindNewline? s = none := by
    intro hline
    unfold behindNewline?
    split
    · simp at hline
    · exact absurd (hplain '\r' List.mem_cons_self) (by decide)
    · rfl
  rw [decodeMultilineLiteral?, Quoting.body, dropFirstNewline_ownLine hfront]
  simp only [isMultiline_of_not_needsCode hplain, if_true]

/-! ### Closing quotes -/

/-- The quotes that a text begins with. -/
def frontRun (quote : Char) (s : List Char) : Nat := (s.takeWhile (· = quote)).length

/-- Nowhere in a body do more than `allowed` quotes stand in a row with no backslash before them, and no backslash is left over at its end. -/
def Unclosed (quote : Char) (escapes : Bool) (allowed : Nat) : Bool → List Char → Prop
  | escaped, [] => escaped = false
  | escaped, c :: rest =>
    (escaped = false → frontRun quote (c :: rest) ≤ allowed) ∧
      Unclosed quote escapes allowed (escapes && c = '\\' && !escaped) rest

theorem frontRun_cons_self (quote : Char) (s : List Char) : frontRun quote (quote :: s) = frontRun quote s + 1 := by
  simp [frontRun]

theorem frontRun_cons_of_ne {quote c : Char} (h : c ≠ quote) (s : List Char) : frontRun quote (c :: s) = 0 := by
  simp [frontRun, h]

theorem splitBasic_append {escaped : Bool} {body : List Char} (h : Unclosed '"' true 0 escaped body) (rest : List Char) :
    splitBasic escaped (body ++ '"' :: rest) = some (body, rest) := by
  induction body generalizing escaped with
  | nil =>
    obtain rfl : escaped = false := h
    rfl
  | cons c body ih =>
    obtain ⟨hfront, hbody⟩ := h
    have hopen : (decide (c = '"') && !escaped) = false := by
      cases escaped with
      | true => simp
      | false =>
        have hrun := hfront rfl
        by_cases hc : c = '"'
        · rw [hc, frontRun_cons_self] at hrun
          omega
        · simp [hc]
    rw [Bool.true_and] at hbody
    rw [List.cons_append, splitBasic, hopen, ih hbody]
    rfl

theorem splitLiteral_append {body : List Char} (h : ∀ c ∈ body, c ≠ '\'') (rest : List Char) :
    splitLiteral (body ++ '\'' :: rest) = some (body, rest) := by
  induction body with
  | nil => rfl
  | cons c body ih =>
    rw [List.forall_mem_cons] at h
    rw [List.cons_append, splitLiteral, if_neg h.1, ih h.2]
    rfl

theorem closing?_eq_none {quote : Char} {s : List Char} (h : frontRun quote s ≤ 2) : closing? quote s = none := by
  have hshort : ¬ 3 ≤ (s.takeWhile (· = quote)).length := by
    rw [← frontRun]
    omega
  rw [closing?, if_neg hshort]

theorem closing?_replicate {quote : Char} {k : Nat} (hk : k ≤ 2) {rest : List Char} (hrest : rest.head? ≠ some quote) :
    closing? quote (List.replicate k quote ++ quote :: quote :: quote :: rest) = some (List.replicate k quote, rest) := by
  have hstop : rest.takeWhile (· = quote) = [] := by
    cases rest with
    | nil => rfl
    | cons c rest =>
      have hc : c ≠ quote := fun heq => hrest (congrArg some heq)
      simp [hc]
  obtain rfl | rfl | rfl : k = 0 ∨ k = 1 ∨ k = 2 := by omega
  · simp [closing?, hstop]
  · simp [closing?, hstop]
  · simp [closing?, hstop]

theorem splitMultiline_append {quote : Char} {escapes escaped : Bool} {body : List Char}
    (h : Unclosed quote escapes 2 escaped body) {rest : List Char} (hrest : rest.head? ≠ some quote) :
    splitMultiline quote escapes escaped (body ++ quote :: quote :: quote :: rest) = some (body, rest) := by
  induction body generalizing escaped with
  | nil =>
    obtain rfl : escaped = false := h
    have hclose : closing? quote (quote :: quote :: quote :: rest) = some ([], rest) := closing?_replicate (Nat.zero_le 2) hrest
    rw [List.nil_append, splitMultiline]
    simp only [Bool.false_eq_true, if_false, hclose]
  | cons c body ih =>
    obtain ⟨hfront, hbody⟩ := h
    have hmore := ih hbody
    rw [List.cons_append, splitMultiline]
    cases escaped with
    | true =>
      rw [Bool.not_true, Bool.and_false] at hmore ⊢
      simp only [if_true, hmore]
      rfl
    | false =>
      have hrun := hfront rfl
      by_cases hall : ∀ d ∈ c :: body, d = quote
      · -- The body ends in this run, which the closing quotes make longer.
        have hquotes : c :: body = List.replicate (c :: body).length quote := List.eq_replicate_of_mem hall
        have hlength : (c :: body).length ≤ 2 := by
          rwa [frontRun, List.takeWhile_eq_self_iff.mpr (by simpa using hall)] at hrun
        have hclose := closing?_replicate hlength hrest
        rw [← hquotes, List.cons_append] at hclose
        simp only [Bool.false_eq_true, if_false, hclose]
      · have hsame : frontRun quote (c :: body ++ quote :: quote :: quote :: rest) = frontRun quote (c :: body) := by
          have hshorter : ((c :: body).takeWhile (· = quote)).length ≠ (c :: body).length := by
            intro hlength
            have hself := (List.takeWhile_prefix (· = quote)).eq_of_length hlength
            exact hall (by simpa using List.takeWhile_eq_self_iff.mp hself)
          rw [frontRun, List.takeWhile_append, if_neg hshorter, frontRun]
        have hnone : closing? quote (c :: (body ++ quote :: quote :: quote :: rest)) = none :=
          closing?_eq_none (hsame ▸ hrun)
        simp only [Bool.false_eq_true, if_false, hnone, hmore]
        rfl

/-! ### Bodies are not closed early -/

theorem unclosed_append {quote : Char} {escapes : Bool} {allowed : Nat} {chunk rest : List Char}
    (hchunk : ∀ c ∈ chunk, c ≠ quote ∧ c ≠ '\\') (hrest : Unclosed quote escapes allowed false rest) :
    Unclosed quote escapes allowed false (chunk ++ rest) := by
  induction chunk with
  | nil => exact hrest
  | cons c chunk ih =>
    rw [List.forall_mem_cons] at hchunk
    obtain ⟨⟨hquote, hescape⟩, hmore⟩ := hchunk
    refine ⟨fun _ => ?_, ?_⟩
    · rw [frontRun_cons_of_ne hquote]
      exact Nat.zero_le _
    · simpa [hescape] using ih hmore

theorem isSome_hexDigit?_of_mem_hexDigits {width n : Nat} {x : Char} (h : x ∈ hexDigits width n) :
    (hexDigit? x).isSome := by
  induction width generalizing n with
  | zero => simp [hexDigits] at h
  | succ width ih =>
    rw [hexDigits, List.mem_append, List.mem_singleton] at h
    obtain h | rfl := h
    · exact ih h
    · rw [hexDigit?_toUpper_digitChar (Nat.mod_lt _ (by omega))]
      rfl

/-- A backslash takes the next character with it, so a written character closes nothing unless it is a quote itself. -/
theorem unclosed_spelled {multiline : Bool} {c : Char} {chunk rest : List Char} {allowed : Nat}
    (h : Spelled multiline c chunk) (hfront : frontRun '"' (chunk ++ rest) ≤ allowed)
    (hrest : Unclosed '"' true allowed false rest) : Unclosed '"' true allowed false (chunk ++ rest) := by
  cases h with
  | plain hplain =>
    have hescape := ne_of_stepPlain? hplain
    refine ⟨fun _ => hfront, ?_⟩
    simpa [hescape] using hrest
  | letter e hletter => exact ⟨fun _ => hfront, by simp, by simpa using hrest⟩
  | code hcode =>
    have hdigits : ∀ x ∈ hexDigits 4 c.toNat, x ≠ '"' ∧ x ≠ '\\' := by
      intro x hx
      have hsome := isSome_hexDigit?_of_mem_hexDigits hx
      constructor <;> (rintro rfl; contradiction)
    exact ⟨fun _ => hfront, by simp, by simpa using unclosed_append hdigits hrest⟩

theorem frontRun_escapeChar (multiline : Bool) {c : Char} (hc : c ≠ '"') (rest : List Char) :
    frontRun '"' (escapeChar multiline c ++ rest) = 0 := by
  have hspelled := spelled_escapeChar multiline c
  cases hchunk : escapeChar multiline c with
  | nil => rw [hchunk] at hspelled; cases hspelled
  | cons d chunk =>
    rw [hchunk] at hspelled
    refine frontRun_cons_of_ne ?_ _
    cases hspelled with
    | plain hplain => exact hc
    | letter e hletter => decide
    | code hcode => decide

theorem frontRun_escapeBody (multiline : Bool) {allowed quotes : Nat} (hquotes : quotes ≤ allowed) (s : List Char) :
    frontRun '"' (escapeBody multiline allowed quotes s) ≤ allowed - quotes := by
  induction s generalizing quotes with
  | nil => exact Nat.zero_le _
  | cons c rest ih =>
    rw [escapeBody]
    split
    · split
      · next hmore =>
        have hrest := ih (show quotes + 1 ≤ allowed by omega)
        rw [frontRun_cons_self]
        omega
      · rw [frontRun_cons_of_ne (by decide)]
        exact Nat.zero_le _
    · next hc =>
      rw [frontRun_escapeChar multiline hc]
      exact Nat.zero_le _

theorem unclosed_escapeBody (multiline : Bool) {allowed quotes : Nat} (hquotes : quotes ≤ allowed) (s : List Char) :
    Unclosed '"' true allowed false (escapeBody multiline allowed quotes s) := by
  induction s generalizing quotes with
  | nil => rfl
  | cons c rest ih =>
    have hfront := frontRun_escapeBody multiline hquotes (c :: rest)
    obtain ⟨chunk, quotes', hchunk, hquotes', hbody⟩ := escapeBody_cons multiline allowed quotes c rest
    rw [hbody] at hfront ⊢
    exact unclosed_spelled hchunk (by omega) (ih hquotes')

theorem frontRun_le_longestRun (quote : Char) (current : Nat) (s : List Char) :
    current + frontRun quote s ≤ longestRun quote current s := by
  induction s generalizing current with
  | nil => exact Nat.le_refl _
  | cons c rest ih =>
    rw [longestRun]
    split
    · next hquote =>
      have hrest := ih (current + 1)
      rw [hquote, frontRun_cons_self]
      omega
    · next hquote =>
      rw [frontRun_cons_of_ne hquote]
      exact Nat.le_max_left _ _

/-- Without escapes a run of quotes is as long as it looks. -/
theorem unclosed_of_longestRun {quote : Char} {current allowed : Nat} {s : List Char}
    (h : longestRun quote current s ≤ allowed) : Unclosed quote false allowed false s := by
  induction s generalizing current with
  | nil => rfl
  | cons c rest ih =>
    have hfront := frontRun_le_longestRun quote current (c :: rest)
    refine ⟨fun _ => by omega, ?_⟩
    rw [longestRun] at h
    split at h
    · exact ih h
    · exact ih (le_trans (Nat.le_max_right current _) h)

theorem unclosed_ownLine {quote : Char} (hquote : quote ≠ '\n') {escapes : Bool} {allowed : Nat} {s body : List Char}
    (h : Unclosed quote escapes allowed false body) : Unclosed quote escapes allowed false (ownLine s ++ body) := by
  refine unclosed_append (fun c hc => ?_) h
  rw [ownLine] at hc
  split at hc
  · obtain rfl := List.mem_singleton.mp hc
    exact ⟨hquote.symm, by decide⟩
  · simp at hc

/-! ### Whole texts -/

theorem write_append (quoting : Quoting) (s rest : List Char) :
    quoting.write s ++ rest = quoting.mark ++ (quoting.body s ++ (quoting.mark ++ rest)) := by
  rw [Quoting.write, List.append_assoc, List.append_assoc]

theorem decodeWith?_some {decode : List Char → Option (List Char)} {body s rest : List Char} (h : decode body = some s) :
    decodeWith? decode (some (body, rest)) = some (String.ofList s, rest) := by
  simp [decodeWith?, h]

theorem readLineText?_basic (s rest : List Char) :
    readLineText? (Quoting.basic.write s ++ rest) = some (String.ofList s, rest) := by
  have hsplit := splitBasic_append (unclosed_escapeBody false (Nat.le_refl 0) s) rest
  rw [write_append]
  change decodeWith? decodeBasic? (splitBasic false (escapeBody false 0 0 s ++ '"' :: rest)) = _
  rw [hsplit]
  exact decodeWith?_some (decodeBasic?_body s)

theorem readLineText?_literal {s : List Char} (h : Quoting.literal.fits s) (rest : List Char) :
    readLineText? (Quoting.literal.write s ++ rest) = some (String.ofList s, rest) := by
  obtain ⟨-, hquote⟩ := literal_fits_iff.mp h
  have hsplit := splitLiteral_append (fun c hc => (hquote c hc).1) rest
  rw [write_append]
  change decodeWith? decodeLiteral? (splitLiteral (s ++ '\'' :: rest)) = _
  rw [hsplit]
  exact decodeWith?_some (decodeLiteral?_body h)

theorem readText?_eq_readLineText? {quote : Char} {s : List Char} (h : ∀ rest, s ≠ quote :: quote :: rest)  :
    readText? (quote :: s) = readLineText? (quote :: s) := by
  unfold readText?
  split
  · next rest heq =>
    obtain ⟨rfl, rfl⟩ := List.cons.inj heq
    exact absurd rfl (h rest)
  · next rest heq =>
    obtain ⟨rfl, rfl⟩ := List.cons.inj heq
    exact absurd rfl (h rest)
  · rfl

/-- A text between single marks on a line does not begin with three of them. -/
theorem ne_of_frontRun_eq_zero {quote : Char} (hquote : quote ≠ '\n') {body : List Char} (h : frontRun quote body = 0)
    (rest rest' : List Char) : body ++ quote :: '\n' :: rest ≠ quote :: quote :: rest' := by
  intro heq
  cases body with
  | nil =>
    have hline := (List.cons.inj (List.cons.inj heq).2).1
    exact hquote hline.symm
  | cons c body =>
    obtain rfl : c = quote := (List.cons.inj heq).1
    rw [frontRun_cons_self] at h
    omega

theorem readText?_basic (s rest : List Char) :
    readText? (Quoting.basic.write s ++ '\n' :: rest) = some (String.ofList s, '\n' :: rest) := by
  have hline := readLineText?_basic s ('\n' :: rest)
  have hfront : frontRun '"' (escapeBody false 0 0 s) = 0 :=
    Nat.le_zero.mp (frontRun_escapeBody false (Nat.le_refl 0) s)
  have hsingle := ne_of_frontRun_eq_zero (by decide) hfront rest
  rw [write_append] at hline ⊢
  exact (readText?_eq_readLineText? hsingle).trans hline

theorem readText?_literal {s : List Char} (h : Quoting.literal.fits s) (rest : List Char) :
    readText? (Quoting.literal.write s ++ '\n' :: rest) = some (String.ofList s, '\n' :: rest) := by
  have hline := readLineText?_literal h ('\n' :: rest)
  have hfront : frontRun '\'' s = 0 := by
    obtain ⟨-, hquote⟩ := literal_fits_iff.mp h
    cases s with
    | nil => rfl
    | cons c s => exact frontRun_cons_of_ne (hquote c List.mem_cons_self).1 s
  have hsingle := ne_of_frontRun_eq_zero (by decide) hfront rest
  rw [write_append] at hline ⊢
  exact (readText?_eq_readLineText? hsingle).trans hline

theorem readText?_multilineBasic (s rest : List Char) :
    readText? (Quoting.multilineBasic.write s ++ '\n' :: rest) = some (String.ofList s, '\n' :: rest) := by
  have hopen : Unclosed '"' true 2 false (Quoting.multilineBasic.body s) :=
    unclosed_ownLine (by decide) (unclosed_escapeBody true (Nat.zero_le 2) s)
  have hsplit := splitMultiline_append hopen (show ('\n' :: rest).head? ≠ some '"' by simp)
  rw [write_append]
  change decodeWith? decodeMultilineBasic? (splitMultiline '"' true false (_ ++ '"' :: '"' :: '"' :: '\n' :: rest)) = _
  rw [hsplit]
  exact decodeWith?_some (decodeMultilineBasic?_body s)

theorem readText?_multilineLiteral {s : List Char} (h : Quoting.multilineLiteral.fits s) (rest : List Char) :
    readText? (Quoting.multilineLiteral.write s ++ '\n' :: rest) = some (String.ofList s, '\n' :: rest) := by
  obtain ⟨-, hrun⟩ := multilineLiteral_fits_iff.mp h
  have hopen : Unclosed '\'' false 2 false (Quoting.multilineLiteral.body s) :=
    unclosed_ownLine (by decide) (unclosed_of_longestRun hrun)
  have hsplit := splitMultiline_append hopen (show ('\n' :: rest).head? ≠ some '\'' by simp)
  rw [write_append]
  change decodeWith? decodeMultilineLiteral? (splitMultiline '\'' false false (_ ++ '\'' :: '\'' :: '\'' :: '\n' :: rest)) = _
  rw [hsplit]
  exact decodeWith?_some (decodeMultilineLiteral?_body h)

/-- Only forms with escapes are chosen for texts that do not fit them. -/
theorem fits_quotingOf (s : List Char) :
    quotingOf s = .basic ∨ quotingOf s = .multilineBasic ∨ (quotingOf s).fits s := by
  unfold quotingOf
  split
  · next quoting hfound =>
    have hfits := List.find?_some hfound
    exact .inr (.inr hfits)
  · split
    · exact .inr (.inl rfl)
    · exact .inl rfl

/-- A text that is written in front of a line break is read back. -/
theorem readText?_writeText (s rest : List Char) :
    readText? (writeText s ++ '\n' :: rest) = some (String.ofList s, '\n' :: rest) := by
  rw [writeText]
  have hfits := fits_quotingOf s
  cases hquoting : quotingOf s with
  | basic => exact readText?_basic s rest
  | multilineBasic => exact readText?_multilineBasic s rest
  | literal => exact readText?_literal (by simpa [hquoting] using hfits) rest
  | multilineLiteral => exact readText?_multilineLiteral (by simpa [hquoting] using hfits) rest

/-- A quoted key is read back in front of anything. -/
theorem readLineText?_keyQuoting (s rest : List Char) :
    readLineText? ((keyQuoting s).write s ++ rest) = some (String.ofList s, rest) := by
  unfold keyQuoting
  split
  · next quoting hfound =>
    have hfits := List.find?_some hfound
    have hmem := List.mem_of_find?_eq_some hfound
    obtain rfl | rfl : quoting = .basic ∨ quoting = .literal := by simpa using hmem
    · exact readLineText?_basic s rest
    · exact readLineText?_literal hfits rest
  · exact readLineText?_basic s rest

/-- A backslash and three single quotes leave no form without escapes, and of three quotes in a row the last has one. -/
example : writeText "\\'''\n\"\"\"".toList = "\"\"\"\n\\\\'''\n\"\"\\\"\"\"\"".toList := by
  decide

end NowPlaying.Toml
