import NowPlaying.Proofs.Template.Faults

/-!
# Invalid formats and unfinished ones

A fault inside a format stays where it is and what it is, whatever is put behind the format. A format that only ends too early can be completed: an open call by one more character and the closing marks, a directive by its closer. The one exception is a call with a text behind it, since the fault of such a text is not noticed before the closer comes.

For the first half, what breaks a directive still breaks it with more behind it. For the second half, the missing end of the directive is written down, and the grammar accepts the whole.
-/

namespace NowPlaying

open Template Text

/-! ### Faults that stay -/

namespace Template.Begun

variable {begun : Begun} {mark : Mark} {rest : List Char} {fault : Fault}

theorem Breaks.append (h : begun.Breaks rest fault) (hinside : ¬ fault.IsUnclosed) (more : List Char) :
    begun.Breaks (rest ++ more) fault := by
  cases h with
  | mark rest wellFormed last refused =>
    rw [List.append_assoc]
    exact .mark (rest ++ more) wellFormed last refused
  | textAfterCall rest wellFormed blank visible last =>
    rw [List.append_assoc, List.append_assoc]
    exact .textAfterCall (rest ++ more) wellFormed blank visible last
  | unclosedDirective => exact absurd (.inl rfl) hinside
  | unclosedCall => exact absurd (.inr rfl) hinside

end Template.Begun

theorem tokenize_append_of_error {format : String} {what : Malformed} (h : tokenize format = .error what)
    (hinside : ¬ what.fault.IsUnclosed) (more : String) : tokenize (format ++ more) = .error what := by
  obtain ⟨front, rest, accepted, begun, rfl, hposition, hends, hbreaks⟩ := tokenize_eq_error_iff_breaks.mp h
  refine tokenize_eq_error_iff_breaks.mpr ⟨front, rest ++ more, accepted, begun, String.append_assoc, hposition, hends, ?_⟩
  rw [String.toList_append]
  exact hbreaks.append hinside more.toList

/-! ### What an unfinished format ends in -/

namespace Template.Begun

variable {begun : Begun} {mark : Mark} {rest : List Char} {fault : Fault}

theorem not_isUnclosed_of_refusal? (h : begun.refusal? mark = some fault) : ¬ fault.IsUnclosed := by
  cases begun <;> cases mark <;> simp [refusal?] at h <;> grind [Fault.IsUnclosed]

theorem Breaks.of_unclosedDirective (h : begun.Breaks rest .unclosedDirective) :
    begun = .nothing ∧ ∃ whole : Begun, rest = whole.chars ∧ whole.WellFormed ∧ whole.LacksCloser := by
  cases h with
  | mark rest wellFormed last refused => exact absurd (.inl rfl) (not_isUnclosed_of_refusal? refused)
  | unclosedDirective wellFormed lacksCloser => exact ⟨rfl, _, rfl, wellFormed, lacksCloser⟩

theorem Breaks.of_unclosedCall (h : begun.Breaks rest .unclosedCall) :
    ∃ helper text, begun.chars ++ rest = (inArgument helper text).chars ∧ (inArgument helper text).WellFormed := by
  cases h with
  | mark rest wellFormed last refused => exact absurd (.inr rfl) (not_isUnclosed_of_refusal? refused)
  | unclosedCall wellFormed => exact ⟨_, _, by simp only [chars, List.append_assoc], wellFormed⟩

end Template.Begun

section

variable {format accepted : String} {what : Malformed}

theorem exists_endsIn_of_unclosedDirective (h : tokenize format = .error what) (hfault : what.fault = .unclosedDirective) :
    ∃ accepted begun, EndsIn format accepted begun ∧ begun.LacksCloser := by
  obtain ⟨front, rest, accepted, begun, rfl, -, hends, hbreaks⟩ := tokenize_eq_error_iff_breaks.mp h
  obtain ⟨rfl, whole, hrest, hwhole, hlacks⟩ := Begun.Breaks.of_unclosedDirective (hfault ▸ hbreaks)
  refine ⟨accepted, whole, ⟨hends.tokens, hends.last, hwhole, ?_⟩, hlacks⟩
  rw [String.toList_append, hends.chars, hrest, Begun.chars, List.append_nil]

theorem exists_endsIn_of_unclosedCall (h : tokenize format = .error what) (hfault : what.fault = .unclosedCall) :
    ∃ accepted helper text, EndsIn format accepted (.inArgument helper text) := by
  obtain ⟨front, rest, accepted, begun, rfl, -, hends, hbreaks⟩ := tokenize_eq_error_iff_breaks.mp h
  obtain ⟨helper, text, hchars, hcall⟩ := Begun.Breaks.of_unclosedCall (hfault ▸ hbreaks)
  refine ⟨accepted, helper, text, hends.tokens, hends.last, hcall, ?_⟩
  rw [String.toList_append, hends.chars, List.append_assoc, hchars]

/-! ### Completions -/

/-- A text that makes a directive of what has begun makes an accepted format of the whole. -/
theorem EndsIn.exists_tokens {begun : Begun} (h : EndsIn format accepted begun) {directive : Written}
    (hdirective : directive.WellFormed) {more : String} (hchars : begun.chars ++ more.toList = directive.chars) :
    ∃ tokens, tokenize (format ++ more) = .ok tokens := by
  obtain ⟨tokens, htokens⟩ := h.tokens
  have hwhole : format ++ more = accepted ++ String.ofList directive.chars := by
    apply String.toList_injective
    rw [String.toList_append, String.toList_append, String.toList_ofList, h.chars, List.append_assoc, hchars]
  have hseam : ¬ (accepted.toList.getLast? = some '{' ∧ (String.ofList directive.chars).toList.head? = some '{') :=
    fun hbrace => h.last hbrace.1
  rw [hwhole, tokenize_append_eq htokens hseam, tokenize_directive hdirective]
  exact ⟨_, rfl⟩

/-- One more letter makes a name of any text without marks. -/
theorem Template.isBody_concat_letter {text : List Char} (h : Unmarked text) : IsBody (text ++ ['x']) := by
  have hletter (mark : Mark) : 'x' ∉ mark.chars := by cases mark <;> decide
  exact ⟨h.concat hletter, 'x', List.mem_append_right text List.mem_cons_self, by decide⟩

theorem EndsIn.exists_tokens_of_inName {text : List Char} (h : EndsIn format accepted (.inName text)) :
    ∃ tokens, tokenize (format ++ "x\x7d\x7d") = .ok tokens := by
  have hdirective : (Written.lookup (text ++ ['x'])).WellFormed := by
    refine ⟨isBody_concat_letter h.wellFormed, ?_⟩
    rw [List.getLast?_concat]
    decide
  refine h.exists_tokens hdirective ?_
  simp [Begun.chars, Written.chars, Written.inner, Mark.chars]

theorem EndsIn.exists_tokens_of_inArgument {helper text : List Char} (h : EndsIn format accepted (.inArgument helper text)) :
    ∃ tokens, tokenize (format ++ "x)\x7d\x7d") = .ok tokens := by
  obtain ⟨hhelper, htext⟩ := h.wellFormed
  have hdirective : (Written.call helper (text ++ ['x']) []).WellFormed := ⟨hhelper, isBody_concat_letter htext, by simp⟩
  refine h.exists_tokens hdirective ?_
  simp [Begun.chars, Written.chars, Written.inner, Mark.chars]

theorem EndsIn.exists_tokens_of_blank {helper argument text : List Char}
    (h : EndsIn format accepted (.behindCall helper argument text)) (hblank : ∀ c ∈ text, isBlank c) :
    ∃ tokens, tokenize (format ++ "\x7d\x7d") = .ok tokens := by
  obtain ⟨hhelper, hargument, -⟩ := h.wellFormed
  have hdirective : (Written.call helper argument text).WellFormed := ⟨hhelper, hargument, hblank⟩
  refine h.exists_tokens hdirective ?_
  simp [Begun.chars, Written.chars, Written.inner, Mark.chars]

/-- The brace that a format ends with may be the first one of the closer. -/
theorem EndsIn.exists_tokens_of_brace {helper argument blanks : List Char}
    (h : EndsIn format accepted (.behindCall helper argument (blanks ++ ['}']))) (hblank : ∀ c ∈ blanks, isBlank c) :
    ∃ tokens, tokenize (format ++ "\x7d") = .ok tokens := by
  obtain ⟨hhelper, hargument, -⟩ := h.wellFormed
  have hdirective : (Written.call helper argument blanks).WellFormed := ⟨hhelper, hargument, hblank⟩
  refine h.exists_tokens hdirective ?_
  simp [Begun.chars, Written.chars, Written.inner, Mark.chars]

/-! ### Calls with a text behind them -/

/-- The format ends behind a call in a text that is not blank, and not blank up to a single closing brace at its end. -/
def Stuck (format : String) : Prop :=
  ∃ accepted helper argument text, EndsIn format accepted (.behindCall helper argument text) ∧
    (∃ c ∈ text, isBlank c = false) ∧ ¬ ∃ blanks, (∀ c ∈ blanks, isBlank c) ∧ text = blanks ++ ['}']

/-- A closer behind blanks that begins in a text without marks ends behind it. -/
theorem Template.blank_or_brace_of_append {text more blanks rest : List Char} (htext : Unmarked text)
    (hblank : ∀ c ∈ blanks, isBlank c) (h : text ++ more = blanks ++ (Mark.closer.chars ++ rest)) :
    (∀ c ∈ text, isBlank c) ∨ text = blanks ++ ['}'] := by
  obtain ⟨tail, rfl, -⟩ | ⟨tail, rfl, htail⟩ := List.append_eq_append_iff.mp h
  · exact .inl fun c hc => hblank c (List.mem_append_left tail hc)
  · -- the text reaches to the closer, between its two braces or behind it
    match tail, htail with
    | [], _ => exact .inl (by simpa using hblank)
    | [c], htail =>
      obtain rfl : '}' = c := (List.cons.inj htail).1
      exact .inr rfl
    | c :: d :: tail, htail =>
      simp only [Mark.chars, List.cons_append, List.cons.injEq] at htail
      obtain ⟨rfl, rfl, -⟩ := htail
      exact absurd ⟨blanks, tail, by simp [Mark.chars]⟩ (htext .closer)

theorem Stuck.exists_error (h : Stuck format) (more : String) : ∃ other, tokenize (format ++ more) = .error other := by
  obtain ⟨accepted, helper, argument, text, hends, ⟨c, hc, hvisible⟩, hbrace⟩ := h
  obtain ⟨hhelper, hargument, htext⟩ := hends.wellFormed
  obtain ⟨reading, hreading, hlast, hchars⟩ := hends.exists_reading
  have hbody : (format ++ more).toList = reading.chars ++ (Mark.opener.chars ++
      (helper ++ (Mark.paren.chars ++ (argument ++ (Mark.endParen.chars ++ (text ++ more.toList)))))) := by
    rw [String.toList_append, hends.chars, hchars, Begun.chars]
    simp only [List.append_assoc]
  cases hfails : readDirective (0 + byteSize reading.chars)
      (helper ++ (Mark.paren.chars ++ (argument ++ (Mark.endParen.chars ++ (text ++ more.toList))))) with
  | error other => exact ⟨other, scan_eq_error_iff.mpr ⟨reading, _, hreading, hlast, hbody, hfails⟩⟩
  | ok d =>
    -- the call is closed behind blanks only, so its text is blank up to a brace of the closer
    rw [readDirective_call hhelper, readArgument_call hargument] at hfails
    obtain ⟨blanks, hblank, hclosed, -⟩ := readCallEnd_eq_ok_iff.mp hfails
    obtain hall | hend := blank_or_brace_of_append htext hblank hclosed
    · rw [hall c hc] at hvisible
      contradiction
    · exact absurd ⟨blanks, hblank, hend⟩ hbrace

theorem exists_completion {begun : Begun} (h : EndsIn format accepted begun) (hlacks : begun.LacksCloser)
    (hstuck : ¬ Stuck format) : ∃ more tokens, tokenize (format ++ more) = .ok tokens := by
  cases begun with
  | nothing => exact hlacks.elim
  | inArgument helper text => exact hlacks.elim
  | inName text => exact ⟨_, h.exists_tokens_of_inName⟩
  | behindCall helper argument text =>
    by_cases hblank : ∀ c ∈ text, isBlank c
    · exact ⟨_, h.exists_tokens_of_blank hblank⟩
    · have hvisible : ∃ c ∈ text, isBlank c = false := by simpa using hblank
      obtain ⟨blanks, hblanks, rfl⟩ := not_not.mp fun hbrace => hstuck ⟨accepted, helper, argument, text, h, hvisible, hbrace⟩
      exact ⟨_, h.exists_tokens_of_brace hblanks⟩

/-- A fault inside a format is there whatever follows. An open call is completed by one letter and the closing marks, and an open directive can be completed exactly when it is no call with a text behind it. -/
theorem invalid_or_unfinished (h : tokenize format = .error what) :
    (¬ what.fault.IsUnclosed → ∀ more, tokenize (format ++ more) = .error what) ∧
    (what.fault = .unclosedCall → ∃ tokens, tokenize (format ++ "x)\x7d\x7d") = .ok tokens) ∧
    (what.fault = .unclosedDirective →
      ((∃ more tokens, tokenize (format ++ more) = .ok tokens) ↔ ¬ Stuck format) ∧
      (Stuck format → ∀ more, ∃ other, tokenize (format ++ more) = .error other)) := by
  refine ⟨fun hinside more => tokenize_append_of_error h hinside more, fun hfault => ?_, fun hfault => ⟨⟨?_, ?_⟩, ?_⟩⟩
  · obtain ⟨accepted, helper, text, hends⟩ := exists_endsIn_of_unclosedCall h hfault
    exact hends.exists_tokens_of_inArgument
  · rintro ⟨more, tokens, htokens⟩ hstuck
    obtain ⟨other, hother⟩ := hstuck.exists_error more
    rw [htokens] at hother
    contradiction
  · intro hstuck
    obtain ⟨accepted, begun, hends, hlacks⟩ := exists_endsIn_of_unclosedDirective h hfault
    exact exists_completion hends hlacks hstuck
  · exact fun hstuck more => hstuck.exists_error more

/-- A parenthesis that closes nothing stays at fault. A letter behind a call does too, although its fault is not found yet, and a brace behind the letter makes no difference. -/
theorem invalid_or_unfinished_braces :
    (∀ more, tokenize ("é\x7b\x7ba\x7db)" ++ more) = .error ⟨7, .strayEndParen⟩) ∧
    tokenize "é\x7b\x7bf(a) x\x7d" = .error ⟨2, .unclosedDirective⟩ ∧
    ∀ more, ∃ other, tokenize ("é\x7b\x7bf(a) x\x7d" ++ more) = .error other := by
  have hinvalid : tokenize "é\x7b\x7ba\x7db)" = .error ⟨7, .strayEndParen⟩ := by decide +kernel
  have hunfinished : tokenize "é\x7b\x7bf(a) x\x7d" = .error ⟨2, .unclosedDirective⟩ := by decide +kernel
  have hinside : ¬ Fault.strayEndParen.IsUnclosed := by simp [Fault.IsUnclosed]
  have hends : EndsIn "é\x7b\x7bf(a) x\x7d" "é" (.behindCall ['f'] ['a'] [' ', 'x', '}']) := by
    have hhelper : ∃ c ∈ ['f'], isBlank c = false := ⟨'f', List.mem_cons_self, rfl⟩
    have hargument : ∃ c ∈ ['a'], isBlank c = false := ⟨'a', List.mem_cons_self, rfl⟩
    refine ⟨⟨[.literal "é"], by decide +kernel⟩, by decide, ⟨⟨?_, hhelper⟩, ⟨?_, hargument⟩, ?_⟩, rfl⟩ <;>
      exact fun mark => by cases mark <;> decide
  have hstuck : Stuck "é\x7b\x7bf(a) x\x7d" := by
    refine ⟨_, _, _, _, hends, ⟨'x', by simp, rfl⟩, fun ⟨blanks, hblank, htext⟩ => ?_⟩
    obtain rfl : [' ', 'x'] = blanks := List.append_cancel_right (show [' ', 'x'] ++ ['}'] = _ from htext)
    exact absurd (hblank 'x' (by decide)) (by decide)
  exact ⟨(invalid_or_unfinished hinvalid).1 hinside, hunfinished, ((invalid_or_unfinished hunfinished).2.2 rfl).2 hstuck⟩

end

end NowPlaying
