import NowPlaying.Proofs.Template.Compilation
import NowPlaying.Proofs.Template.Spelling

/-!
# Formats one behind the other

A format that is accepted ends in literal text, perhaps none, and so leaves nothing open for what is put behind it. The tokens of the whole are those of the two parts, with the texts at the seam made one; a fault of the second part is the same fault further on; and the two parts are rendered one after the other.

One thing can go wrong at the seam: a brace on either side makes an opener that neither part has. The proof goes along the reading of the first part. Only its last text meets the second part, and the scan of the second part differs from its scan alone by the position that it begins at.
-/

namespace NowPlaying

open Template Text

/-- The same fault behind a text of some bytes. -/
def Malformed.after (size : Nat) (what : Malformed) : Malformed := ⟨size + what.position, what.fault⟩

namespace Template

/-! ### Positions

The readers look at the text alone. Where a reading begins is added to every position that it reports. -/

/-- What a reader finds when a text of some bytes is put in front. -/
def moved (size : Nat) (found : Except Malformed Directive) : Except Malformed Directive :=
  match found with
  | .error what => .error (what.after size)
  | .ok d => .ok ⟨d.token, d.rest, size + d.next⟩

theorem fault_add (size position : Nat) (what : Fault) : fault (size + position) what = moved size (fault position what) := rfl

theorem readCallEnd_add (size opener position : Nat) (token : Token) (s : List Char) :
    readCallEnd (size + opener) (size + position) token s = moved size (readCallEnd opener position token s) := by
  unfold readCallEnd
  obtain ⟨tail, found⟩ := upTo markAt? s
  cases found with
  | none => rfl
  | some found =>
    obtain ⟨mark, rest⟩ := found
    cases mark with
    | closer =>
      simp only [Nat.add_assoc, fault_add]
      split <;> rfl
    | opener | paren | endParen => simp only [Nat.add_assoc, fault_add]

theorem readArgument_add (size opener paren : Nat) (helper s : List Char) :
    readArgument (size + opener) (size + paren) helper s = moved size (readArgument opener paren helper s) := by
  unfold readArgument
  obtain ⟨argument, found⟩ := upTo markAt? s
  cases found with
  | none => rfl
  | some found =>
    obtain ⟨mark, rest⟩ := found
    cases mark with
    | endParen =>
      simp only [Nat.add_assoc, fault_add, readCallEnd_add]
      split <;> rfl
    | opener | closer | paren => simp only [Nat.add_assoc, fault_add]

theorem readDirective_add (size opener : Nat) (s : List Char) :
    readDirective (size + opener) s = moved size (readDirective opener s) := by
  unfold readDirective
  obtain ⟨name, found⟩ := upTo markAt? s
  cases found with
  | none => rfl
  | some found =>
    obtain ⟨mark, rest⟩ := found
    cases mark with
    | closer =>
      simp only [Nat.add_assoc, fault_add]
      split <;> rfl
    | paren =>
      simp only [Nat.add_assoc, fault_add, readArgument_add]
      split <;> rfl
    | opener | endParen => simp only [Nat.add_assoc, fault_add]

theorem scan_of_upTo_none {position : Nat} {s text : List Char} (h : upTo openerAt? s = (text, none)) :
    scan position s = .ok (literal text) := by
  obtain ⟨rfl, hunopened⟩ := upTo_openerAt?_eq_none_iff.mp h
  exact scan_of_unopened hunopened

theorem scan_of_upTo_some {position : Nat} {s text body : List Char} (h : upTo openerAt? s = (text, some body)) :
    scan position s =
      readDirective (position + byteSize text) body >>= fun d =>
        (scan d.next d.rest).map fun tokens => literal text ++ d.token :: tokens := by
  obtain ⟨rfl, hunopened, hlast⟩ := upTo_openerAt?_eq_some_iff.mp h
  exact scan_of_opener hunopened hlast

theorem scan_add (size position : Nat) (s : List Char) :
    scan (size + position) s = (scan position s).mapError (Malformed.after size) := by
  fun_induction scan position s with
  | case1 position s text hopening => exact scan_of_upTo_none hopening
  | case2 position s text body hopening what hdirective =>
    rw [scan_of_upTo_some hopening, Nat.add_assoc, readDirective_add, hdirective]
    rfl
  | case3 position s text body hopening d hdirective what hrest ih =>
    rw [scan_of_upTo_some hopening, Nat.add_assoc, readDirective_add, hdirective]
    change (scan (size + d.next) d.rest).map _ = _
    rw [ih, hrest]
    rfl
  | case4 position s text body hopening d hdirective tokens hrest ih =>
    rw [scan_of_upTo_some hopening, Nat.add_assoc, readDirective_add, hdirective]
    change (scan (size + d.next) d.rest).map _ = _
    rw [ih, hrest]
    rfl

end Template

/-! ### Tokens one behind the other -/

/-- The tokens of two formats put together. A text at the end of the first and a text at the front of the second are one text. -/
def joinTokens : List Token → List Token → List Token
  | [.literal text], .literal more :: rest => .literal (text ++ more) :: rest
  | token :: tokens, rest => token :: joinTokens tokens rest
  | [], rest => rest

theorem joinTokens_cons_cons (token next : Token) (tokens rest : List Token) :
    joinTokens (token :: next :: tokens) rest = token :: joinTokens (next :: tokens) rest := by
  rw [joinTokens]
  simp

theorem joinTokens_directive_cons {token : Token} (h : token.IsDirective) (tokens rest : List Token) :
    joinTokens (token :: tokens) rest = token :: joinTokens tokens rest := by
  cases token with
  | literal text => exact absurd h id
  | lookup name => rw [joinTokens]; simp
  | call helper argument => rw [joinTokens]; simp

namespace Template

theorem joinTokens_literal_append (text : List Char) (token : Token) (tokens rest : List Token) :
    joinTokens (literal text ++ token :: tokens) rest = literal text ++ joinTokens (token :: tokens) rest := by
  rw [literal]
  split
  · rfl
  · exact joinTokens_cons_cons ..

/-- Two texts are one text where nothing else stands between them, and none behind the second but a directive. -/
theorem joinTokens_literal (text more : List Char) (rest : List Token) (h : ∀ next ∈ rest.head?, next.IsDirective) :
    joinTokens (literal text) (literal more ++ rest) = literal (text ++ more) ++ rest := by
  by_cases htext : text = []
  · rw [htext]
    rfl
  · have hboth : text ++ more ≠ [] := fun hnil => htext (List.append_eq_nil_iff.mp hnil).1
    rw [literal, if_neg htext, literal, literal, if_neg hboth]
    by_cases hmore : more = []
    · rw [if_pos hmore, hmore, List.append_nil, List.nil_append]
      cases rest with
      | nil => rfl
      | cons next rest =>
        have hnext := h next rfl
        cases next with
        | literal other => exact absurd hnext id
        | lookup name => rfl
        | call helper argument => rfl
    · rw [if_neg hmore, List.singleton_append, List.singleton_append, joinTokens, String.ofList_append]

/-! ### The seam -/

theorem isDirective_of_readDirective {opener : Nat} {s : List Char} {d : Directive} (h : readDirective opener s = .ok d) :
    d.token.IsDirective := by
  obtain ⟨directive, -, -, htoken, -⟩ := readDirective_eq_ok_iff.mp h
  exact htoken ▸ directive.token_isDirective

theorem scan_literal_append {position : Nat} {text more : List Char} (htext : Unopened text)
    (hseam : ¬ Mark.opener.Straddles text more) :
    scan position (text ++ more) = (scan (position + byteSize text) more).map (joinTokens (literal text)) := by
  have hwhole := upTo_append (clear_openerAt?_iff.mpr ⟨htext, hseam⟩)
  obtain ⟨before, found, hopening⟩ : ∃ before found, upTo openerAt? more = (before, found) := ⟨_, _, rfl⟩
  rw [hopening] at hwhole
  cases found with
  | none =>
    have hjoin := joinTokens_literal text before [] (by simp)
    rw [List.append_nil, List.append_nil] at hjoin
    rw [scan_of_upTo_none hwhole, scan_of_upTo_none hopening, Except.map, hjoin]
  | some body =>
    rw [scan_of_upTo_some hwhole, scan_of_upTo_some hopening, byteSize_append, ← Nat.add_assoc]
    cases hdirective : readDirective (position + byteSize text + byteSize before) body with
    | error what => rfl
    | ok d =>
      change (scan d.next d.rest).map _ = ((scan d.next d.rest).map _).map _
      cases scan d.next d.rest with
      | error what => rfl
      | ok tokens =>
        have hnext : ∀ next ∈ (d.token :: tokens).head?, next.IsDirective := by
          simpa using isDirective_of_readDirective hdirective
        exact congrArg Except.ok (joinTokens_literal text before (d.token :: tokens) hnext).symm

theorem Reading.WellFormed.scan_append {reading : Reading} (hreading : reading.WellFormed) {position : Nat} {more : List Char}
    (hseam : ¬ Mark.opener.Straddles reading.last more) :
    scan position (reading.chars ++ more) =
      (scan (position + byteSize reading.chars) more).map (joinTokens reading.tokens) := by
  induction reading generalizing position with
  | nil last => exact scan_literal_append (wellFormed_nil.mp hreading) hseam
  | cons text directive reading ih =>
    obtain ⟨⟨htext, hlast⟩, hdirective, hrest⟩ := wellFormed_cons.mp hreading
    let start := position + byteSize text
    have hread : readDirective start (directive.inner ++ (Mark.closer.chars ++ (reading.chars ++ more))) =
        .ok ⟨directive.token, reading.chars ++ more, start + byteSize directive.chars⟩ :=
      readDirective_eq_ok_iff.mpr ⟨directive, hdirective, rfl, rfl, rfl⟩
    have hend : position + byteSize (text ++ (directive.chars ++ reading.chars)) =
        start + byteSize directive.chars + byteSize reading.chars := by
      rw [byteSize_append, byteSize_append, ← Nat.add_assoc, ← Nat.add_assoc]
    rw [chars_cons, List.append_assoc, List.append_assoc, Written.chars_append, scan_of_opener htext hlast, hread]
    change (scan _ (reading.chars ++ more)).map _ = _
    rw [ih hrest hseam, hend, tokens_cons]
    cases scan (start + byteSize directive.chars + byteSize reading.chars) more with
    | error what => rfl
    | ok tokens =>
      have hjoin := joinTokens_literal_append text directive.token reading.tokens tokens
      rw [joinTokens_directive_cons directive.token_isDirective] at hjoin
      exact congrArg Except.ok hjoin.symm

theorem Reading.getLast?_chars {reading : Reading} {c : Char} (h : reading.last.getLast? = some c) :
    reading.chars.getLast? = some c := by
  rw [chars, List.getLast?_append, h]
  rfl

end Template

/-- The tokens of a whole format, from those of its first part and the scan of the second. -/
theorem tokenize_append_eq {first second : String} {tokens : List Token} (hfirst : tokenize first = .ok tokens)
    (hseam : ¬ (first.toList.getLast? = some '{' ∧ second.toList.head? = some '{')) :
    tokenize (first ++ second) =
      ((tokenize second).mapError (Malformed.after first.utf8ByteSize)).map (joinTokens tokens) := by
  obtain ⟨reading, ⟨hreading, hchars⟩, rfl⟩ := tokenize_eq_ok_iff.mp hfirst
  have hstraddle : ¬ Mark.opener.Straddles reading.last second.toList := by
    intro h
    obtain ⟨c, hmark, hlast, hhead⟩ := h
    obtain rfl : '{' = c := (List.cons.inj hmark).1
    exact hseam ⟨hchars ▸ reading.getLast?_chars hlast, hhead⟩
  have hsize : 0 + byteSize reading.chars = first.utf8ByteSize + 0 := by
    rw [hchars, byteSize_toList, Nat.zero_add, Nat.add_zero]
  rw [tokenize, tokenize, String.toList_append, ← hchars, hreading.scan_append hstraddle, hsize, scan_add]

/-! ### Rendering -/

theorem render_literal_cons (registry : Registry) (context : Context) (text : String) (tokens : List Token) :
    render registry context (.literal text :: tokens) = (render registry context tokens).map (text ++ ·) :=
  render_cons registry context (.literal text) tokens

theorem render_joinTokens (registry : Registry) (context : Context) (tokens rest : List Token) :
    render registry context (joinTokens tokens rest) = render registry context (tokens ++ rest) := by
  fun_induction joinTokens tokens rest with
  | case1 text more rest =>
    rw [List.singleton_append, render_literal_cons, render_literal_cons, render_literal_cons]
    cases render registry context rest with
    | error what => rfl
    | ok output => exact congrArg Except.ok String.append_assoc
  | case2 rest token tokens hseam ih => rw [List.cons_append, render_cons, render_cons, ih]
  | case3 rest => rfl

theorem expand_of_tokenize {format : String} {tokens : List Token} (registry : Registry) (context : Context)
    (h : tokenize format = .ok tokens) : (Engine.mk registry none).expand format context = render registry context tokens := by
  rw [Engine.expand_eq_unlessFailed, render_eq_unlessFailed, lengthError?, syntaxError?, helperError?, tokensOf, h]
  rfl

/-- Behind an accepted format, where no opener arises at the seam, a second format keeps its tokens, its fault and its output. -/
theorem tokenize_append {first second : String} {tokens : List Token} (hfirst : tokenize first = .ok tokens)
    (hseam : ¬ (first.toList.getLast? = some '{' ∧ second.toList.head? = some '{')) :
    (∀ more, tokenize second = .ok more → tokenize (first ++ second) = .ok (joinTokens tokens more)) ∧
    (∀ position fault, tokenize second = .error ⟨position, fault⟩ →
      tokenize (first ++ second) = .error ⟨first.utf8ByteSize + position, fault⟩) ∧
    ∀ more, tokenize second = .ok more → ∀ registry context,
      (Engine.mk registry none).expand (first ++ second) context =
        match (Engine.mk registry none).expand first context, (Engine.mk registry none).expand second context with
        | .error error, _ => .error error
        | .ok _, .error error => .error error
        | .ok output, .ok rest => .ok (output ++ rest) := by
  have hwhole := tokenize_append_eq hfirst hseam
  have hjoined : ∀ more, tokenize second = .ok more → tokenize (first ++ second) = .ok (joinTokens tokens more) := by
    intro more hsecond
    rw [hwhole, hsecond]
    rfl
  refine ⟨hjoined, fun position fault hsecond => ?_, fun more hsecond registry context => ?_⟩
  · rw [hwhole, hsecond]
    rfl
  · rw [expand_of_tokenize registry context (hjoined more hsecond), expand_of_tokenize registry context hfirst,
      expand_of_tokenize registry context hsecond, render_joinTokens, render_append]
    cases render registry context tokens with
    | error error => rfl
    | ok output => cases render registry context more <;> rfl

/-- A brace that ends the first format and a text that begins the second are one text. -/
theorem tokenize_append_brace :
    tokenize "\x7b\x7ba\x7d\x7d\x7b" = .ok [.lookup "a", .literal "\x7b"] ∧
      tokenize ("\x7b\x7ba\x7d\x7d\x7b" ++ "é\x7b\x7bb\x7d\x7d") = .ok [.lookup "a", .literal "\x7bé", .lookup "b"] ∧
      tokenize ("\x7b\x7ba\x7d\x7d\x7b" ++ "é\x7b\x7bb") = .error ⟨8, .unclosedDirective⟩ := by
  have hfirst : tokenize "\x7b\x7ba\x7d\x7d\x7b" = .ok [.lookup "a", .literal "\x7b"] := by decide +kernel
  have haccepted : tokenize "é\x7b\x7bb\x7d\x7d" = .ok [.literal "é", .lookup "b"] := by decide +kernel
  have hfaulty : tokenize "é\x7b\x7bb" = .error ⟨2, .unclosedDirective⟩ := by decide +kernel
  refine ⟨hfirst, ?_, ?_⟩
  · exact (tokenize_append hfirst (by decide)).1 _ haccepted
  · exact (tokenize_append hfirst (by decide)).2.1 _ _ hfaulty

/-- Two braces that meet at the seam are an opener. -/
example : tokenize "\x7b" = .ok [.literal "\x7b"] ∧ tokenize "\x7ba\x7d\x7d" = .ok [.literal "\x7ba\x7d\x7d"] ∧
    tokenize ("\x7b" ++ "\x7ba\x7d\x7d") = .ok [.lookup "a"] := by
  decide +kernel

end NowPlaying
