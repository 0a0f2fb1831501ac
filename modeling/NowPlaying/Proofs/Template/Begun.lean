import NowPlaying.Proofs.Template.Grammar

/-!
# Directives that have begun

A directive that cannot be read is well written up to some place, and what comes next there breaks it: a mark that may not stand there, a text behind a call, or the end of the format. The end is no place of its own, so it is reported at the parenthesis or the opener that it leaves open.

The main statement, `readDirective_eq_error_iff`, says that the reader of directives finds exactly this. In one direction it is run up to the place of the fault. In the other one the text ahead is split at its first mark, and what a reader does not refuse is handed to the next one, with a directive that has grown by the mark.
-/

namespace NowPlaying.Template

open Text

/-! ### What has begun and what breaks it -/

/-- As much of a directive as stands in front of some place: nothing, a name, a name and an argument in an open parenthesis, or a call and what follows it. -/
inductive Begun where
  | nothing
  | inName (text : List Char)
  | inArgument (helper text : List Char)
  | behindCall (helper argument text : List Char)

namespace Begun

def chars : Begun → List Char
  | .nothing => []
  | .inName text => Mark.opener.chars ++ text
  | .inArgument helper text => Mark.opener.chars ++ (helper ++ (Mark.paren.chars ++ text))
  | .behindCall helper argument text =>
    Mark.opener.chars ++ (helper ++ (Mark.paren.chars ++ (argument ++ (Mark.endParen.chars ++ text))))

/-- The text behind the last mark. -/
def text : Begun → List Char
  | .nothing => []
  | .inName text => text
  | .inArgument _ text => text
  | .behindCall _ _ text => text

def WellFormed : Begun → Prop
  | .nothing => True
  | .inName text => Unmarked text
  | .inArgument helper text => IsBody helper ∧ Unmarked text
  | .behindCall helper argument text => IsBody helper ∧ IsBody argument ∧ Unmarked text

/-- Without further marks a format ends in the directive, and the directive itself has no end. -/
def LacksCloser : Begun → Prop
  | .inName _ => True
  | .behindCall .. => True
  | _ => False

/-- The fault of a mark that may not come next. -/
def refusal? : Begun → Mark → Option Fault
  | .nothing, _ => none
  | .inName _, .opener => some .nestedOpener
  | .inName text, .closer => if trim text = [] then some .emptyExpression else none
  | .inName text, .paren => if trim text = [] then some .missingHelper else none
  | .inName _, .endParen => some .strayEndParen
  | .inArgument .., .opener => some .nestedOpener
  | .inArgument .., .closer => some .closerInCall
  | .inArgument .., .paren => some .strayParen
  | .inArgument _ text, .endParen => if trim text = [] then some .missingArgument else none
  | .behindCall .., .opener => some .nestedOpener
  | .behindCall .., .closer => none
  | .behindCall .., .paren => some .strayParen
  | .behindCall .., .endParen => some .strayEndParen

/-- The fault of a format is at the front of its rest, behind a directive that has begun. -/
inductive Breaks : Begun → List Char → Fault → Prop where
  | mark {begun : Begun} {mark : Mark} {fault : Fault} (rest : List Char) (wellFormed : begun.WellFormed)
      (last : begun.text.getLast? ≠ mark.chars.head?) (refused : begun.refusal? mark = some fault) :
      Breaks begun (mark.chars ++ rest) fault
  | textAfterCall {helper argument blanks text : List Char} {c : Char} (rest : List Char)
      (wellFormed : (Begun.behindCall helper argument (blanks ++ c :: text)).WellFormed)
      (blank : ∀ b ∈ blanks, isBlank b) (visible : isBlank c = false) (last : (c :: text).getLast? ≠ some '}') :
      Breaks (.behindCall helper argument blanks) (c :: text ++ (Mark.closer.chars ++ rest)) .textAfterCall
  | unclosedDirective {begun : Begun} (wellFormed : begun.WellFormed) (lacksCloser : begun.LacksCloser) :
      Breaks .nothing begun.chars .unclosedDirective
  | unclosedCall {helper text : List Char} (wellFormed : (Begun.inArgument helper text).WellFormed) :
      Breaks (.inName helper) (Mark.paren.chars ++ text) .unclosedCall

theorem eq_nothing_or_opener (begun : Begun) :
    begun = .nothing ∨ ∃ body, begun.chars = Mark.opener.chars ++ body := by
  cases begun with
  | nothing => exact .inl rfl
  | inName text => exact .inr ⟨_, rfl⟩
  | inArgument helper text => exact .inr ⟨_, rfl⟩
  | behindCall helper argument text => exact .inr ⟨_, rfl⟩

variable {begun : Begun} {rest : List Char} {fault : Fault}

theorem LacksCloser.opener_isPrefix (h : begun.LacksCloser) : Mark.opener.chars <+: begun.chars := by
  obtain rfl | ⟨body, hbody⟩ := begun.eq_nothing_or_opener
  · exact h.elim
  · exact ⟨body, hbody.symm⟩

/-- The opener of a broken directive is in front of the fault or at its place. -/
theorem Breaks.opener_isPrefix (h : begun.Breaks rest fault) : Mark.opener.chars <+: begun.chars ++ rest := by
  obtain rfl | ⟨body, hbody⟩ := begun.eq_nothing_or_opener
  · cases h with
    | mark rest wellFormed last refused => contradiction
    | unclosedDirective wellFormed lacksCloser => exact lacksCloser.opener_isPrefix
  · rw [hbody, List.append_assoc]
    exact List.prefix_append _ _

theorem Breaks.wellFormed (h : begun.Breaks rest fault) : begun.WellFormed := by
  cases h with
  | mark rest wellFormed last refused => exact wellFormed
  | textAfterCall rest wellFormed blank visible last =>
    obtain ⟨hhelper, hargument, htext⟩ := wellFormed
    exact ⟨hhelper, hargument, htext.of_infix (List.prefix_append _ _).isInfix⟩
  | unclosedDirective wellFormed lacksCloser => trivial
  | unclosedCall wellFormed => exact wellFormed.1.unmarked

theorem byteSize_chars_inName (text : List Char) : byteSize (inName text).chars = 2 + byteSize text := by
  rw [chars, byteSize_append]
  rfl

theorem byteSize_chars_inArgument (helper text : List Char) :
    byteSize (inArgument helper text).chars = byteSize (inName helper).chars + 1 + byteSize text := by
  rw [byteSize_chars_inName, chars]
  simp only [byteSize_append]
  change 2 + (_ + (1 + _)) = _
  omega

theorem byteSize_chars_behindCall (helper argument text : List Char) :
    byteSize (behindCall helper argument text).chars =
      byteSize (inArgument helper argument).chars + 1 + byteSize text := by
  rw [byteSize_chars_inArgument, byteSize_chars_inName, chars]
  simp only [byteSize_append]
  change 2 + (_ + (1 + (_ + (1 + _)))) = _
  omega

end Begun

/-! ### What the readers do behind a directive that has begun -/

section

variable {opener : Nat} {token : Token} {name helper argument text s rest : List Char} {mark : Mark} {fault : Fault}

theorem readDirective_paren (h : IsBody helper) :
    readDirective opener (helper ++ (Mark.paren.chars ++ s)) =
      readArgument opener (opener + byteSize (Begun.inName helper).chars) (trim helper) s := by
  rw [readDirective_call h, Begun.byteSize_chars_inName, Nat.add_assoc]

theorem readArgument_endParen (h : IsBody argument) :
    readArgument opener (opener + byteSize (Begun.inName helper).chars) name (argument ++ (Mark.endParen.chars ++ s)) =
      readCallEnd opener (opener + byteSize (Begun.inArgument helper argument).chars + 1)
        (.call (String.ofList name) (String.ofList (trim argument))) s := by
  have hposition : opener + byteSize (Begun.inName helper).chars + 1 + byteSize argument + 1 =
      opener + byteSize (Begun.inArgument helper argument).chars + 1 := by
    rw [Begun.byteSize_chars_inArgument]
    omega
  rw [readArgument_call h, hposition]

theorem readDirective_of_unmarked (h : Unmarked s) : readDirective opener s = .error ⟨opener, .unclosedDirective⟩ := by
  rw [readDirective, upTo_markAt?_eq_none_iff.mpr ⟨rfl, h⟩]
  rfl

theorem readArgument_of_unmarked {paren : Nat} (h : Unmarked s) :
    readArgument opener paren name s = .error ⟨paren, .unclosedCall⟩ := by
  rw [readArgument, upTo_markAt?_eq_none_iff.mpr ⟨rfl, h⟩]
  rfl

theorem readCallEnd_of_unmarked {position : Nat} (h : Unmarked s) :
    readCallEnd opener position token s = .error ⟨opener, .unclosedDirective⟩ := by
  rw [readCallEnd, upTo_markAt?_eq_none_iff.mpr ⟨rfl, h⟩]
  rfl

theorem readDirective_of_refused (h : (Begun.inName text).WellFormed) (last : text.getLast? ≠ mark.chars.head?)
    (refused : (Begun.inName text).refusal? mark = some fault) :
    readDirective opener (text ++ (mark.chars ++ rest)) =
      .error ⟨opener + byteSize (Begun.inName text).chars, fault⟩ := by
  rw [readDirective, upTo_markAt?_append mark h last, Begun.byteSize_chars_inName, ← Nat.add_assoc]
  cases mark with
  | opener | endParen =>
    obtain rfl := Option.some.inj refused
    rfl
  | closer | paren =>
    obtain ⟨hblank, hfault⟩ := Option.ite_none_right_eq_some.mp refused
    obtain rfl := Option.some.inj hfault
    exact if_pos hblank

theorem readArgument_of_refused (h : (Begun.inArgument helper text).WellFormed) (last : text.getLast? ≠ mark.chars.head?)
    (refused : (Begun.inArgument helper text).refusal? mark = some fault) :
    readArgument opener (opener + byteSize (Begun.inName helper).chars) name (text ++ (mark.chars ++ rest)) =
      .error ⟨opener + byteSize (Begun.inArgument helper text).chars, fault⟩ := by
  rw [readArgument, upTo_markAt?_append mark h.2 last, Begun.byteSize_chars_inArgument, ← Nat.add_assoc, ← Nat.add_assoc]
  cases mark with
  | opener | closer | paren =>
    obtain rfl := Option.some.inj refused
    rfl
  | endParen =>
    obtain ⟨hblank, hfault⟩ := Option.ite_none_right_eq_some.mp refused
    obtain rfl := Option.some.inj hfault
    exact if_pos hblank

theorem readCallEnd_of_refused (h : (Begun.behindCall helper argument text).WellFormed)
    (last : text.getLast? ≠ mark.chars.head?) (refused : (Begun.behindCall helper argument text).refusal? mark = some fault) :
    readCallEnd opener (opener + byteSize (Begun.inArgument helper argument).chars + 1) token (text ++ (mark.chars ++ rest)) =
      .error ⟨opener + byteSize (Begun.behindCall helper argument text).chars, fault⟩ := by
  rw [readCallEnd, upTo_markAt?_append mark h.2.2 last, Begun.byteSize_chars_behindCall, ← Nat.add_assoc, ← Nat.add_assoc]
  cases mark with
  | opener | paren | endParen =>
    obtain rfl := Option.some.inj refused
    rfl
  | closer => contradiction

/-- The first character behind a call that is not blank is at fault where the closer comes. -/
theorem readCallEnd_of_visible {blanks : List Char} {c : Char} (h : Unmarked (blanks ++ c :: text))
    (blank : ∀ b ∈ blanks, isBlank b) (visible : isBlank c = false) (last : (c :: text).getLast? ≠ some '}') :
    readCallEnd opener (opener + byteSize (Begun.inArgument helper argument).chars + 1) token
        (blanks ++ (c :: text ++ (Mark.closer.chars ++ rest))) =
      .error ⟨opener + byteSize (Begun.behindCall helper argument blanks).chars, .textAfterCall⟩ := by
  have hlast : (blanks ++ c :: text).getLast? ≠ Mark.closer.chars.head? := by
    rw [List.getLast?_append_of_ne_nil _ (List.cons_ne_nil c text)]
    exact last
  have hfirst : (blanks ++ c :: text).takeWhile isBlank = blanks := by
    rw [List.takeWhile_append_of_pos blank, List.takeWhile_cons_of_neg (by simp [visible]), List.append_nil]
  rw [← List.append_assoc, readCallEnd, upTo_markAt?_append .closer h hlast]
  dsimp only
  rw [if_neg (by simp [visible]), hfirst, Begun.byteSize_chars_behindCall, ← Nat.add_assoc, ← Nat.add_assoc]
  rfl

end

/-- Behind the opener, the reader finds what breaks the directive. -/
theorem Begun.Breaks.readDirective_eq {begun : Begun} {rest : List Char} {fault : Fault} (h : begun.Breaks rest fault)
    {body : List Char} (hbody : Mark.opener.chars ++ body = begun.chars ++ rest) (opener : Nat) :
    readDirective opener body = .error ⟨opener + byteSize begun.chars, fault⟩ := by
  cases h with
  | mark rest wellFormed last refused =>
    cases begun with
    | nothing => contradiction
    | inName text =>
      simp only [chars, List.append_assoc] at hbody
      rw [List.append_cancel_left hbody, readDirective_of_refused wellFormed last refused]
    | inArgument helper text =>
      simp only [chars, List.append_assoc] at hbody
      rw [List.append_cancel_left hbody, readDirective_paren wellFormed.1, readArgument_of_refused wellFormed last refused]
    | behindCall helper argument text =>
      simp only [chars, List.append_assoc] at hbody
      rw [List.append_cancel_left hbody, readDirective_paren wellFormed.1, readArgument_endParen wellFormed.2.1,
        readCallEnd_of_refused wellFormed last refused]
  | textAfterCall rest wellFormed blank visible last =>
    obtain ⟨hhelper, hargument, htext⟩ := wellFormed
    simp only [chars, List.append_assoc] at hbody
    rw [List.append_cancel_left hbody, readDirective_paren hhelper, readArgument_endParen hargument,
      readCallEnd_of_visible htext blank visible last]
  | @unclosedDirective begun wellFormed lacksCloser =>
    cases begun with
    | nothing => exact lacksCloser.elim
    | inArgument helper text => exact lacksCloser.elim
    | inName text =>
      rw [List.append_cancel_left hbody, readDirective_of_unmarked wellFormed]
      rfl
    | behindCall helper argument text =>
      obtain ⟨hhelper, hargument, htext⟩ := wellFormed
      rw [List.append_cancel_left hbody, readDirective_paren hhelper, readArgument_endParen hargument,
        readCallEnd_of_unmarked htext]
      rfl
  | unclosedCall wellFormed =>
    obtain ⟨hhelper, htext⟩ := wellFormed
    simp only [chars, List.append_assoc] at hbody
    rw [List.append_cancel_left hbody, readDirective_paren hhelper, readArgument_of_unmarked htext]

/-! ### What the readers refuse -/

/-- A directive that stands at a position is malformed. -/
def Broken (position : Nat) (s : List Char) (what : Malformed) : Prop :=
  ∃ (begun : Begun) (rest : List Char), s = begun.chars ++ rest ∧ begun.Breaks rest what.fault ∧
    what.position = position + byteSize begun.chars

theorem unmarked_or_mark (s : List Char) :
    Unmarked s ∨ ∃ (text : List Char) (mark : Mark) (rest : List Char),
      s = text ++ (mark.chars ++ rest) ∧ Unmarked text ∧ text.getLast? ≠ mark.chars.head? := by
  cases hfound : upTo markAt? s with
  | mk text found =>
    cases found with
    | none => exact .inl (upTo_markAt?_eq_none_iff.mp hfound).2
    | some found => exact .inr ⟨text, found.1, found.2, upTo_markAt?_eq_some_iff.mp hfound⟩

theorem exists_first_visible {s : List Char} (h : ¬ ∀ c ∈ s, isBlank c) :
    ∃ blanks c text, s = blanks ++ c :: text ∧ (∀ b ∈ blanks, isBlank b) ∧ isBlank c = false := by
  cases hrest : s.dropWhile isBlank with
  | nil => exact absurd (List.dropWhile_eq_nil_iff.mp hrest) h
  | cons c text =>
    refine ⟨s.takeWhile isBlank, c, text, ?_, fun b hb => List.mem_takeWhile_imp hb, isBlank_head_trimStart hrest⟩
    rw [← hrest, List.takeWhile_append_dropWhile]

section

variable {opener : Nat} {token : Token} {name helper argument s : List Char} {what : Malformed}

theorem broken_of_readCallEnd (hhelper : IsBody helper) (hargument : IsBody argument)
    (h : readCallEnd opener (opener + byteSize (Begun.inArgument helper argument).chars + 1) token s = .error what) :
    Broken opener (Begun.behindCall helper argument s).chars what := by
  obtain hunmarked | ⟨text, mark, rest, rfl, hunmarked, hlast⟩ := unmarked_or_mark s
  · rw [readCallEnd_of_unmarked hunmarked] at h
    obtain rfl := Except.error.inj h
    have hwellFormed : (Begun.behindCall helper argument s).WellFormed := ⟨hhelper, hargument, hunmarked⟩
    exact ⟨.nothing, _, rfl, .unclosedDirective hwellFormed trivial, rfl⟩
  · have hwellFormed : (Begun.behindCall helper argument text).WellFormed := ⟨hhelper, hargument, hunmarked⟩
    cases hrefused : (Begun.behindCall helper argument text).refusal? mark with
    | some fault =>
      rw [readCallEnd_of_refused hwellFormed hlast hrefused] at h
      obtain rfl := Except.error.inj h
      refine ⟨.behindCall helper argument text, mark.chars ++ rest, ?_, .mark rest hwellFormed hlast hrefused, rfl⟩
      simp only [Begun.chars, List.append_assoc]
    | none =>
      cases mark with
      | opener | paren | endParen => contradiction
      | closer =>
        -- the closer is in its place here, and the reader looks back at what stands in front of it
        by_cases hblank : ∀ c ∈ text, isBlank c
        · have hok : readCallEnd opener (opener + byteSize (Begun.inArgument helper argument).chars + 1) token
              (text ++ (Mark.closer.chars ++ rest)) = .ok ⟨token, rest, _⟩ :=
            readCallEnd_eq_ok_iff.mpr ⟨text, hblank, rfl, rfl, rfl⟩
          rw [hok] at h
          contradiction
        · obtain ⟨blanks, c, more, rfl, hblanks, hc⟩ := exists_first_visible hblank
          rw [List.getLast?_append_of_ne_nil _ (List.cons_ne_nil c more)] at hlast
          rw [List.append_assoc, readCallEnd_of_visible hunmarked hblanks hc hlast] at h
          obtain rfl := Except.error.inj h
          refine ⟨.behindCall helper argument blanks, _, ?_, .textAfterCall rest hwellFormed hblanks hc hlast, rfl⟩
          simp only [Begun.chars, List.append_assoc]

theorem broken_of_readArgument (hhelper : IsBody helper)
    (h : readArgument opener (opener + byteSize (Begun.inName helper).chars) name s = .error what) :
    Broken opener (Begun.inArgument helper s).chars what := by
  obtain hunmarked | ⟨text, mark, rest, rfl, hunmarked, hlast⟩ := unmarked_or_mark s
  · rw [readArgument_of_unmarked hunmarked] at h
    obtain rfl := Except.error.inj h
    have hwellFormed : (Begun.inArgument helper s).WellFormed := ⟨hhelper, hunmarked⟩
    refine ⟨.inName helper, Mark.paren.chars ++ s, ?_, .unclosedCall hwellFormed, rfl⟩
    simp only [Begun.chars, List.append_assoc]
  · have hwellFormed : (Begun.inArgument helper text).WellFormed := ⟨hhelper, hunmarked⟩
    cases hrefused : (Begun.inArgument helper text).refusal? mark with
    | some fault =>
      rw [readArgument_of_refused hwellFormed hlast hrefused] at h
      obtain rfl := Except.error.inj h
      refine ⟨.inArgument helper text, mark.chars ++ rest, ?_, .mark rest hwellFormed hlast hrefused, rfl⟩
      simp only [Begun.chars, List.append_assoc]
    | none =>
      cases mark with
      | opener | closer | paren => contradiction
      | endParen =>
        have hvisible : trim text ≠ [] := fun hblank => by simp [Begun.refusal?, hblank] at hrefused
        have hargument : IsBody text := ⟨hunmarked, trim_ne_nil_iff.mp hvisible⟩
        rw [readArgument_endParen hargument] at h
        exact broken_of_readCallEnd hhelper hargument h

theorem broken_of_readDirective (h : readDirective opener s = .error what) : Broken opener (Begun.inName s).chars what := by
  obtain hunmarked | ⟨text, mark, rest, rfl, hunmarked, hlast⟩ := unmarked_or_mark s
  · rw [readDirective_of_unmarked hunmarked] at h
    obtain rfl := Except.error.inj h
    have hwellFormed : (Begun.inName s).WellFormed := hunmarked
    exact ⟨.nothing, _, rfl, .unclosedDirective hwellFormed trivial, rfl⟩
  · have hwellFormed : (Begun.inName text).WellFormed := hunmarked
    cases hrefused : (Begun.inName text).refusal? mark with
    | some fault =>
      rw [readDirective_of_refused hwellFormed hlast hrefused] at h
      obtain rfl := Except.error.inj h
      refine ⟨.inName text, mark.chars ++ rest, ?_, .mark rest hwellFormed hlast hrefused, rfl⟩
      simp only [Begun.chars, List.append_assoc]
    | none =>
      cases mark with
      | opener | endParen => contradiction
      | closer =>
        have hvisible : trim text ≠ [] := fun hblank => by simp [Begun.refusal?, hblank] at hrefused
        have hname : (Written.lookup text).WellFormed := ⟨⟨hunmarked, trim_ne_nil_iff.mp hvisible⟩, hlast⟩
        have hok : readDirective opener (text ++ (Mark.closer.chars ++ rest)) = .ok ⟨_, rest, _⟩ :=
          readDirective_eq_ok_iff.mpr ⟨.lookup text, hname, rfl, rfl, rfl⟩
        rw [hok] at h
        contradiction
      | paren =>
        have hvisible : trim text ≠ [] := fun hblank => by simp [Begun.refusal?, hblank] at hrefused
        have hhelper : IsBody text := ⟨hunmarked, trim_ne_nil_iff.mp hvisible⟩
        rw [readDirective_paren hhelper] at h
        exact broken_of_readArgument hhelper h

end

/-- A directive cannot be read exactly when it is broken somewhere behind its opener, or at the opener itself. -/
theorem readDirective_eq_error_iff {opener : Nat} {s : List Char} {what : Malformed} :
    readDirective opener s = .error what ↔ Broken opener (Mark.opener.chars ++ s) what := by
  constructor
  · exact broken_of_readDirective
  · rintro ⟨begun, rest, hs, hbreaks, hposition⟩
    rw [hbreaks.readDirective_eq hs, ← hposition]

end NowPlaying.Template
