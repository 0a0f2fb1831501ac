import Mathlib.Data.List.Basic
import NowPlaying.Proofs.Template.Compilation
import NowPlaying.Proofs.Template.Spelling
import NowPlaying.Template.Description

/-!
# Descriptions foretell the rendering

The description of a token ends with the mark of an unknown helper exactly when the token calls a helper that is not registered. Nothing else in a format can look like the mark: quoted text ends with a quote, a name holds no parenthesis, and a call whose argument reads like the mark has the end of a name before it and no blanks. So the marks in a listing say whether the format can be rendered, and the first of them says which helper is missing.
-/

namespace NowPlaying

open Template Text

/-- The line ends like the description of a call in vain. -/
def isMarked (line : String) : Bool := "  (unknown helper)".toList.isSuffixOf line.toList

/-- The descriptions of the tokens, one line for each. -/
def Template.lines (template : Template) (registry : Registry) : List String :=
  template.tokens.map (Token.describe registry)

theorem isMarked_iff {line : String} : isMarked line ↔ ∃ front, line.toList = front ++ "  (unknown helper)".toList := by
  rw [isMarked, List.isSuffixOf_iff_suffix]
  constructor
  · rintro ⟨front, hfront⟩
    exact ⟨front, hfront.symm⟩
  · rintro ⟨front, hfront⟩
    exact ⟨front, hfront.symm⟩

theorem getLast?_of_isMarked {line : String} (h : isMarked line) : line.toList.getLast? = some ')' := by
  obtain ⟨front, hline⟩ := isMarked_iff.mp h
  rw [hline, List.getLast?_append]
  rfl

theorem isMarked_append (front : String) : isMarked (front ++ unknownMark) :=
  isMarked_iff.mpr ⟨front.toList, String.toList_append⟩

/-! ### Names -/

theorem IsName.notMem {name : String} (h : IsName name) {mark : Mark} {c : Char} (hmark : mark.chars = [c]) :
    c ∉ name.toList := by
  intro hmem
  refine h.unmarked mark ?_
  rw [hmark, List.singleton_infix_iff]
  exact hmem

theorem IsName.toList_ne_nil {name : String} (h : IsName name) : name.toList ≠ [] := by
  intro hnil
  exact h.nonempty (String.toList_eq_nil_iff.mp hnil)

theorem IsName.getLast?_ne_space {name : String} (h : IsName name) : name.toList.getLast? ≠ some ' ' := by
  intro hlast
  rw [← h.trimmed] at hlast
  have hspace := isBlank_getLast?_trim hlast
  contradiction

/-! ### Lines -/

theorem not_isMarked_quoted (text : String) : ¬ isMarked ("text      " ++ Text.quoted text) := by
  intro h
  have hlast := getLast?_of_isMarked h
  have hquote : (quotedChars text.toList).getLast? = some '"' := by rw [quotedChars, List.getLast?_concat]
  rw [String.toList_append, List.getLast?_append, Text.quoted, String.toList_ofList, hquote, Option.some_or] at hlast
  exact absurd (Option.some.inj hlast) (by decide)

theorem not_isMarked_name {name : String} (h : IsName name) : ¬ isMarked ("variable  " ++ name) := by
  intro hmarked
  have hlast := getLast?_of_isMarked hmarked
  rw [String.toList_append, List.getLast?_append_of_ne_nil _ h.toList_ne_nil] at hlast
  have hparen : ')' ∉ name.toList := h.notMem (show Mark.endParen.chars = [')'] from rfl)
  exact hparen (List.mem_of_getLast? hlast)

/-- A call could only be taken for marked if its helper ended with blanks. -/
theorem not_isMarked_call {helper argument : String} (hhelper : IsName helper) (hargument : IsName argument) :
    ¬ isMarked ("function  " ++ helper ++ "(" ++ argument ++ ")") := by
  intro h
  obtain ⟨front, hline⟩ := isMarked_iff.mp h
  have hcall : ("function  " ++ helper ++ "(" ++ argument ++ ")").toList =
      ("function  ".toList ++ helper.toList) ++ '(' :: (argument.toList ++ [')']) := by
    simp
  have hmark : front ++ "  (unknown helper)".toList = (front ++ [' ', ' ']) ++ '(' :: "unknown helper)".toList := by
    simp
  rw [hcall, hmark] at hline
  have hparen : Mark.paren.chars = ['('] := rfl
  have hbefore : '(' ∉ "function  ".toList ++ helper.toList := by
    rw [List.mem_append, not_or]
    exact ⟨by decide, hhelper.notMem hparen⟩
  have hbehind : '(' ∉ argument.toList ++ [')'] := by
    rw [List.mem_append, not_or]
    exact ⟨hargument.notMem hparen, by decide⟩
  obtain ⟨hends, -, -⟩ := (List.append_cons_inj_of_notMem hbefore hbehind).mp hline
  have hlast := congrArg List.getLast? hends
  rw [List.getLast?_append_of_ne_nil _ hhelper.toList_ne_nil, List.getLast?_append] at hlast
  exact hhelper.getLast?_ne_space hlast

theorem isMarked_describe_iff {registry : Registry} {token : Token} (h : token.WellFormed) :
    isMarked (token.describe registry) ↔ ∃ helper argument, token = .call helper argument ∧ registry.get? helper = none := by
  cases token with
  | literal text => simpa [Token.describe] using not_isMarked_quoted text
  | lookup name => simpa [Token.describe] using not_isMarked_name h
  | call helper argument =>
    obtain ⟨hhelper, hargument⟩ := h
    have hcall := not_isMarked_call hhelper hargument
    rw [Token.describe, NameMap.contains]
    cases hfound : registry.get? helper with
    | none =>
      have hmarked := isMarked_append ("function  " ++ helper ++ "(" ++ argument ++ ")")
      simp [hfound, hmarked]
    | some found => simpa [hfound] using hcall

/-! ### Listings -/

theorem Template.firstUnknown?_eq_none_iff_lines (template : Template) (registry : Registry) :
    firstUnknown? registry template.tokens = none ↔ ∀ line ∈ template.lines registry, ¬ isMarked line := by
  rw [Template.lines, List.forall_mem_map, firstUnknown?_eq_none_iff]
  constructor
  · intro h token hmem hmarked
    obtain ⟨helper, argument, rfl, hnone⟩ := (isMarked_describe_iff (template.wellFormed hmem)).mp hmarked
    exact h helper argument hmem hnone
  · intro h helper argument hmem hnone
    exact h _ hmem ((isMarked_describe_iff (template.wellFormed hmem)).mpr ⟨helper, argument, rfl, hnone⟩)

/-- The first marked line is that of the first call in vain. -/
theorem Template.firstUnknown?_of_find?_lines {template : Template} {registry : Registry} {line : String}
    (h : (template.lines registry).find? isMarked = some line) :
    ∃ helper argument, .call helper argument ∈ template.tokens ∧
      line = "function  " ++ helper ++ "(" ++ argument ++ ")" ++ unknownMark ∧
      firstUnknown? registry template.tokens = some helper := by
  rw [Template.lines, List.find?_map, Option.map_eq_some_iff] at h
  obtain ⟨token, hfound, rfl⟩ := h
  obtain ⟨hmarked, before, after, htokens, hbefore⟩ := List.find?_eq_some_iff_append.mp hfound
  have hmem : token ∈ template.tokens := by simp [htokens]
  obtain ⟨helper, argument, rfl, hnone⟩ := (isMarked_describe_iff (template.wellFormed hmem)).mp hmarked
  refine ⟨helper, argument, hmem, ?_, ?_⟩
  · simp [Token.describe, NameMap.contains, hnone]
  · refine firstUnknown?_eq_some_iff.mpr ⟨before, argument, after, htokens, hnone, ?_⟩
    rw [firstUnknown?_eq_none_iff]
    intro other argument' hother hnone'
    have hwellFormed := template.wellFormed (show Token.call other argument' ∈ template.tokens by simp [htokens, hother])
    have hunmarked : ¬ isMarked ((Token.call other argument').describe registry) := by simpa using hbefore _ hother
    exact hunmarked ((isMarked_describe_iff hwellFormed).mpr ⟨other, argument', rfl, hnone'⟩)

theorem Engine.expand_of_compile {engine : Engine} {format : String} {template : Template}
    (h : engine.compile format = .ok template) (context : Context) :
    engine.expand format context =
      unlessFailed ((firstUnknown? engine.registry template.tokens).map .unknownHelper)
        (contributions engine.registry context template.tokens) := by
  rw [expand_eq_render h, ← render_eq_unlessFailed]
  rfl

/-- A line is marked exactly for a call in vain. A format is rendered in every context when no line is marked, and in none when a line is: then the first marked line names the helper that is missing. -/
theorem marked_lines_foretell_expand {engine : Engine} {format : String} {template : Template}
    (h : engine.compile format = .ok template) :
    (∀ token ∈ template.tokens, isMarked (token.describe engine.registry) ↔
      ∃ helper argument, token = .call helper argument ∧ engine.registry.get? helper = none) ∧
    ((∀ line ∈ template.lines engine.registry, ¬ isMarked line) ↔
      ∀ context, ∃ output, engine.expand format context = .ok output) ∧
    ∀ line, (template.lines engine.registry).find? isMarked = some line →
      ∃ helper argument, line = "function  " ++ helper ++ "(" ++ argument ++ ")  (unknown helper)" ∧
        '(' ∉ helper.toList ∧ ∀ context, engine.expand format context = .error (.unknownHelper helper) := by
  refine ⟨fun token hmem => isMarked_describe_iff (template.wellFormed hmem), ?_, fun line hline => ?_⟩
  · rw [← template.firstUnknown?_eq_none_iff_lines]
    constructor
    · intro hnone context
      rw [Engine.expand_of_compile h, hnone]
      exact ⟨_, rfl⟩
    · intro hall
      obtain ⟨output, houtput⟩ := hall NameMap.empty
      rw [Engine.expand_of_compile h, unlessFailed_eq_ok_iff, Option.map_eq_none_iff] at houtput
      exact houtput.1
  · obtain ⟨helper, argument, hmem, rfl, hfirst⟩ := Template.firstUnknown?_of_find?_lines hline
    obtain ⟨hhelper, -⟩ := template.wellFormed hmem
    refine ⟨helper, argument, ?_, hhelper.notMem (show Mark.paren.chars = ['('] from rfl), fun context => ?_⟩
    · rw [String.append_assoc, unknownMark]
      rfl
    · rw [Engine.expand_of_compile h, hfirst]
      rfl

/-- The first of two marked lines names the helper that rendering asks for in vain. -/
theorem marked_lines_foretell_reverse :
    ∃ template, (Engine.withLimit none).compile "\x7b\x7breverse(a)\x7d\x7d\x7b\x7bx(a)\x7d\x7d" = .ok template ∧
      (template.lines Registry.builtIn).find? isMarked = some "function  reverse(a)  (unknown helper)" ∧
      ∀ context, (Engine.withLimit none).expand "\x7b\x7breverse(a)\x7d\x7d\x7b\x7bx(a)\x7d\x7d" context =
        .error (.unknownHelper "reverse") := by
  have htokens : tokenize "\x7b\x7breverse(a)\x7d\x7d\x7b\x7bx(a)\x7d\x7d" =
      .ok [.call "reverse" "a", .call "x" "a"] := by decide +kernel
  let template : Template := ⟨_, _, htokens⟩
  have hcompile : (Engine.withLimit none).compile _ = .ok template := Template.parse_of_tokenize htokens
  have hline : (template.lines Registry.builtIn).find? isMarked = some "function  reverse(a)  (unknown helper)" := by rfl
  obtain ⟨helper, argument, -, -, hfails⟩ := (marked_lines_foretell_expand hcompile).2.2 _ hline
  have hreverse := hfails NameMap.empty
  rw [Engine.expand_of_compile hcompile] at hreverse
  obtain rfl : "reverse" = helper := FormatError.unknownHelper.inj (Except.error.inj hreverse)
  exact ⟨template, hcompile, hline, hfails⟩

end NowPlaying
