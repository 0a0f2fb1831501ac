import NowPlaying.Proofs.Report.Drawing
import NowPlaying.Proofs.Template.FirstViolation

/-!
# Reports point at the fault

A fault is at a character that is not blank, so its byte position is where that character begins and the character is drawn. A format that does not compile is therefore reported exactly where it is malformed, and the report names the line and the column of the character that the position belongs to.
-/

namespace NowPlaying.Report

open Text

theorem tokenize_of_compile {engine : Engine} {format : String} {what : Malformed}
    (h : engine.compile format = .error (.malformed what)) : tokenize format = .error what := by
  rw [Engine.compile_eq_error_iff, Option.or_eq_some_iff] at h
  obtain hlength | ⟨-, hsyntax⟩ := h
  · unfold lengthError? at hlength
    split at hlength
    · split at hlength
      · exact absurd (Option.some.inj hlength) (by simp)
      · contradiction
    · contradiction
  · obtain ⟨found, hfound, hsame⟩ := syntaxError?_eq_some_iff.mp hsyntax
    rwa [FormatError.malformed.inj hsame]

/-- The position of a fault is where a character begins that is not blank. -/
theorem exists_visible_at {format : String} {what : Malformed} (h : tokenize format = .error what) :
    ∃ before c after, format.toList = before ++ c :: after ∧ byteSize before = what.position ∧ isBlank c = false := by
  obtain ⟨before, rest, accepted, begun, rfl, hposition, hends, hbreaks⟩ := tokenize_eq_error_iff_breaks.mp h
  obtain ⟨c, hc, hvisible⟩ := hbreaks.exists_visible
  obtain ⟨after, hafter⟩ := List.head?_eq_some_iff.mp hc
  refine ⟨before.toList, c, after, ?_, ?_, hvisible⟩
  · rw [String.toList_append, hafter]
  · rw [byteSize_toList, hposition]

/-- A fault is drawn at the place of the character at its position. -/
theorem ofError?_of_malformed {format : String} {what : Malformed} (h : tokenize format = .error what) :
    ∃ front near c far rest, byteSize (front ++ near) = what.position ∧ isBlank c = false ∧
      IsLine format.toList front (near ++ c :: far) rest ∧
      ofError? format (.malformed what) =
        some (draw ⟨lineEnds format.toList (front ++ near).length, near.length, near ++ c :: far⟩ what.fault.message) := by
  obtain ⟨before, c, after, hchars, hposition, hvisible⟩ := exists_visible_at h
  obtain ⟨front, near, far, rest, rfl, hline, hplace⟩ := place?_append before c after
  rw [← hchars] at hline hplace
  refine ⟨front, near, c, far, rest, hposition, hvisible, hline, ?_⟩
  rw [ofError?, ← hposition, hplace, Option.map_some]

/-- When a format does not compile there is a report exactly if the format is malformed. It names the line and the column of the character at the position of the fault, by the ends of lines and the characters in front of it, and shows its line with a mark under the character, which is not blank. -/
theorem report_points_at_fault {engine : Engine} {format : String} {error : FormatError}
    (h : engine.compile format = .error error) :
    ((ofError? format error).isSome ↔ ∃ what, error = .malformed what) ∧
    ∀ what, error = .malformed what →
      ∃ front near c far rest left right behind arrow bottom,
        byteSize (front ++ near) = what.position ∧ isBlank c = false ∧
        IsLine format.toList front (near ++ c :: far) rest ∧
        Shown near left ∧ Shown (trimEnd (near ++ c :: far)) (left ++ c :: right) ∧
        (∀ d ∈ left ++ c :: right, endsLine d = false) ∧ '┬' ∉ behind ∧
        let number := toString (lineEnds format.toList (front ++ near).length + 1)
        let gutter := spaces (number.length + 2)
        ofError? format error = some (String.join ([
          "Error: invalid format string",
          gutter ++ "╭─[ format:" ++ number ++ ":" ++ toString (near.length + 1) ++ " ]",
          gutter ++ "│",
          " " ++ number ++ " │ " ++ String.ofList (left ++ c :: right),
          gutter ++ "│ " ++ String.ofList
            (List.replicate (width left) ' ' ++ ((if Text.columns c = 0 then [] else ['┬']) ++ behind)),
          gutter ++ "│ " ++ arrow ++ " " ++ what.fault.message,
          bottom].map (· ++ "\n"))) := by
  constructor
  · cases error with
    | malformed what =>
      obtain ⟨front, near, c, far, rest, -, -, -, hreport⟩ := ofError?_of_malformed (tokenize_of_compile h)
      exact iff_of_true (by rw [hreport, Option.isSome_some]) ⟨what, rfl⟩
    | unknownHelper | tooLong => simp [ofError?]
  · intro what herror
    subst herror
    obtain ⟨front, near, c, far, rest, hposition, hvisible, hline, hreport⟩ := ofError?_of_malformed (tokenize_of_compile h)
    obtain ⟨right, hright⟩ := drawLine_trimEnd hvisible near far
    obtain ⟨behind, hbehind, hrow⟩ := drawRow_trimEnd hvisible near far
    have hshown := (shown_drawLine (trimEnd (near ++ c :: far))).1
    rw [hright] at hshown
    refine ⟨front, near, c, far, rest, drawLine (cells near), right, behind,
      String.ofList (drawRow (cells (trimEnd (near ++ c :: far))) near.length '╰' '─' '─'),
      String.ofList (List.replicate ((toString (lineEnds format.toList (front ++ near).length + 1)).length + 2) '─') ++ "╯",
      hposition, hvisible, hline, (shown_drawLine near).1, hshown, hshown.endsLine_eq_false, hbehind, ?_⟩
    rw [hreport, draw]
    simp only [hright, hrow]

/-- Two kinds of line ends, wide characters and a tab in front of the fault. -/
theorem report_points_at_fault_third_line :
    let format := "日\r\n\u2028é\x7b\x7b\tfn()\x7d\x7d"
    let what : Malformed := ⟨16, .missingArgument⟩
    (Engine.withLimit none).compile format = .error (.malformed what) ∧
      (ofError? format (.malformed what)).isSome ∧
      ∃ front near c far rest, byteSize (front ++ near) = 16 ∧ isBlank c = false ∧
        IsLine format.toList front (near ++ c :: far) rest := by
  intro format what
  have htokens : tokenize format = .error what := by decide +kernel
  have hcompile : (Engine.withLimit none).compile format = .error (.malformed what) := by
    rw [Engine.compile_eq_error_iff]
    exact syntaxError?_eq_some_iff.mpr ⟨what, htokens, rfl⟩
  obtain ⟨hsome, hreport⟩ := report_points_at_fault hcompile
  obtain ⟨front, near, c, far, rest, -, -, -, -, -, hposition, hvisible, hline, -⟩ := hreport what rfl
  exact ⟨hcompile, hsome.mpr ⟨what, rfl⟩, front, near, c, far, rest, hposition, hvisible, hline⟩

example : ofError? "日\r\n\u2028é\x7b\x7b\tfn()\x7d\x7d" (.malformed ⟨16, .missingArgument⟩) =
    some ("Error: invalid format string\n   ╭─[ format:3:8 ]\n   │\n 3 │ é\x7b\x7b fn()\x7d\x7d\n" ++
      "   │        ┬  \n   │        ╰── expected a function parameter\n───╯\n") := by
  decide +kernel

end NowPlaying.Report
