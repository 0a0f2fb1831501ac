import NowPlaying.Proofs.Assignment.Inference
import NowPlaying.Proofs.Number.Layout
import NowPlaying.Proofs.Text.Trim

/-!
# Printed values are assigned back

An argument is split at its first equals sign. What stands in front of it is trimmed, what stands behind it is taken as it is. So a value that is printed behind a key and an equals sign is assigned to this key again, with its type: a printed integer is no other numeral, a printed double is no integer, and the double that a printed one is read as is the nearest to what was printed.
-/

namespace NowPlaying

open Number

namespace Value

theorem infer_display_integer (n : Int64) : infer (Value.integer n).display = .integer n := by
  refine infer_of_denotes (.integer ?_)
  rw [display, String.toList_ofList]
  exact isInteger_digitsOfInt n.toInt

theorem infer_display_float {d : Double} (h : d.isFinite) : infer (Value.float d).display = .float d := by
  obtain _ | _ | ⟨negative, rank⟩ := d
  · contradiction
  · contradiction
  · obtain ⟨v, hnumeral, hlt, hnearest⟩ := Double.exists_isNumeral_write layout negative rank
    have htext : (Value.float (.finite negative rank)).display.toList = (Double.finite negative rank).write layout :=
      String.toList_ofList
    rw [← htext] at hnumeral
    refine infer_of_denotes (.float (fun ⟨n, hn, _⟩ => ?_) hnumeral hlt hnearest)
    rw [htext] at hn
    exact Double.not_isInteger_write layout negative rank hn

end Value

namespace Assignment

variable {argument key : String} {front behind : List Char}

/-! ### The first equals sign -/

theorem parse_of_notMem (h : '=' ∉ argument.toList) : parse argument = .error (.noEqualsSign argument) := by
  have hspan : argument.toList.span (· ≠ '=') = (argument.toList, []) :=
    span_eq_iff.mpr ⟨(List.append_nil _).symm, fun c hc => decide_eq_true (ne_of_mem_of_not_mem hc h), by simp⟩
  rw [parse, hspan]

theorem parse_of_split (hsplit : argument.toList = front ++ '=' :: behind) (hfront : '=' ∉ front) :
    parse argument = if Text.trim front = [] then .error (.emptyKey argument)
      else .ok ⟨String.ofList (Text.trim front), Value.infer (String.ofList behind)⟩ := by
  have hspan : argument.toList.span (· ≠ '=') = (front, '=' :: behind) :=
    span_eq_iff.mpr ⟨hsplit, fun c hc => decide_eq_true (ne_of_mem_of_not_mem hc hfront), by simp⟩
  rw [parse, hspan]

theorem parse_append (hkey : key ≠ "") (htrim : Text.trim key.toList = key.toList) (hfree : '=' ∉ key.toList) (value : String) :
    parse (key ++ "=" ++ value) = .ok ⟨key, Value.infer value⟩ := by
  have hsplit : (key ++ "=" ++ value).toList = key.toList ++ '=' :: value.toList := by simp
  rw [parse_of_split hsplit hfree, htrim, if_neg (by simpa using hkey), String.ofList_toList, String.ofList_toList]

theorem parse_eq_error_iff : (∃ problem, parse argument = .error problem) ↔
    '=' ∉ argument.toList ∨
      ∃ front behind, argument.toList = front ++ '=' :: behind ∧ '=' ∉ front ∧ ∀ c ∈ front, Text.isBlank c := by
  constructor
  · rintro ⟨problem, herror⟩
    refine or_iff_not_imp_left.mpr fun hmem => ?_
    obtain ⟨front, behind, hsplit, hfront⟩ := List.eq_append_cons_of_mem (not_not.mp hmem)
    rw [parse_of_split hsplit hfront] at herror
    split at herror
    · next hblank => exact ⟨front, behind, hsplit, hfront, Text.trim_eq_nil_iff.mp hblank⟩
    · contradiction
  · rintro (hnone | ⟨front, behind, hsplit, hfront, hblank⟩)
    · exact ⟨_, parse_of_notMem hnone⟩
    · refine ⟨.emptyKey argument, ?_⟩
      rw [parse_of_split hsplit hfront, if_pos (Text.trim_eq_nil_iff.mpr hblank)]

/-- A value printed behind a key and an equals sign is assigned to the key again, with its type: every integer, and every finite double, zeros with their signs and doubles with a power of ten included. Whatever else stands behind the first equals sign is taken untrimmed and whole. An argument is refused exactly when it has no equals sign or nothing but blanks in front of the first one. -/
theorem printed_values_are_kept :
    (∀ key : String, key ≠ "" → Text.trim key.toList = key.toList → '=' ∉ key.toList →
      (∀ n : Int64, parse (key ++ "=" ++ (Value.integer n).display) = .ok ⟨key, .integer n⟩) ∧
      (∀ d : Double, d.isFinite → parse (key ++ "=" ++ (Value.float d).display) = .ok ⟨key, .float d⟩) ∧
      ∀ s : String, parse (key ++ "=" ++ s) = .ok ⟨key, Value.infer s⟩) ∧
    ∀ argument : String, (∃ problem, parse argument = .error problem) ↔
      '=' ∉ argument.toList ∨
        ∃ front behind, argument.toList = front ++ '=' :: behind ∧ '=' ∉ front ∧ ∀ c ∈ front, Text.isBlank c := by
  refine ⟨fun key hkey htrim hfree => ⟨fun n => ?_, fun d hfinite => ?_, parse_append hkey htrim hfree⟩,
    fun argument => parse_eq_error_iff⟩
  · rw [parse_append hkey htrim hfree, Value.infer_display_integer]
  · rw [parse_append hkey htrim hfree, Value.infer_display_float hfinite]

/-- Minus zero is kept under a name with a letter that is no ASCII and a blank inside. -/
theorem printed_values_are_kept_minus_zero :
    "café volume" ≠ "" ∧ Text.trim "café volume".toList = "café volume".toList ∧
      '=' ∉ "café volume".toList ∧ (Double.zero true).isFinite ∧
      parse ("café volume" ++ "=" ++ (Value.float (.zero true)).display) =
        .ok ⟨"café volume", .float (.zero true)⟩ := by
  have hkey : "café volume" ≠ "" := by decide
  have htrim : Text.trim "café volume".toList = "café volume".toList := by decide
  have hfree : '=' ∉ "café volume".toList := by decide
  exact ⟨hkey, htrim, hfree, rfl, (printed_values_are_kept.1 _ hkey htrim hfree).2.1 _ rfl⟩

end Assignment

end NowPlaying
