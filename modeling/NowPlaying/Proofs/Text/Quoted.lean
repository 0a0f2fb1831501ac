import Mathlib.Logic.Function.Basic
import NowPlaying.Proofs.Text.Span
import NowPlaying.Text.Quoted

/-!
# Quoted text can be read back

Between the quotes a character stands for itself, is a letter behind a backslash, or is written by its code point. A backslash that begins one of the latter two is never a character of its own, and a code point ends at its closing brace. So it is plain where one character ends and which one it was, and different texts are quoted differently.
-/

namespace NowPlaying.Text

/-! ### Hexadecimal digits -/

theorem lowerHex_of_lt {n : Nat} (h : n < 16) : lowerHex n = [n.digitChar] := Nat.toDigits_of_lt_base h

theorem lowerHex_of_le {n : Nat} (h : 16 ≤ n) : lowerHex n = lowerHex (n / 16) ++ [(n % 16).digitChar] :=
  Nat.toDigits_of_base_le (by omega) h

theorem exists_digitChar_of_mem_lowerHex {n : Nat} {c : Char} (h : c ∈ lowerHex n) : ∃ d < 16, c = d.digitChar := by
  induction n using Nat.strongRecOn with
  | ind n ih =>
    by_cases hsmall : n < 16
    · rw [lowerHex_of_lt hsmall, List.mem_singleton] at h
      exact ⟨n, hsmall, h⟩
    · rw [lowerHex_of_le (Nat.not_lt.mp hsmall), List.mem_append, List.mem_singleton] at h
      obtain hfront | hlast := h
      · exact ih (n / 16) (by omega) hfront
      · exact ⟨n % 16, Nat.mod_lt n (by omega), hlast⟩

theorem digitChar_inj {d e : Nat} (hd : d < 16) (he : e < 16) (h : d.digitChar = e.digitChar) : d = e := by
  have hall : ∀ d < 16, ∀ e < 16, d.digitChar = e.digitChar → d = e := by decide
  exact hall d hd e he h

theorem lowerHex_injective : Function.Injective lowerHex := by
  have hlonger {n m : Nat} (hn : n < 16) (hm : 16 ≤ m) : lowerHex n ≠ lowerHex m := by
    intro h
    rw [lowerHex_of_lt hn, lowerHex_of_le hm] at h
    have hlength := congrArg List.length h
    have hpositive : 0 < (lowerHex (m / 16)).length := Nat.length_toDigits_pos
    rw [List.length_append, List.length_singleton, List.length_singleton] at hlength
    omega
  intro n
  induction n using Nat.strongRecOn with
  | ind n ih =>
    intro m h
    obtain hn | hn := Nat.lt_or_ge n 16
    · obtain hm | hm := Nat.lt_or_ge m 16
      · rw [lowerHex_of_lt hn, lowerHex_of_lt hm] at h
        exact digitChar_inj hn hm (List.singleton_inj.mp h)
      · exact absurd h (hlonger hn hm)
    · obtain hm | hm := Nat.lt_or_ge m 16
      · exact absurd h.symm (hlonger hm hn)
      · rw [lowerHex_of_le hn, lowerHex_of_le hm] at h
        obtain ⟨hfront, hlast⟩ := List.append_inj' h rfl
        have hquotient := ih (n / 16) (by omega) hfront
        have hremainder := digitChar_inj (Nat.mod_lt n (by omega)) (Nat.mod_lt m (by omega)) (List.singleton_inj.mp hlast)
        omega

/-- The closing brace behind the digits is the first one. -/
theorem lowerHex_append_inj {n m : Nat} {s t : List Char} (h : lowerHex n ++ '}' :: s = lowerHex m ++ '}' :: t) :
    n = m ∧ s = t := by
  have hspan (n : Nat) (s : List Char) : (lowerHex n ++ '}' :: s).span (· ≠ '}') = (lowerHex n, '}' :: s) := by
    refine span_append (fun c hc => ?_) (by simp)
    have hdigit : ∀ d < 16, Nat.digitChar d ≠ '}' := by decide
    obtain ⟨d, hd, rfl⟩ := exists_digitChar_of_mem_lowerHex hc
    exact decide_eq_true (hdigit d hd)
  have hsame := hspan n s
  rw [h, hspan m t, Prod.mk.injEq, List.cons.injEq] at hsame
  exact ⟨lowerHex_injective hsame.1.symm, hsame.2.2.symm⟩

/-! ### Single characters -/

/-- The character that a letter behind a backslash stands for. -/
def ofLetter? : Char → Option Char
  | '"' => some '"'
  | '\\' => some '\\'
  | 'n' => some '\n'
  | 'r' => some '\r'
  | 't' => some '\t'
  | '0' => some '\x00'
  | _ => none

/-- The ways to write a character between quotes. -/
inductive Shows (c : Char) : List Char → Prop where
  | itself (h : c ≠ '\\') : Shows c [c]
  | letter (e : Char) (h : ofLetter? e = some c) : Shows c ['\\', e]
  | code : Shows c ('\\' :: 'u' :: '{' :: (lowerHex c.toNat ++ ['}']))

theorem shows_quotedChar (c : Char) : Shows c (quotedChar c) := by
  unfold quotedChar
  split
  · exact .letter '"' rfl
  · exact .letter '\\' rfl
  · exact .letter 'n' rfl
  · exact .letter 'r' rfl
  · exact .letter 't' rfl
  · exact .letter '0' rfl
  · next hquote hbackslash hline hreturn htab hzero =>
    split
    · exact .code
    · exact .itself hbackslash

theorem Shows.ne_nil {c : Char} {chunk : List Char} (h : Shows c chunk) : chunk ≠ [] := by
  cases h <;> exact List.cons_ne_nil _ _

/-- What is in front of a text is one character in one way only. -/
theorem Shows.append_inj {c d : Char} {chunk chunk' s t : List Char} (hc : Shows c chunk) (hd : Shows d chunk')
    (h : chunk ++ s = chunk' ++ t) : c = d ∧ s = t := by
  cases hc with
  | itself hvisible =>
    cases hd with
    | itself => exact List.cons.inj h
    | letter e hletter => exact absurd (List.cons.inj h).1 hvisible
    | code => exact absurd (List.cons.inj h).1 hvisible
  | letter e hletter =>
    cases hd with
    | itself hvisible' => exact absurd (List.cons.inj h).1.symm hvisible'
    | letter e' hletter' =>
      obtain ⟨-, hbehind⟩ := List.cons.inj h
      obtain ⟨rfl, hrest⟩ := List.cons.inj hbehind
      exact ⟨Option.some.inj (hletter.symm.trans hletter'), hrest⟩
    | code =>
      obtain ⟨-, hbehind⟩ := List.cons.inj h
      obtain ⟨rfl, -⟩ := List.cons.inj hbehind
      contradiction
  | code =>
    cases hd with
    | itself hvisible' => exact absurd (List.cons.inj h).1.symm hvisible'
    | letter e' hletter' =>
      obtain ⟨-, hbehind⟩ := List.cons.inj h
      obtain ⟨rfl, -⟩ := List.cons.inj hbehind
      contradiction
    | code =>
      simp only [List.cons_append, List.append_assoc, List.nil_append, List.cons.injEq, true_and] at h
      obtain ⟨hcode, hrest⟩ := lowerHex_append_inj h
      exact ⟨Char.toNat_inj.mp hcode, hrest⟩

/-! ### Texts -/

theorem flatMap_quotedChar_injective : Function.Injective fun s : List Char => s.flatMap quotedChar := by
  intro s
  induction s with
  | nil =>
    intro t h
    cases t with
    | nil => rfl
    | cons d t => exact absurd (List.append_eq_nil_iff.mp h.symm).1 (shows_quotedChar d).ne_nil
  | cons c s ih =>
    intro t h
    cases t with
    | nil => exact absurd (List.append_eq_nil_iff.mp h).1 (shows_quotedChar c).ne_nil
    | cons d t =>
      obtain ⟨rfl, hrest⟩ := (shows_quotedChar c).append_inj (shows_quotedChar d) h
      rw [ih hrest]

theorem quoted_injective : Function.Injective quoted := by
  intro a b h
  have hchars : quotedChars a.toList = quotedChars b.toList := String.ofList_injective h
  have hbody := List.append_cancel_right (List.cons.inj hchars).2
  exact String.toList_injective (flatMap_quotedChar_injective hbody)

end NowPlaying.Text
