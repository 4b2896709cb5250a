import SchemaGuard.Expr.Lexer
import Mathlib.Tactic.ByContra

/-! # White space

There are few blanks, and none of them is part of a name or a word or begins a token.
-/

namespace SchemaGuard

namespace Unicode

/-- The code points of the blanks. -/
def blankCodes : List Nat :=
  whiteSpaceRanges.flatMap fun range => List.range' range.1 (range.2 - range.1 + 1)

theorem mem_blankCodes {c : Char} (hc : isBlank c = true) : c.toNat ∈ blankCodes := by
  obtain ⟨range, hrange, hbounds⟩ := List.any_eq_true.mp hc
  refine List.mem_flatMap.mpr ⟨range, hrange, ?_⟩
  simp only [Bool.and_eq_true, Nat.ble_eq] at hbounds
  exact List.mem_range'_1.mpr (by omega)

/-- No blank is part of a name or of a word. -/
theorem of_isBlank {c : Char} (hc : isBlank c = true) :
    Lexer.isNameChar c = false ∧ isWord c = false := by
  have hlisted : blankCodes.all (fun code =>
      !Lexer.isNameChar (Char.ofNat code) && !isWord (Char.ofNat code)) = true := by
    decide +kernel
  have hcode := List.all_eq_true.mp hlisted c.toNat (mem_blankCodes hc)
  simpa [Char.ofNat_toNat] using hcode

theorem isDigit_of_isBlank {c : Char} (hc : isBlank c = true) : c.isDigit = false := by
  have hlisted : blankCodes.all (fun code => !(Char.ofNat code).isDigit) = true := by decide
  have hcode := List.all_eq_true.mp hlisted c.toNat (mem_blankCodes hc)
  simpa [Char.ofNat_toNat] using hcode

end Unicode

namespace Lexer

theorem isBlank_of_isNameChar {c : Char} (hc : isNameChar c = true) :
    Unicode.isBlank c = false := by
  by_contra hblank
  have hname := (Unicode.of_isBlank (by simpa using hblank)).1
  rw [hc] at hname
  cases hname

end Lexer

namespace Lexer

theorem sign?_blank {c : Char} (hc : Unicode.isBlank c = true) (rest : List Char) :
    sign? c rest = none := by
  unfold sign?
  split <;> first
    | rfl
    | cases hc

/-- No token begins with a blank. -/
theorem readToken_blank {c : Char} (hc : Unicode.isBlank c = true) (line : Nat)
    (rest : List Char) : readToken line c rest = .error (.unexpectedChar c line) := by
  have hname := (Unicode.of_isBlank hc).1
  have hquote : ¬ (c = '"' ∨ c = '\'') := by
    rintro (rfl | rfl) <;> cases hc
  have hbrace : c ≠ '\x7b' := by
    rintro rfl
    cases hc
  have hstart : isNameStart c = false := by
    by_contra hstart
    rw [isNameChar_of_isNameStart (by simpa using hstart)] at hname
    cases hname
  rw [readToken, if_neg hquote, Unicode.isDigit_of_isBlank hc, if_neg hbrace, hstart,
    sign?_blank hc]
  rfl

end Lexer

end SchemaGuard
