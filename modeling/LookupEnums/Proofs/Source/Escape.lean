import LookupEnums.Proofs.Source.Literal
import LookupEnums.Proofs.Text.Digits

/-! # Escaped texts read back

A text in quotes is read from left to right: a backslash with the mark behind it is a character, and so
is a backslash with `u` and exactly four hexadecimal digits; any other character is itself. An escaped
text is read back as the text, whatever stands behind it.
-/
namespace LookupEnums.Source
open Text

def marked? (mark : Char) : Option Char :=
  (namedEscapes.find? (·.2 = mark)).map (·.1)

/-- The character with a hexadecimal code. The halves of surrogate pairs are no characters. -/
def coded? (digits : List Char) : Option Char :=
  (readHex? digits).bind fun n => if n.isValidChar then some (Char.ofNat n) else none

def inFront (c : Char) (read : List Char × List Char) : List Char × List Char :=
  (c :: read.1, read.2)

/-- The text up to the quote that closes it, and what follows the quote. Where a line may end is no
matter of the escapes: an end of a line is a character like any other. -/
def readQuoted? : List Char → Option (List Char × List Char)
  | [] => none
  | '"' :: after => some ([], after)
  | '\\' :: 'u' :: a :: b :: c :: d :: rest =>
    (coded? [a, b, c, d]).bind fun char => (readQuoted? rest).map (inFront char)
  | '\\' :: mark :: rest => (marked? mark).bind fun char => (readQuoted? rest).map (inFront char)
  | ['\\'] => none
  | char :: rest => (readQuoted? rest).map (inFront char)

section read
variable {c : Char}

theorem readQuoted?_plain (hbackslash : c ≠ '\\') (hquote : c ≠ '"') (rest : List Char) :
    readQuoted? (c :: rest) = (readQuoted? rest).map (inFront c) := by
  rw [readQuoted?]
  · exact hquote
  · rintro _ _ _ _ _ rfl
    exact absurd rfl hbackslash
  · rintro _ _ rfl
    exact absurd rfl hbackslash
  · rintro rfl
    exact absurd rfl hbackslash

theorem readQuoted?_named (rest : List Char) : ∀ entry ∈ namedEscapes,
    readQuoted? ('\\' :: entry.2 :: rest) = (readQuoted? rest).map (inFront entry.1) := by
  simp only [namedEscapes, List.forall_mem_cons]
  exact ⟨rfl, rfl, rfl, rfl, rfl, rfl, rfl, rfl, rfl, rfl, List.forall_mem_nil _⟩

theorem readQuoted?_coded {digits : List Char} (hlength : digits.length = 4)
    (hcode : coded? digits = some c) (rest : List Char) :
    readQuoted? ('\\' :: 'u' :: (digits ++ rest)) = (readQuoted? rest).map (inFront c) := by
  match digits, hlength with
  | [x, y, z, w], _ =>
    change (coded? [x, y, z, w]).bind (fun char => (readQuoted? rest).map (inFront char)) = _
    rw [hcode, Option.bind_some]

end read

theorem coded?_paddedHex (width : Nat) (c : Char) : coded? (paddedHex width c.toNat) = some c := by
  have hvalid : c.toNat.isValidChar := c.valid
  rw [coded?, readHex?_paddedHex, Option.bind_some, if_pos hvalid, Char.ofNat_toNat]

/-- What is read of an escaped character is the character, whatever follows. -/
theorem readQuoted?_escapeChar (c : Char) (rest : List Char) :
    readQuoted? (escapeChar c ++ rest) = (readQuoted? rest).map (inFront c) := by
  by_cases hnamed : c ∈ namedEscapes.map (·.1)
  · obtain ⟨entry, hentry, rfl⟩ := List.mem_map.mp hnamed
    rw [(escapeChar_named entry hentry).1]
    exact readQuoted?_named rest entry hentry
  · rw [escapeChar_of_not_named hnamed]
    split
    next hcode =>
      have hsmall : c.toNat < 16 ^ 4 := by
        simp only [Bool.or_eq_true, Bool.and_eq_true, decide_eq_true_eq] at hcode
        omega
      exact readQuoted?_coded (length_paddedHex (by decide) hsmall) (coded?_paddedHex 4 c) rest
    next =>
      refine readQuoted?_plain ?_ ?_ rest
      · rintro rfl
        exact hnamed (by decide)
      · rintro rfl
        exact hnamed (by decide)

theorem readQuoted?_escapeChars (s rest : List Char) :
    readQuoted? (escapeChars s ++ '"' :: rest) = some (s, rest) := by
  induction s with
  | nil => rfl
  | cons c s ih =>
    rw [escapeChars, List.flatMap_cons, List.append_assoc, readQuoted?_escapeChar]
    change (readQuoted? (escapeChars s ++ '"' :: rest)).map (inFront c) = _
    rw [ih]
    rfl

theorem escapeString_toList (s : String) : (escapeString s).toList = escapeChars s.toList :=
  String.toList_ofList

/-- An escaped text is read back as the text by the rules for escapes, and the quote behind it closes
it; so different texts are escaped differently. No escape runs into what follows it: behind the escape
of a character all is read as if it stood alone. -/
theorem escaped_read_back :
    (∀ (s : String) (after : List Char),
      readQuoted? ((escapeString s).toList ++ '"' :: after) = some (s.toList, after)) ∧
    Function.Injective escapeString ∧
    ∀ (c : Char) (rest : List Char),
      readQuoted? (escapeChar c ++ rest) = (readQuoted? rest).map (inFront c) := by
  have hread : ∀ (s : String) (after : List Char),
      readQuoted? ((escapeString s).toList ++ '"' :: after) = some (s.toList, after) := by
    intro s after
    rw [escapeString_toList, readQuoted?_escapeChars]
  refine ⟨hread, ?_, readQuoted?_escapeChar⟩
  intro s t h
  have hboth := hread s []
  rw [h, hread t []] at hboth
  exact (String.toList_injective (Prod.mk.inj (Option.some.inj hboth)).1).symm

/-- A control character before digits, a backslash before a mark, and a null before a digit. -/
example : readQuoted? ((escapeString "\x0112\\n\x000").toList ++ ['"']) =
    some ("\x0112\\n\x000".toList, []) := rfl

end LookupEnums.Source
