import LookupEnums.Proofs.Text.Unbroken
import LookupEnums.Source.Literal

/-! # Literals on one line

A literal ends no line, except where it is that of a text with one of the two separators that are
not escaped, the line separator and the paragraph separator. Whatever the text holds, its quotes
are closed by the last character of the literal and by none before.
-/
namespace LookupEnums
open Text

variable {allowed : Char → Prop}

namespace Text

theorem unbroken_zeroPadded {s : List Char} (h : Unbroken allowed s) (width : Nat) :
    Unbroken allowed (zeroPadded width s) :=
  (Unbroken.replicate (by decide)).append h

end Text

namespace Decimal

theorem unbroken_signText (negative : Bool) : Unbroken allowed (signText negative) := by
  cases negative
  · exact Unbroken.nil
  · exact Unbroken.of_forall (by decide)

theorem unbroken_plainDigits (coefficient : Nat) (exponent : Int) :
    Unbroken allowed (plainDigits coefficient exponent) := by
  have hdigits : Unbroken allowed (decimalDigits coefficient) := unbroken_decimalDigits coefficient
  unfold plainDigits
  split
  · have hpadded := unbroken_zeroPadded hdigits (exponent.natAbs + 1)
    unfold withPoint
    simp only
    split
    · exact hpadded
    · exact (hpadded.take _).append (Unbroken.cons (by decide) (hpadded.drop _))
  · split
    · exact Unbroken.of_forall (by decide)
    · exact hdigits.append (Unbroken.replicate (by decide))

theorem unbroken_scientificDigits (coefficient : Nat) (exponent : Int) :
    Unbroken allowed (scientificDigits coefficient exponent) := by
  have hdigits : Unbroken allowed (decimalDigits coefficient) := unbroken_decimalDigits coefficient
  unfold scientificDigits
  simp only
  refine Unbroken.append ((hdigits.take 1).append ?_) ?_
  · split
    · exact Unbroken.nil
    · exact Unbroken.cons (by decide) (hdigits.drop 1)
  · refine Unbroken.cons (by decide) (Unbroken.cons ?_ (unbroken_decimalDigits _))
    split <;> decide

theorem unbroken_specialText (d : Decimal) : Unbroken allowed d.specialText := by
  cases d with
  | finite => exact Unbroken.nil
  | infinite negative => exact (unbroken_signText negative).append (Unbroken.of_forall (by decide))
  | nan negative signaling payload =>
    refine ((unbroken_signText negative).append ?_).append ?_
    · cases signaling <;> exact Unbroken.of_forall (by decide)
    · unfold payloadText
      split
      · exact Unbroken.nil
      · exact unbroken_decimalDigits payload

theorem unbroken_shown (d : Decimal) : Unbroken allowed d.shown := by
  cases d with
  | finite negative coefficient exponent =>
    unfold shown
    refine (unbroken_signText negative).append ?_
    split
    · exact unbroken_plainDigits _ _
    · exact unbroken_scientificDigits _ _
  | infinite negative => exact unbroken_specialText (.infinite negative)
  | nan negative signaling payload => exact unbroken_specialText (.nan negative signaling payload)

theorem unbroken_plain (d : Decimal) : Unbroken allowed d.plain := by
  cases d with
  | finite negative coefficient exponent =>
    exact (unbroken_signText negative).append (unbroken_plainDigits _ _)
  | infinite negative => exact unbroken_specialText (.infinite negative)
  | nan negative signaling payload => exact unbroken_specialText (.nan negative signaling payload)

end Decimal

namespace Binary64

theorem unbroken_dropTrailingZeros {digits : List Char} (h : Unbroken allowed digits) :
    Unbroken allowed (dropTrailingZeros digits) := by
  refine h.subset fun c hc => ?_
  have hc : c ∈ digits.reverse.dropWhile (· = '0') := List.mem_reverse.mp hc
  exact List.mem_reverse.mp ((List.dropWhile_sublist _).subset hc)

theorem unbroken_positional {digits : List Char} (h : Unbroken allowed digits) (point : Int) :
    Unbroken allowed (positional digits point) := by
  unfold positional
  split
  · refine Unbroken.append ?_ h
    exact Unbroken.cons (by decide) (Unbroken.cons (by decide) (Unbroken.replicate (by decide)))
  · simp only
    split
    · exact (h.append (Unbroken.replicate (by decide))).append (Unbroken.of_forall (by decide))
    · exact (h.take _).append (Unbroken.cons (by decide) (h.drop _))

theorem unbroken_exponential {digits : List Char} (h : Unbroken allowed digits) (point : Int) :
    Unbroken allowed (exponential digits point) := by
  unfold exponential
  simp only
  refine Unbroken.append ((h.take 1).append ?_) ?_
  · split
    · exact Unbroken.nil
    · exact Unbroken.cons (by decide) (h.drop 1)
  · refine Unbroken.cons (by decide) (Unbroken.cons ?_ (unbroken_paddedDecimal 2 _))
    split <;> decide

theorem unbroken_shown (x : Binary64) : Unbroken allowed x.shown := by
  cases x with
  | nan => exact Unbroken.of_forall (by decide)
  | infinite negative =>
    exact (Decimal.unbroken_signText negative).append (Unbroken.of_forall (by decide))
  | finite negative m e =>
    unfold shown
    refine (Decimal.unbroken_signText negative).append ?_
    split
    · exact Unbroken.of_forall (by decide)
    · have hdigits : Unbroken allowed (dropTrailingZeros (decimalDigits (shortest m e).digits)) :=
        unbroken_dropTrailingZeros (unbroken_decimalDigits _)
      simp only
      split
      · exact unbroken_positional hdigits _
      · exact unbroken_exponential hdigits _

end Binary64

namespace Value

theorem unbroken_uuidText (n : Nat) : Unbroken allowed (uuidText n) := by
  have hhex : Unbroken allowed (paddedHex 32 n) := unbroken_paddedHex 32 n
  have hdash : '-' ∉ terminators := by decide
  exact ((((hhex.take 8).append (Unbroken.cons hdash ((hhex.drop 8).take 4))).append
    (Unbroken.cons hdash ((hhex.drop 12).take 4))).append
    (Unbroken.cons hdash ((hhex.drop 16).take 4))).append (Unbroken.cons hdash (hhex.drop 20))

theorem unbroken_commaSeparated {parts : List (List Char)}
    (h : ∀ part ∈ parts, Unbroken allowed part) : Unbroken allowed (commaSeparated parts) :=
  Unbroken.intercalate (Unbroken.of_forall (by decide)) h

theorem unbroken_constructed {name : String} (hname : ∀ c ∈ name.toList, c ∉ terminators)
    {arguments : List (List Char)} (h : ∀ part ∈ arguments, Unbroken allowed part) :
    Unbroken allowed (constructed name arguments) :=
  ((Unbroken.of_forall hname).append (Unbroken.cons (by decide) (unbroken_commaSeparated h))).append
    (Unbroken.of_forall (by decide))

theorem unbroken_inApostrophes {s : List Char} (h : Unbroken allowed s) :
    Unbroken allowed ('\'' :: s ++ ['\'']) :=
  (Unbroken.cons (by decide) h).append (Unbroken.of_forall (by decide))

theorem unbroken_spanInMessage (s : Span) : Unbroken allowed (spanInMessage s) := by
  refine unbroken_constructed (by decide) ?_
  intro part hpart
  split at hpart
  · rw [List.mem_singleton.mp hpart]
    exact Unbroken.of_forall (by decide)
  · -- the names in front of the numbers are plain, and so are the numbers
    have hone : ∀ (name : String) (n : Int), (∀ c ∈ name.toList, c ∉ terminators) →
        ∀ part ∈ (if n = 0 then [] else [name.toList ++ '=' :: intDigits n]), Unbroken allowed part := by
      intro name n hname part hpart
      split at hpart
      · cases hpart
      · rw [List.mem_singleton.mp hpart]
        exact (Unbroken.of_forall hname).append (Unbroken.cons (by decide) (unbroken_intDigits n))
    rcases List.mem_append.mp hpart with hpart | hpart
    · rcases List.mem_append.mp hpart with hpart | hpart
      · exact hone "days" _ (by decide) part hpart
      · exact hone "seconds" _ (by decide) part hpart
    · exact hone "microseconds" _ (by decide) part hpart

theorem unbroken_mapDigits (numbers : List Nat) :
    ∀ part ∈ numbers.map decimalDigits, Unbroken allowed part := by
  intro part hpart
  obtain ⟨n, -, rfl⟩ := List.mem_map.mp hpart
  exact unbroken_decimalDigits n

theorem unbroken_clockArguments (t : ClockTime) :
    ∀ part ∈ clockArguments t, Unbroken allowed part := by
  intro part hpart
  rcases List.mem_append.mp hpart with hpart | hpart
  · exact unbroken_mapDigits _ part hpart
  · cases hoffset : t.offset with
    | none =>
      rw [hoffset] at hpart
      cases hpart
    | some offset =>
      rw [hoffset] at hpart
      rw [List.mem_singleton.mp hpart]
      refine (Unbroken.of_forall (by decide)).append ?_
      unfold zoneInMessage
      split
      · exact Unbroken.of_forall (by decide)
      · refine unbroken_constructed (by decide) ?_
        simpa using unbroken_spanInMessage offset

theorem unbroken_bytesInMessage (form : ByteForm) (content : List UInt8) :
    Unbroken allowed (bytesInMessage form content) := by
  cases form with
  | fixed => exact unbroken_quotedBytes content
  | mutable => exact unbroken_constructed (by decide) (by simp)
  | view _ =>
    have hmemory : ∀ c ∈ "<memory>".toList, c ∉ terminators := by decide
    exact Unbroken.of_forall hmemory

mutual

theorem unbroken_inMessage (v : Value) : Unbroken allowed v.inMessage := by
  cases v with
  | null => exact Unbroken.of_forall (by decide)
  | bool b => cases b <;> exact Unbroken.of_forall (by decide)
  | int i => exact unbroken_intDigits i
  | float x _ => exact x.unbroken_shown
  | decimal d _ =>
    refine unbroken_constructed (by decide) ?_
    simpa using unbroken_inApostrophes d.unbroken_shown
  | text s => exact unbroken_quoted s.toList
  | bytes form content => exact unbroken_bytesInMessage form content
  | date d => exact unbroken_constructed (by decide) (unbroken_mapDigits _)
  | moment m =>
    refine unbroken_constructed (by decide) fun part hpart => ?_
    rcases List.mem_append.mp hpart with hpart | hpart
    · exact unbroken_mapDigits _ part hpart
    · exact unbroken_clockArguments m.clock part hpart
  | time t => exact unbroken_constructed (by decide) (unbroken_clockArguments t)
  | span s => exact unbroken_spanInMessage s
  | uuid n =>
    refine unbroken_constructed (by decide) ?_
    simpa using unbroken_inApostrophes (unbroken_uuidText n)
  | list items =>
    exact (Unbroken.cons (by decide) (unbroken_commaSeparated (unbroken_itemsInMessage items))).append
      (Unbroken.of_forall (by decide))
  | dict entries =>
    exact (Unbroken.cons (by decide)
      (unbroken_commaSeparated (unbroken_entriesInMessage entries))).append
      (Unbroken.of_forall (by decide))

theorem unbroken_itemsInMessage (items : List Value) :
    ∀ part ∈ itemsInMessage items, Unbroken allowed part := by
  cases items with
  | nil => simp [itemsInMessage]
  | cons v rest =>
    rw [itemsInMessage, List.forall_mem_cons]
    exact ⟨unbroken_inMessage v, unbroken_itemsInMessage rest⟩

theorem unbroken_entriesInMessage (entries : List (Value × Value)) :
    ∀ part ∈ entriesInMessage entries, Unbroken allowed part := by
  cases entries with
  | nil => simp [entriesInMessage]
  | cons entry rest =>
    obtain ⟨k, v⟩ := entry
    rw [entriesInMessage, List.forall_mem_cons]
    refine ⟨?_, unbroken_entriesInMessage rest⟩
    exact (unbroken_inMessage k).append
      (Unbroken.cons (by decide) (Unbroken.cons (by decide) (unbroken_inMessage v)))

end

end Value

namespace Source

/-- The terminators that no text is freed of when it is escaped. -/
def separators : List Char :=
  ['\u2028', '\u2029']

def namedEscapes : List (Char × Char) :=
  [('\\', '\\'), ('"', '"'), ('\x00', '0'), ('\x07', 'a'), ('\x08', 'b'), ('\x0c', 'f'), ('\n', 'n'),
    ('\r', 'r'), ('\t', 't'), ('\x0b', 'v')]

theorem escapeChar_named : ∀ entry ∈ namedEscapes,
    escapeChar entry.1 = ['\\', entry.2] ∧ entry.2 ∉ terminators := by decide

theorem escapeChar_of_not_named {c : Char} (h : c ∉ namedEscapes.map (·.1)) :
    escapeChar c = if c.toNat < 0x20 || (0x7f ≤ c.toNat && c.toNat < 0xa0) then
      '\\' :: 'u' :: paddedHex 4 c.toNat else [c] := by
  simp only [namedEscapes, List.map_cons, List.map_nil, List.mem_cons, List.not_mem_nil, or_false,
    not_or] at h
  obtain ⟨h0, h1, h2, h3, h4, h5, h6, h7, h8, h9⟩ := h
  rw [escapeChar, if_neg h0, if_neg h1, if_neg h2, if_neg h3, if_neg h4, if_neg h5, if_neg h6,
    if_neg h7, if_neg h8, if_neg h9]

/-- A character is escaped by a mark or by its code, or it stays and is no quote, no backslash and,
but for the separators, no end of a line. -/
theorem escapeChar_cases (c : Char) :
    (∃ mark, mark ∉ terminators ∧ escapeChar c = ['\\', mark]) ∨
    escapeChar c = '\\' :: 'u' :: paddedHex 4 c.toNat ∨
    (escapeChar c = [c] ∧ c ≠ '\\' ∧ c ≠ '"' ∧ (c ∈ terminators → c ∈ separators)) := by
  by_cases hnamed : c ∈ namedEscapes.map (·.1)
  · obtain ⟨entry, hentry, rfl⟩ := List.mem_map.mp hnamed
    obtain ⟨hescape, hmark⟩ := escapeChar_named entry hentry
    exact Or.inl ⟨entry.2, hmark, hescape⟩
  · rw [escapeChar_of_not_named hnamed]
    split
    · exact Or.inr (Or.inl rfl)
    next hcode =>
      refine Or.inr (Or.inr ⟨rfl, ?_, ?_, ?_⟩)
      · rintro rfl
        exact hnamed (by decide)
      · rintro rfl
        exact hnamed (by decide)
      · intro hend
        -- of the terminators the line feed and the carriage return are named, the next has its code
        have hother : ∀ t ∈ terminators, t ∈ separators ∨ t ∈ namedEscapes.map (·.1) ∨
            (t.toNat < 0x20 || (0x7f ≤ t.toNat && t.toNat < 0xa0)) = true := by decide
        rcases hother c hend with hseparator | hmember | hrange
        · exact hseparator
        · exact absurd hmember hnamed
        · exact absurd hrange hcode

theorem unbroken_escapeChars {s : List Char} (h : ∀ c ∈ s, c ∈ separators → allowed c) :
    Unbroken allowed (escapeChars s) := by
  refine Unbroken.flatMap fun c hc => ?_
  rcases escapeChar_cases c with ⟨mark, hmark, hescape⟩ | hescape | ⟨hescape, -, -, hend⟩
  · rw [hescape]
    exact Unbroken.cons (by decide) (Unbroken.cons hmark Unbroken.nil)
  · rw [hescape]
    exact Unbroken.cons (by decide) (Unbroken.cons (by decide) (unbroken_paddedHex 4 _))
  · rw [hescape, Unbroken.cons_iff]
    exact ⟨fun hc' => h c hc (hend hc'), Unbroken.nil⟩

theorem unbroken_newDateTime (parts : List Nat) : Unbroken allowed (newDateTime parts) :=
  ((Unbroken.of_forall (by decide)).append
    (Value.unbroken_commaSeparated (Value.unbroken_mapDigits parts))).append
    (Unbroken.of_forall (by decide))

theorem unbroken_momentLiteral (m : Moment) : Unbroken allowed (momentLiteral m) := by
  refine (unbroken_newDateTime _).append ?_
  split
  · exact Unbroken.nil
  · exact ((Unbroken.of_forall (by decide)).append (unbroken_decimalDigits _)).append
      (Unbroken.of_forall (by decide))

theorem unbroken_ticksLiteral (micros : Int) : Unbroken allowed (ticksLiteral micros) :=
  ((Unbroken.of_forall (by decide)).append (unbroken_intDigits _)).append
    (Unbroken.of_forall (by decide))

theorem unbroken_inDoubleQuotes {s : List Char} (h : Unbroken allowed s) :
    Unbroken allowed (inDoubleQuotes s) :=
  (Unbroken.cons (by decide) h).append (Unbroken.of_forall (by decide))

theorem unbroken_uuidLiteral (n : Nat) : Unbroken allowed (uuidLiteral n) :=
  ((Unbroken.of_forall (by decide)).append
    (unbroken_inDoubleQuotes (Value.unbroken_uuidText n))).append (Unbroken.of_forall (by decide))

theorem unbroken_bytesLiteral (content : List UInt8) : Unbroken allowed (bytesLiteral content) := by
  unfold bytesLiteral
  split
  · exact Unbroken.of_forall (by decide)
  · have hbytes : ∀ part ∈ content.map (fun b => '0' :: 'x' :: upperHexByte b),
        Unbroken allowed part := by
      intro part hpart
      obtain ⟨b, -, rfl⟩ := List.mem_map.mp hpart
      exact Unbroken.cons (by decide) (Unbroken.cons (by decide) (unbroken_upperHexByte b))
    refine Unbroken.append (Unbroken.append (Unbroken.of_forall (by decide)) ?_)
      (Unbroken.of_forall (by decide))
    exact Unbroken.cons (by decide) (Unbroken.cons (by decide) (Value.unbroken_commaSeparated hbytes))

theorem unbroken_floatLiteral (x : Binary64) : Unbroken allowed (floatLiteral x) := by
  unfold floatLiteral
  split
  · exact Unbroken.of_forall (by decide)
  · exact Unbroken.of_forall (by decide)
  · exact Unbroken.of_forall (by decide)
  · exact x.unbroken_shown.append (Unbroken.of_forall (by decide))

/-- A literal ends a line only where its text holds a separator. -/
theorem unbroken_literalChars {expected : String} (hexpected : Unbroken allowed expected.toList)
    {v : Value} (h : ∀ s, v = .text s → ∀ c ∈ s.toList, c ∈ separators → allowed c) :
    Unbroken allowed (literalChars expected v) := by
  cases v with
  | null =>
    exact ((Unbroken.of_forall (by decide)).append hexpected).append (Unbroken.of_forall (by decide))
  | bool b =>
    have hwords : ∀ b : Bool, ∀ c ∈ (if b then "true" else "false").toList, c ∉ terminators := by decide
    exact Unbroken.of_forall (hwords b)
  | int i => exact unbroken_intDigits i
  | float x _ => exact unbroken_floatLiteral x
  | decimal d _ => exact d.unbroken_plain.append (Unbroken.of_forall (by decide))
  | text s => exact unbroken_inDoubleQuotes (unbroken_escapeChars (h s rfl))
  | bytes form content => exact unbroken_bytesLiteral content
  | date d => exact unbroken_newDateTime _
  | moment m => exact unbroken_momentLiteral m
  | time t => exact unbroken_ticksLiteral _
  | span s => exact unbroken_ticksLiteral _
  | uuid n => exact unbroken_uuidLiteral n
  | list items => exact Value.unbroken_inMessage (.list items)
  | dict entries => exact Value.unbroken_inMessage (.dict entries)

/-- What follows the first double quote that no backslash escapes. -/
def afterQuote? : List Char → Option (List Char)
  | [] => none
  | '\\' :: _ :: rest => afterQuote? rest
  | '"' :: rest => some rest
  | _ :: rest => afterQuote? rest

theorem afterQuote?_cons {c : Char} (hbackslash : c ≠ '\\') (hquote : c ≠ '"') (rest : List Char) :
    afterQuote? (c :: rest) = afterQuote? rest := by
  rw [afterQuote?]
  · rintro _ _ rfl
    exact absurd rfl hbackslash
  · exact hquote

theorem afterQuote?_append {s : List Char} (h : ∀ c ∈ s, c ≠ '\\' ∧ c ≠ '"') (rest : List Char) :
    afterQuote? (s ++ rest) = afterQuote? rest := by
  induction s with
  | nil => rfl
  | cons c s ih =>
    rw [List.forall_mem_cons] at h
    rw [List.cons_append, afterQuote?_cons h.1.1 h.1.2, ih h.2]

theorem paddedHex_plain (width n : Nat) : ∀ c ∈ paddedHex width n, c ≠ '\\' ∧ c ≠ '"' := by
  have hsmall : ∀ n < 16, n.digitChar ≠ '\\' ∧ n.digitChar ≠ '"' := by decide
  intro c hc
  rcases List.mem_append.mp hc with hc | hc
  · rw [(List.mem_replicate.mp hc).2]
    decide
  · obtain ⟨d, rfl⟩ := mem_toDigits (by decide) n c hc
    by_cases hd : d < 16
    · exact hsmall d hd
    · rw [Nat.digitChar_eq_star.mpr (Nat.le_of_not_lt hd)]
      decide

/-- No double quote within an escaped text stands unescaped. -/
theorem afterQuote?_escapeChars (s rest : List Char) :
    afterQuote? (escapeChars s ++ '"' :: rest) = some rest := by
  induction s with
  | nil => rfl
  | cons c s ih =>
    rw [escapeChars, List.flatMap_cons, List.append_assoc]
    rcases escapeChar_cases c with ⟨mark, -, hescape⟩ | hescape | ⟨hescape, hbackslash, hquote, -⟩
    · rw [hescape]
      exact ih
    · rw [hescape]
      exact (afterQuote?_append (paddedHex_plain 4 _) _).trans ih
    · rw [hescape]
      exact (afterQuote?_cons hbackslash hquote _).trans ih

theorem literalChars_text (text expected : String) :
    literalChars expected (.text text) = '"' :: (escapeChars text.toList ++ ['"']) := by
  unfold literalChars
  simp only [inDoubleQuotes, List.cons_append]

end Source

end LookupEnums
