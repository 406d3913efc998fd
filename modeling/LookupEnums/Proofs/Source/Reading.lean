import LookupEnums.Proofs.Number.Decimal
import LookupEnums.Proofs.Source.Escape

/-! # Literals read back

A literal is read by how it opens: as a text in quotes, a truth value, a default or a construction, and
as a number where it opens like none of these. What is read tells everything about a value but its zone
and how its bytes are held, so no two values of different kinds or worth have the same literal.
-/
namespace LookupEnums
open Text

namespace Text

def upTo? (closing s : List Char) : Option (List Char) :=
  if closing.isSuffixOf s then some (s.take (s.length - closing.length)) else none

theorem upTo?_append (s closing : List Char) : upTo? closing (s ++ closing) = some s := by
  have hsuffix : closing.isSuffixOf (s ++ closing) = true :=
    List.isSuffixOf_iff_suffix.mpr (List.suffix_append s closing)
  rw [upTo?, if_pos hsuffix, List.length_append, Nat.add_sub_cancel, List.take_left]

def readParts? {α : Type} (separator : List Char) (part? : List Char → Option α) (s : List Char) :
    Option (List α) :=
  (pieces separator s).mapM part?

theorem readParts?_joinWith {α : Type} {c : Char} {separator : List Char}
    {part? : List Char → Option α} {parts : List (List Char)} {results : List α} (hne : parts ≠ [])
    (hplain : ∀ part ∈ parts, c ∉ part) (hread : parts.mapM part? = some results) :
    readParts? (c :: separator) part? (joinWith (c :: separator) parts) = some results := by
  have hpieces : pieces (c :: separator) (joinWith (c :: separator) parts) = parts := by
    clear hread
    induction parts with
    | nil => exact absurd rfl hne
    | cons part rest ih =>
      rw [List.forall_mem_cons] at hplain
      cases rest with
      | nil =>
        rw [joinWith, List.intercalate_singleton]
        refine pieces_of_not_infix fun hinfix => hplain.1 ?_
        exact hinfix.subset List.mem_cons_self
      | cons next rest =>
        rw [joinWith_cons_cons, pieces_append (List.cons_ne_nil c separator) (ahead_of_not_mem hplain.1),
          ih (List.cons_ne_nil next rest) hplain.2]
  rw [readParts?, hpieces, hread]

theorem not_mem_joinWith {c : Char} {separator : List Char} {parts : List (List Char)}
    (hseparator : c ∉ separator) (hparts : ∀ part ∈ parts, c ∉ part) :
    c ∉ joinWith separator parts := by
  induction parts with
  | nil => exact List.not_mem_nil
  | cons part rest ih =>
    rw [List.forall_mem_cons] at hparts
    cases rest with
    | nil =>
      rw [joinWith, List.intercalate_singleton]
      exact hparts.1
    | cons next rest =>
      rw [joinWith_cons_cons, List.mem_append, List.mem_append]
      rintro ((hc | hc) | hc)
      · exact hparts.1 hc
      · exact hseparator hc
      · exact ih hparts.2 hc

theorem mapM_map_eq_some {α β γ : Type} {write : α → β} {read? : β → Option γ} {value : α → γ}
    (h : ∀ a, read? (write a) = some (value a)) (items : List α) :
    (items.map write).mapM read? = some (items.map value) := by
  induction items with
  | nil => rfl
  | cons a items ih => simp [h, ih]

end Text

namespace Source

inductive Reading
  | default (type : List Char)
  | text (s : List Char)
  | bool (b : Bool)
  | integer (i : Int)
  | decimal (q : ℚ)
  /-- A date, with the time of day where there are six parts, and what is added to it. -/
  | dateTime (parts : List Nat) (ticks : Nat)
  | timeSpan (ticks : Int)
  | guid (n : Nat)
  | bytes (content : List Nat)
  deriving DecidableEq

def only (r : Reading) (rest : List Char) : Option Reading :=
  if rest.isEmpty then some r else none

def readText? (rest : List Char) : Option Reading :=
  match readQuoted? rest with
  | some (s, []) => some (.text s)
  | _ => none

def readDefault? (rest : List Char) : Option Reading :=
  (upTo? [')'] rest).map .default

/-- Ticks that are added, if any are. -/
def readTicks? (after : List Char) : Option Nat :=
  if after.isEmpty then some 0
  else if ".AddTicks(".toList.isPrefixOf after then
    (upTo? [')'] (after.drop ".AddTicks(".length)).bind readDecimal?
  else none

def readDateTime? (rest : List Char) : Option Reading :=
  (cut? [')'] rest).bind fun (arguments, after) =>
    (readParts? ", ".toList readDecimal? arguments).bind fun parts =>
      (readTicks? after).map (.dateTime parts)

def readTimeSpan? (rest : List Char) : Option Reading :=
  ((upTo? "L)".toList rest).bind readInt?).map .timeSpan

/-- The dashes between the digits do not count. -/
def readGuid? (rest : List Char) : Option Reading :=
  ((upTo? "\")".toList rest).bind fun s => readHex? (s.filter (· ≠ '-'))).map .guid

def readByte? (part : List Char) : Option Nat :=
  if "0x".toList.isPrefixOf part then readHex? (part.drop 2) else none

def readBytes? (rest : List Char) : Option Reading :=
  ((upTo? " \x7d".toList rest).bind (readParts? ", ".toList readByte?)).map .bytes

def readNumber? (s : List Char) : Option Reading :=
  if s.getLast? = some 'M' then (Decimal.readPlain? s.dropLast).map .decimal
  else (readInt? s).map .integer

/-- How literals open that are no numbers, and how they are read on. -/
def readers : List (List Char × (List Char → Option Reading)) := [
  ("\"".toList, readText?),
  ("true".toList, only (.bool true)),
  ("false".toList, only (.bool false)),
  ("default(".toList, readDefault?),
  ("new DateTime(".toList, readDateTime?),
  ("new TimeSpan(".toList, readTimeSpan?),
  ("new Guid(\"".toList, readGuid?),
  ("new byte[0]".toList, only (.bytes [])),
  ("new byte[] \x7b ".toList, readBytes?)]

def read? (s : List Char) : Option Reading :=
  match readers.find? (·.1.isPrefixOf s) with
  | some (opening, readOn) => readOn (s.drop opening.length)
  | none => readNumber? s

def reading? (expected : String) : Value → Option Reading
  | .null => some (.default expected.toList)
  | .text s => some (.text s.toList)
  | .bool b => some (.bool b)
  | .int i => some (.integer i)
  | .decimal (.finite negative c e) _ => some (.decimal (signed negative (c * 10 ^ e)))
  | .date d => some (.dateTime [d.year, d.month, d.day] 0)
  | .moment ⟨d, t⟩ =>
    some (.dateTime [d.year, d.month, d.day, t.hour, t.minute, t.second] (t.micro * 10))
  | .time t => some (.timeSpan (t.sinceMidnight * 10))
  | .span s => some (.timeSpan (s.micros * 10))
  | .uuid n => some (.guid n)
  | .bytes _ content => some (.bytes (content.map UInt8.toNat))
  | _ => none

section numbers
variable {s : List Char}

theorem openings_of_numbers : ∀ opening ∈ readers.map (·.1), ∃ c rest,
    opening = c :: rest ∧ ¬ (c.isDigit = true ∨ c = '-' ∨ c = '.') := by
  have hall : ∀ opening ∈ readers.map (·.1),
      opening.head?.any (fun c => !(c.isDigit || c == '-' || c == '.')) = true := by
    decide
  intro opening hopening
  have hhead := hall opening hopening
  cases opening with
  | nil => cases hhead
  | cons c rest => exact ⟨c, rest, rfl, by simpa [and_assoc] using hhead⟩

/-- What opens as a number does is read as one. -/
theorem read?_number (h : ∀ c ∈ s.head?, c.isDigit = true ∨ c = '-' ∨ c = '.') :
    read? s = readNumber? s := by
  have hnone : readers.find? (·.1.isPrefixOf s) = none := by
    rw [List.find?_eq_none]
    intro reader hreader hopens
    obtain ⟨c, rest, hopening, hother⟩ := openings_of_numbers _ (List.mem_map_of_mem hreader)
    rw [hopening, List.isPrefixOf_iff_prefix] at hopens
    obtain ⟨after, rfl⟩ := hopens
    exact hother (h c rfl)
  rw [read?, hnone]

theorem intDigits_chars (i : Int) : ∀ c ∈ intDigits i, c.isDigit = true ∨ c = '-' ∨ c = '.' := by
  intro c hc
  unfold intDigits at hc
  split at hc
  next =>
    rcases List.mem_cons.mp hc with rfl | hc
    · exact Or.inr (Or.inl rfl)
    · exact Or.inl (isDigit_decimalDigits _ c hc)
  next => exact Or.inl (isDigit_decimalDigits _ c hc)

theorem read?_integer (i : Int) : read? (intDigits i) = some (.integer i) := by
  have hlast : (intDigits i).getLast? ≠ some 'M' := by
    intro hlast
    exact absurd (intDigits_chars i 'M' (List.mem_of_mem_getLast? hlast)) (by decide)
  have hhead : ∀ c ∈ (intDigits i).head?, c.isDigit = true ∨ c = '-' ∨ c = '.' :=
    fun c hc => intDigits_chars i c (List.mem_of_mem_head? hc)
  rw [read?_number hhead, readNumber?, if_neg hlast, readInt?_intDigits]
  rfl

theorem read?_decimal (negative : Bool) (c : Nat) (e : Int) :
    read? ((Decimal.finite negative c e).plain ++ ['M']) =
      some (.decimal (signed negative (c * 10 ^ e))) := by
  have hread := Decimal.readPlain?_plain negative c e
  have hhead : ∀ d ∈ ((Decimal.finite negative c e).plain ++ ['M']).head?,
      d.isDigit = true ∨ d = '-' ∨ d = '.' := by
    intro d hd
    cases hplain : (Decimal.finite negative c e).plain with
    | nil =>
      rw [hplain] at hread
      cases hread
    | cons first rest =>
      rw [hplain] at hd
      obtain rfl : first = d := Option.some.inj hd
      exact Decimal.plain_chars negative c e first (hplain ▸ List.mem_cons_self)
  rw [read?_number hhead, readNumber?, if_pos (by simp), List.dropLast_concat, hread]
  rfl

end numbers

theorem read?_text (s : List Char) : read? (inDoubleQuotes (escapeChars s)) = some (.text s) := by
  have hread : read? (inDoubleQuotes (escapeChars s)) = readText? (escapeChars s ++ ['"']) := rfl
  rw [hread, readText?, readQuoted?_escapeChars]

theorem read?_default (expected : List Char) :
    read? ("default(".toList ++ expected ++ [')']) = some (.default expected) := by
  have hread : read? ("default(".toList ++ expected ++ [')']) = readDefault? (expected ++ [')']) := rfl
  rw [hread, readDefault?, upTo?_append]
  rfl

theorem read?_timeSpan (micros : Int) : read? (ticksLiteral micros) = some (.timeSpan (micros * 10)) := by
  have hread : read? (ticksLiteral micros) = readTimeSpan? (intDigits (micros * 10) ++ "L)".toList) := rfl
  rw [hread, readTimeSpan?, upTo?_append, Option.bind_some, readInt?_intDigits]
  rfl

theorem cut?_close {arguments : List Char} (h : ')' ∉ arguments) (after : List Char) :
    cut? [')'] (arguments ++ ')' :: after) = some (arguments, after) := by
  have hcut := cut?_append (List.cons_ne_nil ')' []) (ahead_of_not_mem h) after
  rwa [List.append_assoc] at hcut

theorem read?_dateTime {parts : List Nat} (hne : parts ≠ []) (after : List Char) :
    read? (newDateTime parts ++ after) = (readTicks? after).map (.dateTime parts) := by
  have hread : read? (newDateTime parts ++ after) =
      readDateTime? (Value.commaSeparated (parts.map decimalDigits) ++ ')' :: after) := by
    have hopening : ∀ opening arguments : List Char, opening ++ arguments ++ [')'] ++ after =
        opening ++ (arguments ++ ')' :: after) := by simp
    exact (congrArg read? (hopening "new DateTime(".toList _)).trans rfl
  have hplain : ∀ c, c.isDigit = false → ∀ part ∈ parts.map decimalDigits, c ∉ part := by
    intro c hc part hpart hmem
    obtain ⟨n, -, rfl⟩ := List.mem_map.mp hpart
    rw [isDigit_decimalDigits n c hmem] at hc
    cases hc
  have hclose : ')' ∉ Value.commaSeparated (parts.map decimalDigits) :=
    not_mem_joinWith (by decide) (hplain ')' rfl)
  have hparts : readParts? ", ".toList readDecimal? (Value.commaSeparated (parts.map decimalDigits)) =
      some parts := by
    refine readParts?_joinWith (by simpa using hne) (hplain ',' rfl) ?_
    rw [mapM_map_eq_some readDecimal?_decimalDigits, List.map_id']
  rw [hread, readDateTime?, cut?_close hclose]
  simp only [Option.bind_some, hparts]

theorem readTicks?_addTicks (n : Nat) :
    readTicks? (".AddTicks(".toList ++ decimalDigits n ++ [')']) = some n := by
  have hread : readTicks? (".AddTicks(".toList ++ decimalDigits n ++ [')']) =
      (upTo? [')'] (decimalDigits n ++ [')'])).bind readDecimal? := rfl
  rw [hread, upTo?_append, Option.bind_some, readDecimal?_decimalDigits]

/-- Without the dashes between them the groups are the digits again. -/
theorem filter_groups {s : List Char} (h : '-' ∉ s) :
    (s.take 8 ++ '-' :: (s.drop 8).take 4 ++ '-' :: (s.drop 12).take 4 ++ '-' :: (s.drop 16).take 4 ++
      '-' :: s.drop 20).filter (· ≠ '-') = s := by
  have hkept : ∀ group : List Char, group.Sublist s → group.filter (· ≠ '-') = group := by
    intro group hgroup
    rw [List.filter_eq_self]
    intro c hc
    have hne : c ≠ '-' := fun he => h (he ▸ hgroup.subset hc)
    exact decide_eq_true hne
  have hfour : ∀ k, (s.drop k).take 4 ++ s.drop (k + 4) = s.drop k := by
    intro k
    rw [← List.drop_drop, List.take_append_drop]
  have hinner : ∀ k, ((s.drop k).take 4).Sublist s :=
    fun k => (List.take_sublist 4 _).trans (List.drop_sublist k s)
  have hdash : ∀ rest : List Char, ('-' :: rest).filter (· ≠ '-') = rest.filter (· ≠ '-') :=
    fun rest => List.filter_cons_of_neg (by simp)
  simp only [List.filter_append, hdash]
  rw [hkept _ (List.take_sublist 8 s), hkept _ (hinner 8), hkept _ (hinner 12), hkept _ (hinner 16),
    hkept _ (List.drop_sublist 20 s), List.append_assoc, List.append_assoc, List.append_assoc, hfour 16,
    hfour 12, hfour 8, List.take_append_drop]

theorem filter_uuidText (n : Nat) : (Value.uuidText n).filter (· ≠ '-') = paddedHex 32 n := by
  refine filter_groups fun hdash => ?_
  cases isSome_hexValue? (readHex?_paddedHex 32 n) '-' hdash

theorem read?_guid (n : Nat) : read? (uuidLiteral n) = some (.guid n) := by
  have hread : read? (uuidLiteral n) = readGuid? (Value.uuidText n ++ "\")".toList) := by
    have hopening : ∀ opening digits : List Char, opening ++ inDoubleQuotes digits ++ [')'] =
        (opening ++ ['"']) ++ (digits ++ ['"', ')']) := by simp [inDoubleQuotes]
    exact (congrArg read? (hopening "new Guid(".toList _)).trans rfl
  rw [hread, readGuid?, upTo?_append, Option.bind_some, filter_uuidText, readHex?_paddedHex]
  rfl

theorem readByte?_written (b : UInt8) : readByte? ('0' :: 'x' :: upperHexByte b) = some b.toNat :=
  readHex?_upperHexByte b

theorem read?_bytes (content : List UInt8) :
    read? (bytesLiteral content) = some (.bytes (content.map UInt8.toNat)) := by
  unfold bytesLiteral
  split
  next hempty =>
    rw [List.isEmpty_iff.mp hempty]
    rfl
  next hsome =>
    let parts := content.map fun b => '0' :: 'x' :: upperHexByte b
    have hread : read? ("new byte[] ".toList ++ '\x7b' :: ' ' :: Value.commaSeparated parts ++ [' ', '\x7d']) =
        readBytes? (Value.commaSeparated parts ++ " \x7d".toList) := rfl
    have hplain : ∀ part ∈ parts, ',' ∉ part := by
      intro part hpart hcomma
      obtain ⟨b, -, rfl⟩ := List.mem_map.mp hpart
      simp only [List.mem_cons] at hcomma
      rcases hcomma with hcomma | hcomma | hcomma
      · cases hcomma
      · cases hcomma
      · cases isSome_hexValue? (readHex?_upperHexByte b) ',' hcomma
    rw [hread, readBytes?, upTo?_append, Option.bind_some]
    have hparts : readParts? ", ".toList readByte? (Value.commaSeparated parts) =
        some (content.map UInt8.toNat) :=
      readParts?_joinWith (by simpa [parts] using hsome) hplain (mapM_map_eq_some readByte?_written content)
    rw [hparts]
    rfl

/-- A literal is read as what its value is. -/
theorem read?_literalChars {expected : String} {v : Value} {r : Reading}
    (h : reading? expected v = some r) : read? (literalChars expected v) = some r := by
  rw [← h]
  cases v with
  | null => exact read?_default expected.toList
  | text s => exact read?_text s.toList
  | bool b => cases b <;> rfl
  | int i => exact read?_integer i
  | decimal d _ =>
    cases d with
    | finite negative c e => exact read?_decimal negative c e
    | infinite negative => cases h
    | nan negative signaling payload => cases h
  | date d =>
    have hparts : [d.year, d.month, d.day] ≠ [] := by simp
    have hread := read?_dateTime hparts []
    rw [List.append_nil] at hread
    exact hread
  | moment m =>
    have hparts : [m.date.year, m.date.month, m.date.day, m.clock.hour, m.clock.minute,
        m.clock.second] ≠ [] := by simp
    refine (read?_dateTime hparts _).trans ?_
    split
    next hnone =>
      change some (Reading.dateTime _ 0) = some (.dateTime _ (m.clock.micro * 10))
      rw [hnone]
    next => rw [readTicks?_addTicks]; rfl
  | time t => exact read?_timeSpan t.sinceMidnight
  | span s => exact read?_timeSpan s.micros
  | uuid n => exact read?_guid n
  | bytes form content => exact read?_bytes content
  | _ => cases h

end Source

inductive Kind
  | text
  | bool
  | integer
  | decimal
  | date
  | moment
  | span
  | uuid
  | bytes
  deriving DecidableEq, Repr

/-- The values of a kind: decimals that are finite, moments without a zone, bytes however held. -/
inductive Value.OfKind : Value → Kind → Prop
  | text (s : String) : OfKind (.text s) .text
  | bool (b : Bool) : OfKind (.bool b) .bool
  | integer (i : Int) : OfKind (.int i) .integer
  | decimal (negative : Bool) (coefficient : Nat) (exponent : Int) (object : Nat) :
      OfKind (.decimal (.finite negative coefficient exponent) object) .decimal
  | date (d : Date) : OfKind (.date d) .date
  | moment (d : Date) (hour minute second micro : Nat) :
      OfKind (.moment ⟨d, ⟨hour, minute, second, micro, none⟩⟩) .moment
  | span (s : Span) : OfKind (.span s) .span
  | uuid (n : Nat) : OfKind (.uuid n) .uuid
  | bytes (form : ByteForm) (content : List UInt8) : OfKind (.bytes form content) .bytes

theorem Date.eq_of_parts {d e : Date} (h : [d.year, d.month, d.day] = [e.year, e.month, e.day]) :
    d = e := by
  cases d
  cases e
  simp only [List.cons.injEq, and_true] at h
  obtain ⟨rfl, rfl, rfl⟩ := h
  rfl

/-- A span is made of whole days, the seconds after them and the microseconds after those. -/
theorem Span.micros_eq (s : Span) :
    s.micros = (s.days * 86400 + s.seconds) * 1000000 + s.subseconds ∧
      0 ≤ s.seconds ∧ s.seconds < 86400 ∧ 0 ≤ s.subseconds ∧ s.subseconds < 1000000 := by
  unfold days seconds subseconds microsPerDay microsPerSecond
  simp only [Int.fdiv_eq_ediv_of_nonneg _ (show (0 : Int) ≤ 86400 * 1000000 by decide),
    Int.fdiv_eq_ediv_of_nonneg _ (show (0 : Int) ≤ 1000000 by decide),
    Int.fmod_eq_emod_of_nonneg _ (show (0 : Int) ≤ 86400 * 1000000 by decide),
    Int.fmod_eq_emod_of_nonneg _ (show (0 : Int) ≤ 1000000 by decide)]
  omega

namespace Source

def Reading.kind? : Reading → Option Kind
  | default _ => none
  | text _ => some .text
  | bool _ => some .bool
  | integer _ => some .integer
  | decimal _ => some .decimal
  | dateTime parts _ => some (if parts.length = 3 then .date else .moment)
  | timeSpan _ => some .span
  | guid _ => some .uuid
  | bytes _ => some .bytes

section kinds
variable {v w : Value} {k l : Kind} {expected expected' : String}

theorem exists_reading (h : v.OfKind k) (expected : String) :
    ∃ r, reading? expected v = some r ∧ r.kind? = some k := by
  cases h <;> exact ⟨_, rfl, rfl⟩

theorem sameKey_of_eq {x : KeyForm} (h : v.keyForm? = some x) (hw : w = v) : v.sameKey w = true :=
  Value.sameKey_iff.mpr ⟨x, hw ▸ h, h⟩

theorem sameKey_of_numeric {x : Numeric} (hv : v.numeric? = some x) (hw : w.numeric? = some x) :
    v.sameKey w = true :=
  (Value.sameKey_iff_of_numeric hv).mpr hw

/-- Values of one kind that are read as the same are the same. -/
theorem sameKey_of_reading (hv : v.OfKind k) (hw : w.OfKind k)
    (h : reading? expected v = reading? expected' w) : v.sameKey w = true := by
  cases hv with
  | text s =>
    cases hw with
    | text t =>
      obtain rfl : s = t := String.toList_injective (Reading.text.inj (Option.some.inj h))
      exact sameKey_of_eq rfl rfl
  | bool b =>
    cases hw with
    | bool c =>
      obtain rfl : b = c := Reading.bool.inj (Option.some.inj h)
      exact sameKey_of_numeric rfl rfl
  | integer i =>
    cases hw with
    | integer j =>
      obtain rfl : i = j := Reading.integer.inj (Option.some.inj h)
      exact sameKey_of_numeric rfl rfl
  | decimal negative c e _ =>
    cases hw with
    | decimal negative' c' e' _ =>
      have hworth := Reading.decimal.inj (Option.some.inj h)
      refine sameKey_of_numeric rfl ?_
      rw [Value.numeric?, ← hworth]
  | date d =>
    cases hw with
    | date e =>
      have hparts := (Reading.dateTime.inj (Option.some.inj h)).1
      obtain rfl : d = e := Date.eq_of_parts hparts
      exact sameKey_of_eq rfl rfl
  | moment d hour minute second micro =>
    cases hw with
    | moment e hour' minute' second' micro' =>
      obtain ⟨hparts, hticks⟩ := Reading.dateTime.inj (Option.some.inj h)
      simp only [List.cons.injEq, and_true] at hparts
      obtain ⟨hyear, hmonth, hday, rfl, rfl, rfl⟩ := hparts
      obtain rfl : d = e := Date.eq_of_parts (by rw [hyear, hmonth, hday])
      obtain rfl : micro = micro' := Nat.eq_of_mul_eq_mul_right (by decide) hticks
      exact sameKey_of_eq rfl rfl
  | span s =>
    cases hw with
    | span t =>
      have hticks := Reading.timeSpan.inj (Option.some.inj h)
      have hmicros : s.micros = t.micros := Int.eq_of_mul_eq_mul_right (by decide) hticks
      obtain rfl : s = t := by
        cases s
        exact congrArg Span.mk hmicros
      exact sameKey_of_eq rfl rfl
  | uuid n =>
    cases hw with
    | uuid m =>
      obtain rfl : n = m := Reading.guid.inj (Option.some.inj h)
      exact sameKey_of_eq rfl rfl
  | bytes form content =>
    cases hw with
    | bytes form' content' =>
      have hcontent := Reading.bytes.inj (Option.some.inj h)
      obtain rfl : content = content' :=
        List.map_injective_iff.mpr (fun _ _ => UInt8.toNat_inj.mp) hcontent
      exact Value.sameKey_iff.mpr ⟨_, rfl, rfl⟩

end kinds

/-- Of two values of these kinds, with whatever types they are used as, no two have the same literal
unless they are of one kind and the same. The literal of a span holds its length in ticks, ten to a
microsecond, and that of a decimal its exact value in digits, with a point and a sign at most. -/
theorem literals_told_apart :
    (∀ (v w : Value) (k l : Kind) (expected expected' : String), v.OfKind k → w.OfKind l →
      literal v expected = literal w expected' → k = l ∧ v.sameKey w = true) ∧
    (∀ (s : Span) (expected : String), ∃ ticks : List Char,
      (literal (.span s) expected).toList = "new TimeSpan(".toList ++ ticks ++ "L)".toList ∧
      readInt? ticks = some (10 * s.micros) ∧
      s.micros = (s.days * 86400 + s.seconds) * 1000000 + s.subseconds ∧
      0 ≤ s.seconds ∧ s.seconds < 86400 ∧ 0 ≤ s.subseconds ∧ s.subseconds < 1000000) ∧
    ∀ (negative : Bool) (coefficient : Nat) (exponent : Int) (object : Nat) (expected : String),
      ∃ digits : List Char,
      (literal (.decimal (.finite negative coefficient exponent) object) expected).toList = digits ++ ['M'] ∧
      (∀ c ∈ digits, c.isDigit = true ∨ c = '-' ∨ c = '.') ∧
      Decimal.readPlain? digits = some (signed negative (coefficient * 10 ^ exponent)) := by
  refine ⟨?_, ?_, ?_⟩
  · intro v w k l expected expected' hv hw hliteral
    obtain ⟨r, hr, hrkind⟩ := exists_reading hv expected
    obtain ⟨q, hq, hqkind⟩ := exists_reading hw expected'
    -- the two are read from the same text
    have hread : some r = some q := by
      rw [← read?_literalChars hr, String.ofList_injective hliteral, read?_literalChars hq]
    obtain rfl := Option.some.inj hread
    obtain rfl : k = l := Option.some.inj (hrkind.symm.trans hqkind)
    exact ⟨rfl, sameKey_of_reading hv hw (hr.trans hq.symm)⟩
  · intro s expected
    refine ⟨intDigits (s.micros * 10), String.toList_ofList, ?_, s.micros_eq⟩
    rw [readInt?_intDigits, Int.mul_comm]
  · intro negative coefficient exponent object expected
    exact ⟨(Decimal.finite negative coefficient exponent).plain, String.toList_ofList,
      Decimal.plain_chars negative coefficient exponent,
      Decimal.readPlain?_plain negative coefficient exponent⟩

/-- A hundred that is written in two ways has one literal. -/
theorem literals_told_apart_hundred :
    literal (.decimal (.finite false 1 2) 0) "decimal" =
        literal (.decimal (.finite false 100 0) 1) "money" ∧
      (Value.decimal (.finite false 1 2) 0).sameKey (.decimal (.finite false 100 0) 1) = true := by
  have hliteral : literal (.decimal (.finite false 1 2) 0) "decimal" =
      literal (.decimal (.finite false 100 0) 1) "money" := rfl
  exact ⟨hliteral, (literals_told_apart.1 _ _ _ _ "decimal" "money" (.decimal false 1 2 0)
    (.decimal false 100 0 1) hliteral).2⟩

end Source

end LookupEnums
