import LookupEnums.Proofs.Files.Foreign
import LookupEnums.Proofs.Mapping.SourceBlock
import LookupEnums.Proofs.Text.Line

/-! # Mappings are no databases

A file that holds a mapping is text, and starts as a text of its format does. So it is no database, and
no log of one either.
-/
namespace LookupEnums

namespace Image
variable {b : ByteArray} {s : String}

theorem eq_utf8Encode (h : String.fromUTF8? b = some s) : b = s.toList.utf8Encode := by
  rw [String.utf8Encode_toList]
  unfold String.fromUTF8? at h
  split at h
  next =>
    cases h
    rfl
  next => cases h

theorem isPrefix_of_extract {head : List Char} {n : Nat} (h : String.fromUTF8? b = some s)
    (hhead : b.extract 0 n = head.utf8Encode) : head <+: s.toList := by
  refine List.isPrefix_of_utf8Encode_append_eq_utf8Encode (b.extract n b.size) ?_
  calc head.utf8Encode ++ b.extract n b.size
      = b.extract 0 n ++ b.extract n b.size := by rw [hhead]
    _ = b := by
      rw [ByteArray.extract_append_extract, Nat.zero_min, ByteArray.extract_zero_max_size]
    _ = s.toList.utf8Encode := eq_utf8Encode h

theorem byte?_lt {n d : Nat} (h : byte? b n = some d) : d < 256 := by
  obtain ⟨x, -, rfl⟩ := Option.map_eq_some_iff.mp h
  exact x.toNat_lt

theorem extract_two {x y : UInt8} (hx : byte? b 0 = some x.toNat) (hy : byte? b 1 = some y.toNat) :
    b.extract 0 2 = [x, y].toByteArray := by
  obtain ⟨x', hx', hxx⟩ := Option.map_eq_some_iff.mp hx
  obtain ⟨y', hy', hyy⟩ := Option.map_eq_some_iff.mp hy
  rw [UInt8.toNat_inj.mp hxx] at hx'
  rw [UInt8.toNat_inj.mp hyy] at hy'
  obtain ⟨h1, hget1⟩ := Array.getElem?_eq_some_iff.mp hy'
  obtain ⟨h0, hget0⟩ := Array.getElem?_eq_some_iff.mp hx'
  have hsize : 1 < b.size := h1
  refine ByteArray.ext ?_
  rw [ByteArray.data_extract, List.data_toByteArray]
  refine Array.ext (by simp; omega) fun i hi _ => ?_
  have hi2 : i < 2 := by simp at hi; omega
  obtain rfl | rfl : i = 0 ∨ i = 1 := by omega
  · simpa using hget0
  · simpa using hget1

/-- The second byte of a character of two bytes goes on from the first. -/
theorem second_lt_of_char {c : Char} {rest : List UInt8} {x y : Nat}
    (hx : (String.utf8EncodeChar c ++ rest)[0]?.map UInt8.toNat = some x)
    (hy : (String.utf8EncodeChar c ++ rest)[1]?.map UInt8.toNat = some y) (hlow : 0xc0 ≤ x)
    (hhigh : x < 0xe0) : y < 0xc0 := by
  unfold String.utf8EncodeChar at hx hy
  generalize c.val.toNat = v at hx hy
  simp only at hx hy
  split at hx
  next =>
    simp at hx
    omega
  next hone =>
    rw [if_neg hone] at hy
    split at hx
    next htwo =>
      rw [if_pos htwo] at hy
      simp at hy
      omega
    next =>
      split at hx
      next =>
        simp at hx
        omega
      next =>
        simp at hx
        omega

theorem second_lt (h : String.fromUTF8? b = some s) {x y : Nat} (hx : byte? b 0 = some x)
    (hy : byte? b 1 = some y) (hlow : 0xc0 ≤ x) (hhigh : x < 0xe0) : y < 0xc0 := by
  have hb := eq_utf8Encode h
  cases hs : s.toList with
  | nil =>
    rw [hs] at hb
    rw [hb] at hx
    cases hx
  | cons c rest =>
    have hbytes : b.data.toList = String.utf8EncodeChar c ++ rest.flatMap String.utf8EncodeChar := by
      rw [hb, hs, List.utf8Encode, List.flatMap_cons, List.data_toByteArray]
    unfold byte? at hx hy
    rw [← Array.getElem?_toList, hbytes] at hx hy
    exact second_lt_of_char hx hy hlow hhigh

theorem undo_eq_none (h : String.fromUTF8? b = some s) : UndoLog.ofBytes? b = none := by
  cases hundo : UndoLog.ofBytes? b with
  | none => rfl
  | some u =>
    have hstarts : UndoLog.startsSection b 0 = true := by
      unfold UndoLog.ofBytes? at hundo
      simp only [Option.bind_eq_bind, Option.bind_eq_some_iff] at hundo
      obtain ⟨_, _, _, _, _, _, hif⟩ := hundo
      split at hif
      next hall =>
        simp only [Bool.and_eq_true] at hall
        exact hall.1.1.1.1.1.1.1
      next => cases hif
    unfold UndoLog.startsSection at hstarts
    simp only [List.range, List.range.loop, List.map, UndoLog.magic, decide_eq_true_eq,
      List.cons.injEq] at hstarts
    have hlt : 0xd5 < 0xc0 := second_lt h hstarts.1 hstarts.2.1 (by decide) (by decide)
    exact absurd hlt (by decide)

theorem magic_of_ofBytes {img : Image} (h : Image.ofBytes? b = some img) :
    b.extract 0 magic.size = magic := by
  by_contra hne
  have hother : (b.extract 0 magic.size == magic) = false :=
    Bool.eq_false_iff.mpr fun hsame => hne (ByteArray.ext (eq_of_beq hsame))
  unfold Image.ofBytes? at h
  simp only [Option.bind_eq_bind, Option.bind_eq_some_iff] at h
  obtain ⟨_, _, _, _, _, _, _, _, _, _, _, _, _, _, hif⟩ := h
  simp [hother] at hif

theorem changes_starts {c : ChangeLog} (h : ChangeLog.ofBytes? b = some c) :
    byte? b 0 = some 0x37 ∧ byte? b 1 = some 0x7f := by
  unfold ChangeLog.ofBytes? at h
  simp only [Option.bind_eq_bind, Option.bind_eq_some_iff] at h
  obtain ⟨n, hn, _, _, hif⟩ := h
  have hmagic : n / 2 = 0x377f0682 / 2 := by
    split at hif
    next hall =>
      simp only [Bool.and_eq_true] at hall
      exact beq_iff_eq.mp hall.1.1.1.1.2
    next => cases hif
  simp only [number?, List.range, List.range.loop, List.foldlM, Option.bind_eq_bind,
    Option.bind_eq_some_iff, Option.map_eq_some_iff] at hn
  obtain ⟨_, ⟨x, hx, rfl⟩, _, ⟨y, hy, rfl⟩, _, ⟨z, hz, rfl⟩, _, ⟨t, ht, rfl⟩, hsum⟩ := hn
  have hsum : (((0 * 256 + x) * 256 + y) * 256 + z) * 256 + t = n := Option.some.inj hsum
  have hylt := byte?_lt hy
  have hzlt := byte?_lt hz
  have htlt := byte?_lt ht
  have hx55 : x = 0x37 := by omega
  have hy127 : y = 0x7f := by omega
  exact ⟨hx55 ▸ hx, hy127 ▸ hy⟩

end Image

namespace MappingLines
open Text

theorem significant_cons {c : Char} (hc : isBlank c = false) (hcomment : c ≠ '#')
    (rest : List Char) :
    ∃ line more, significant (c :: rest) = ⟨1, strip (c :: line)⟩ :: more := by
  obtain ⟨line, more, hlines⟩ := lines_cons hc rest
  have hblank : isAllBlank (c :: line) = false := by simp [isAllBlank, hc]
  have hcounts : isComment (c :: line) = false := by
    have hstart : stripStart (c :: line) = c :: line :=
      stripStart_eq_self fun d hd => Option.some.inj hd ▸ hc
    rw [isComment, hstart]
    exact decide_eq_false fun h => hcomment (Option.some.inj h)
  rw [significant, hlines, List.zipIdx_cons, List.filterMap_cons]
  simp only [hblank, hcounts, Bool.or_self, Bool.false_eq_true, if_false]
  exact ⟨line, _, rfl⟩

end MappingLines

namespace Yaml

theorem all_isAllowed_of_load {s : List Char} {v : Value} (h : load s = .ok v) :
    s.all isAllowed = true := by
  by_contra hall
  unfold load tokens at h
  rw [if_pos (by simpa using hall)] at h
  cases h

end Yaml

namespace MappingFile
open Text

/-- What no mapping starts with: it begins no line of a mapping, and is not allowed in a document. -/
theorem not_isPrefix_of_parts {p : Path} {text : String} {parts : Parts} {c : Char}
    {head : List Char} (h : parts? p text = some parts) (hblank : isBlank c = false)
    (hcomment : c ≠ '#') (hcolon : c ≠ ':') (hrefused : (c :: head).all Yaml.isAllowed = false) :
    ¬ c :: head <+: text.toList := by
  rintro ⟨rest, hrest⟩
  rw [List.cons_append] at hrest
  unfold parts? at h
  split at h
  next =>
    obtain ⟨line, more, hlines⟩ := MappingLines.significant_cons hblank hcomment (head ++ rest)
    rw [← hrest, hlines] at h
    split at h
    next hparts =>
      cases hparts
      split at h
      next => cases h
      next hform =>
        simp only [Bool.or_eq_true, Bool.not_eq_true', not_or, Bool.not_eq_false] at hform
        obtain ⟨kind, hkind⟩ := List.isPrefixOf_iff_prefix.mp hform.1
        have hhead := head?_strip hblank line
        rw [← hkind] at hhead
        exact hcolon (Option.some.inj hhead).symm
    next => cases h
  next =>
    split at h
    next entries hload =>
      have hall := Yaml.all_isAllowed_of_load hload
      rw [← hrest, ← List.cons_append, List.all_append, hrefused] at hall
      cases hall
    next => cases h

theorem bytes_of_text {t : Tree} {p : Path} {s : String} (h : t.text? p = some s) :
    ∃ l b, t.locate p = .ok l ∧ t.node? l = some (.file (.bytes b)) ∧
      String.fromUTF8? b = some s := by
  unfold Tree.text? Tree.find? at h
  cases hplace : t.locate p with
  | error e =>
    rw [hplace] at h
    cases h
  | ok l =>
    simp only [hplace] at h
    split at h
    next b hnode => exact ⟨l, b, rfl, hnode, h⟩
    next => cases h

theorem text_of_readText {t : Tree} {p : Path} {text : String}
    (h : ConfigFile.readText t p = .ok text) :
    ∃ s, t.text? p = some s ∧ text.toList = unifyLineEnds s.toList ∧
      isAllBlank (unifyLineEnds s.toList) = false := by
  unfold ConfigFile.readText at h
  split at h
  next => cases h
  next =>
    split at h
    next => cases h
    next s hs =>
      simp only at h
      split at h
      next => cases h
      next hblank =>
        cases h
        exact ⟨s, hs, String.toList_ofList, by simpa using hblank⟩

theorem isForeign_of_parts {p : Path} {text s : String} {parts : Parts} {b : ByteArray}
    (hs : String.fromUTF8? b = some s) (htext : text.toList = unifyLineEnds s.toList)
    (hblank : isAllBlank (unifyLineEnds s.toList) = false) (h : parts? p text = some parts) :
    Image.IsForeign b where
  nonempty := by
    refine Bool.eq_false_iff.mpr fun hempty => ?_
    have hnone : s.toList = [] := by
      rw [← List.utf8Encode_eq_empty, ← Image.eq_utf8Encode hs]
      exact ByteArray.size_eq_zero_iff.mp (eq_of_beq hempty)
    rw [hnone] at hblank
    cases hblank
  image := by
    cases himage : Image.ofBytes? b with
    | none => rfl
    | some img =>
      have hmagic := Image.magic_of_ofBytes himage
      have hencode : "SQLite format 3\x00".toList.utf8Encode = Image.magic :=
        String.utf8Encode_toList
      rw [← hencode] at hmagic
      have hstarts := isPrefix_unifyLineEnds (Image.isPrefix_of_extract hs hmagic) (by decide)
      rw [← htext] at hstarts
      exact absurd hstarts
        (not_isPrefix_of_parts h (by decide) (by decide) (by decide) (by decide))
  undo := Image.undo_eq_none hs
  changes := by
    cases hchanges : ChangeLog.ofBytes? b with
    | none => rfl
    | some log =>
      obtain ⟨hx, hy⟩ := Image.changes_starts hchanges
      have htwo : b.extract 0 2 = ['7', '\x7f'].utf8Encode :=
        Image.extract_two (x := 0x37) (y := 0x7f) hx hy
      have hstarts := isPrefix_unifyLineEnds (Image.isPrefix_of_extract hs htwo) (by decide)
      rw [← htext] at hstarts
      exact absurd hstarts
        (not_isPrefix_of_parts h (by decide) (by decide) (by decide) (by decide))

/-- A file from which a mapping is read is none that a database is read from. -/
theorem isForeign_of_holds {w : World} {p : Path} {source : Option SourceConfig} {rest : Rest}
    (h : Holds w p source rest) :
    ∃ l b, w.tree.locate p = .ok l ∧ w.tree.node? l = some (.file (.bytes b)) ∧
      Image.IsForeign b := by
  obtain ⟨text, block, htext, hparts, -⟩ := h
  obtain ⟨s, hs, hunified, hblank⟩ := text_of_readText htext
  obtain ⟨l, b, hplace, hnode, hbytes⟩ := bytes_of_text hs
  exact ⟨l, b, hplace, hnode, isForeign_of_parts hbytes hunified hblank hparts⟩

end MappingFile

end LookupEnums
