import LookupEnums.Mapping.Lines
import LookupEnums.Proofs.Text.Line
import Mathlib.Data.List.Forall2

/-! # Lines that do not count

Blank lines, comments, and blanks around a line are no part of a mapping in the line format. A text with
more of them is read as the same configuration or refused for the same reason; only where the reason is
about one line is the number of that line another, and it is its number in the text.
-/
namespace LookupEnums.MappingLines
open Text

/-- A line of blanks alone, or one that starts with `#` after them. -/
def Ignored (line : List Char) : Prop :=
  ∃ blanks rest, line = blanks ++ rest ∧ (∀ c ∈ blanks, isBlank c = true) ∧ ∀ c ∈ rest.head?, c = '#'

def Padding (s : List Char) : Prop :=
  ∀ c ∈ s, c = ' ' ∨ c = '\t'

instance (s : List Char) : Decidable (Padding s) :=
  List.decidableBAll _ s

/-- The second lines are the first ones, each perhaps padded, among lines that are ignored. -/
inductive Noise : List (List Char) → List (List Char) → Prop
  | nil : Noise [] []
  | inserted {line : List Char} {ls ls' : List (List Char)} :
      Ignored line → Noise ls ls' → Noise ls (line :: ls')
  | padded {before line after : List Char} {ls ls' : List (List Char)} :
      Padding before → Padding after → Noise ls ls' →
        Noise (line :: ls) ((before ++ line ++ after) :: ls')

def isIgnored (line : List Char) : Bool :=
  isAllBlank line || isComment line

/-- Whether a line counts is seen from what is left of it. -/
theorem isIgnored_iff {line : List Char} :
    isIgnored line = true ↔ ∀ c ∈ (strip line).head?, c = '#' := by
  rw [isIgnored, isComment]
  cases hstart : stripStart line with
  | nil =>
    have hblank : isAllBlank line = true := stripStart_eq_nil_iff.mp hstart
    rw [strip, hstart, hblank]
    simp [stripEnd]
  | cons c rest =>
    have hc : isBlank c = false := head?_stripStart line c (by rw [hstart]; rfl)
    have hblank : isAllBlank line = false := by
      rw [Bool.eq_false_iff, ne_eq, ← stripStart_eq_nil_iff, hstart]
      exact List.cons_ne_nil c rest
    have hhead : (strip line).head? = some c := by
      have hkept : stripStart (c :: rest) = c :: rest :=
        stripStart_eq_self fun d hd => Option.some.inj hd ▸ hc
      rw [strip, hstart, ← hkept]
      exact head?_strip hc rest
    rw [hblank, hhead, Bool.false_or]
    simp

theorem isIgnored_of_ignored {line : List Char} (h : Ignored line) : isIgnored line = true := by
  obtain ⟨blanks, rest, rfl, hblanks, hrest⟩ := h
  rw [isIgnored_iff, strip_append_left hblanks]
  intro c hc
  cases rest with
  | nil => cases hc
  | cons d rest =>
    obtain rfl : d = '#' := hrest d rfl
    rw [head?_strip (by decide)] at hc
    exact (Option.some.inj hc).symm

theorem Padding.isBlank {s : List Char} (h : Padding s) : ∀ c ∈ s, isBlank c = true := by
  intro c hc
  rcases h c hc with rfl | rfl
  · decide
  · decide

theorem strip_pad {before after : List Char} (hbefore : Padding before) (hafter : Padding after)
    (line : List Char) : strip (before ++ line ++ after) = strip line := by
  rw [strip_append_right hafter.isBlank, strip_append_left hbefore.isBlank]

theorem isIgnored_pad {before after : List Char} (hbefore : Padding before)
    (hafter : Padding after) (line : List Char) :
    isIgnored (before ++ line ++ after) = isIgnored line := by
  rw [Bool.eq_iff_iff, isIgnored_iff, isIgnored_iff, strip_pad hbefore hafter]

def counting (first : Nat) : List (List Char) → List NumberedLine
  | [] => []
  | line :: ls =>
    if isIgnored line then counting (first + 1) ls else ⟨first, strip line⟩ :: counting (first + 1) ls

theorem significant_eq (text : List Char) : significant text = counting 1 (lines text) := by
  rw [significant]
  generalize 1 = first
  induction lines text generalizing first with
  | nil => rfl
  | cons line ls ih =>
    rw [List.zipIdx_cons, List.filterMap_cons, counting, ← ih]
    have htest : (isAllBlank line || isComment line) = isIgnored line := rfl
    cases h : isIgnored line with
    | true => simp only [htest, h, if_true]
    | false => simp only [htest, h, Bool.false_eq_true, if_false]

/-- Two lists of lines with the same contents, perhaps under other numbers. -/
def SameContents (ls ls' : List NumberedLine) : Prop :=
  List.Forall₂ (fun line line' => line.content = line'.content) ls ls'

/-- Noise changes the numbers of the lines that count and nothing else of them. -/
theorem Noise.sameContents {ls ls' : List (List Char)} (h : Noise ls ls') (first first' : Nat) :
    SameContents (counting first ls) (counting first' ls') := by
  induction h generalizing first first' with
  | nil => exact .nil
  | inserted hignored _ ih =>
    rw [counting, if_pos (isIgnored_of_ignored hignored)]
    exact ih first (first' + 1)
  | @padded before line after ls ls' hbefore hafter _ ih =>
    rw [counting, counting, isIgnored_pad hbefore hafter, strip_pad hbefore hafter]
    split
    · exact ih _ _
    · exact .cons rfl (ih _ _)

/-- The line that counts after `k` others: its number among all lines, and what is left of it. -/
def Stands (ls : List (List Char)) (k : Nat) (n : Nat) (content : List Char) : Prop :=
  ∃ before line after, ls = before ++ line :: after ∧ n = before.length + 1 ∧
    before.countP (!isIgnored ·) = k ∧ isIgnored line = false ∧ content = strip line

theorem stands_of_counting {ls : List (List Char)} {first k : Nat} {found : NumberedLine}
    (h : (counting first ls)[k]? = some found) :
    ∃ n, found.number = first + n ∧ Stands ls k (n + 1) found.content := by
  induction ls generalizing first k with
  | nil => cases h
  | cons line ls ih =>
    rw [counting] at h
    split at h
    next hignored =>
      obtain ⟨n, hnumber, before, line', after, rfl, hn, hcount, hline, hcontent⟩ := ih h
      refine ⟨n + 1, by omega, line :: before, line', after, rfl, ?_, ?_, hline, hcontent⟩
      · rw [List.length_cons, hn]
      · rw [List.countP_cons_of_neg (by simp [hignored]), hcount]
    next hcounts =>
      cases k with
      | zero =>
        obtain rfl := Option.some.inj h
        exact ⟨0, rfl, [], line, ls, rfl, rfl, rfl, by simpa using hcounts, rfl⟩
      | succ k =>
        rw [List.getElem?_cons_succ] at h
        obtain ⟨n, hnumber, before, line', after, rfl, hn, hcount, hline, hcontent⟩ := ih h
        refine ⟨n + 1, by omega, line :: before, line', after, rfl, ?_, ?_, hline, hcontent⟩
        · rw [List.length_cons, hn]
        · rw [List.countP_cons_of_pos (by simpa using hcounts), hcount]

inductive WholeFault
  | noDatabase
  | noKind
  | noConnection
  | noKey (table : String)

def WholeFault.error : WholeFault → MappingError
  | noDatabase => ⟨"Mapping must start with a ::database::<adapter> line", none⟩
  | noKind =>
    ⟨"Please specify ::database::<adapter>, where <adapter> is sqlite, sqlalchemy, etc.", none⟩
  | noConnection => ⟨"Missing database connection string.", none⟩
  | noKey table => ⟨"needs a ::key:: line or at least one column line", some table⟩

inductive LineFault
  | outsideTable
  | crowdedColumn
  | unknownDirective

namespace LineFault

def complaint : LineFault → List Char → String
  | outsideTable, _ => ": expected a ::table:: line"
  | crowdedColumn, _ => ": expected <column> as <function>::<expression>::<type>"
  | unknownDirective, content => ": unknown directive " ++ String.ofList (quoted content)

def error (f : LineFault) (n : Nat) (content : List Char) : MappingError :=
  ⟨"Line " ++ toString n ++ f.complaint content, none⟩

theorem error_unknownDirective (n : Nat) (content : List Char) :
    unknownDirective.error n content =
      ⟨s!"Line {n}: unknown directive {String.ofList (quoted content)}", none⟩ :=
  congrArg (fun reason => MappingError.mk reason none) String.append_assoc.symm

def Offends : LineFault → List Char → Prop
  | outsideTable, content => ¬ directiveHead "table" <+: content
  | crowdedColumn, content => ¬ colons <+: content ∧ 3 < (pieces colons content).length
  | unknownDirective, content => colons <+: content ∧
      ∀ name ∈ ["table", "key", "label", "attribute"], ¬ directiveHead name <+: content

end LineFault

theorem directive?_eq_none_iff {name : String} {content : List Char} :
    directive? name content = none ↔ ¬ directiveHead name <+: content := by
  unfold directive?
  simp only [← List.isPrefixOf_iff_prefix]
  split
  next h => simp [h]
  next h => simp [h]

variable {α β : Type} {ls ls' : List NumberedLine}

/-- Two readings of lines with the same contents: the same result, or the same reason, with the number
of the line where it is about one. -/
inductive Agree {α : Type} (ls ls' : List NumberedLine) :
    Except MappingError α → Except MappingError α → Prop
  | ok (a : α) : Agree ls ls' (.ok a) (.ok a)
  | whole (f : WholeFault) : Agree ls ls' (.error f.error) (.error f.error)
  | line (f : LineFault) {k : Nat} {line line' : NumberedLine} (found : ls[k]? = some line)
      (found' : ls'[k]? = some line') (same : line'.content = line.content)
      (offends : f.Offends line.content) :
      Agree ls ls' (.error (f.error line.number line.content))
        (.error (f.error line'.number line.content))

namespace Agree
variable {x x' : Except MappingError α}

theorem cons (h : Agree ls ls' x x') (line line' : NumberedLine) :
    Agree (line :: ls) (line' :: ls') x x' := by
  cases h with
  | ok a => exact .ok a
  | whole f => exact .whole f
  | @line f k _ _ found found' same offends =>
    exact .line f (k := k + 1) found found' same offends

theorem bind {f f' : α → Except MappingError β} (h : Agree ls ls' x x')
    (hf : ∀ a, Agree ls ls' (f a) (f' a)) : Agree ls ls' (x >>= f) (x' >>= f') := by
  cases h with
  | ok a => exact hf a
  | whole f => exact .whole f
  | line f found found' same offends => exact .line f found found' same offends

theorem map (h : Agree ls ls' x x') (f : α → β) : Agree ls ls' (x.map f) (x'.map f) := by
  cases h with
  | ok a => exact .ok (f a)
  | whole f => exact .whole f
  | line f found found' same offends => exact .line f found found' same offends

/-- Each item by itself leads to a result or to a reason that is not about a line. -/
theorem mapM {f : α → Except MappingError β} (hf : ∀ a, Agree ls ls' (f a) (f a)) (items : List α) :
    Agree ls ls' (items.mapM f) (items.mapM f) := by
  induction items with
  | nil => exact .ok []
  | cons a rest ih =>
    rw [List.mapM_cons]
    exact (hf a).bind fun b => ih.bind fun bs => .ok (b :: bs)

end Agree

section
variable {line line' : NumberedLine}

theorem agree_readColumn (h : line'.content = line.content)
    (hcolumn : ¬ colons <+: line.content) :
    Agree (line :: ls) (line' :: ls') (readColumn line) (readColumn line') := by
  unfold readColumn
  rw [h]
  simp only
  split
  next hlong =>
    exact .line .crowdedColumn (k := 0) rfl rfl h ⟨hcolumn, hlong⟩
  next => exact .ok _

theorem agree_addLine (h : line'.content = line.content)
    (htable : directive? "table" line.content = none) (t : TableEntry) :
    Agree (line :: ls) (line' :: ls') (addLine t line) (addLine t line') := by
  unfold addLine
  rw [h]
  split
  next hcolumn =>
    have hcolumn : ¬ colons <+: line.content := by
      rw [← List.isPrefixOf_iff_prefix, Bool.not_eq_true]
      simpa using hcolumn
    exact (agree_readColumn h hcolumn).map _
  next hdirective =>
    have hdirective : colons <+: line.content := by
      rw [← List.isPrefixOf_iff_prefix]
      simpa using hdirective
    split
    · exact .ok _
    next hkey =>
      split
      · exact .ok _
      next hlabel =>
        split
        · exact .ok _
        next hattribute =>
          rw [← LineFault.error_unknownDirective, ← LineFault.error_unknownDirective]
          refine .line .unknownDirective (k := 0) rfl rfl h ⟨hdirective, ?_⟩
          simp only [List.forall_mem_cons]
          exact ⟨directive?_eq_none_iff.mp htable, directive?_eq_none_iff.mp hkey,
            directive?_eq_none_iff.mp hlabel, directive?_eq_none_iff.mp hattribute, nofun⟩

end

theorem agree_readTables (h : SameContents ls ls') (current : Option TableEntry) :
    Agree ls ls' (readTables current ls) (readTables current ls') := by
  induction h generalizing current with
  | nil => exact .ok _
  | @cons line line' ls ls' hsame _ ih =>
    unfold readTables
    rw [← hsame]
    split
    next spec hspec => exact ((ih _).cons line line').bind fun tables => .ok _
    next htable =>
      split
      next =>
        exact .line .outsideTable (k := 0) rfl rfl hsame.symm (directive?_eq_none_iff.mp htable)
      next t =>
        exact (agree_addLine hsame.symm htable t).bind fun t => (ih (some t)).cons line line'

theorem agree_readKind (content : List Char) :
    Agree ls ls' (readKind content) (readKind content) := by
  unfold readKind
  split
  · exact .ok _
  · exact .whole .noKind

theorem agree_complete (t : TableEntry) : Agree ls ls' (complete t) (complete t) := by
  unfold complete
  split
  · exact .ok _
  · exact .whole (.noKey t.table)
  · exact .ok _

theorem agree_readLines (h : SameContents ls ls') :
    Agree ls ls' (readLines ls) (readLines ls') := by
  cases h with
  | nil => exact .whole .noDatabase
  | @cons first first' rest rest' hfirst hrest =>
    rw [readLines, readLines, ← hfirst]
    split
    · exact .whole .noDatabase
    · refine (agree_readKind first.content).bind fun kind => ?_
      cases hrest with
      | nil => exact .whole .noConnection
      | @cons connection connection' list list' hconnection hlist =>
        simp only
        rw [← hconnection]
        split
        · exact .whole .noConnection
        · refine Agree.bind ?_ fun tables => (Agree.mapM agree_complete tables).bind fun _ => .ok _
          exact ((agree_readTables hlist none).cons connection connection').cons first first'

theorem agree_parse {t t' : String} (h : Noise (lines t.toList) (lines t'.toList)) :
    Agree (counting 1 (lines t.toList)) (counting 1 (lines t'.toList)) (parse t) (parse t') := by
  rw [parse, parse, read, read, significant_eq, significant_eq]
  exact (agree_readLines (h.sameContents 1 1)).map _

/-- A text with more noise is read as the same configuration or refused for the same reason; where the
reason is about a line, the message names in each text the number of that line among all its lines. -/
theorem parse_noise {t t' : String} (h : Noise (lines t.toList) (lines t'.toList)) :
    (∃ config, parse t = .ok config ∧ parse t' = .ok config) ∨
    (∃ f : WholeFault, parse t = .error f.error ∧ parse t' = .error f.error) ∨
    ∃ (f : LineFault) (k n n' : Nat) (content : List Char), f.Offends content ∧
      Stands (lines t.toList) k n content ∧ Stands (lines t'.toList) k n' content ∧
      parse t = .error (f.error n content) ∧ parse t' = .error (f.error n' content) := by
  have hagree := agree_parse h
  generalize parse t = x at hagree ⊢
  generalize parse t' = x' at hagree ⊢
  cases hagree with
  | ok config => exact Or.inl ⟨config, rfl, rfl⟩
  | whole f => exact Or.inr (Or.inl ⟨f, rfl, rfl⟩)
  | @line f k line line' found found' same offends =>
    obtain ⟨n, hn, hstands⟩ := stands_of_counting found
    obtain ⟨n', hn', hstands'⟩ := stands_of_counting found'
    rw [Nat.add_comm] at hn hn'
    refine Or.inr (Or.inr ⟨f, k, n + 1, n' + 1, line.content, offends, hstands, same ▸ hstands', ?_, ?_⟩)
    · rw [hn]
    · rw [hn']

def coloured : String :=
  "::database::sqlite\nlookups.db\n::table::Currency\n::colour::red"

def colouredNoisily : String :=
  "# rates\r\n  ::database::sqlite\t\n\n\t# where\nlookups.db  \n::table::Currency\n\t::colour::red \n#"

theorem ignored_comment (blanks : List Char) (h : ∀ c ∈ blanks, isBlank c = true) (rest : List Char) :
    Ignored (blanks ++ '#' :: rest) :=
  ⟨blanks, '#' :: rest, rfl, h, fun _ hc => (Option.some.inj hc).symm⟩

theorem noise_coloured : Noise (lines coloured.toList) (lines colouredNoisily.toList) := by
  have hlines : lines coloured.toList = ["::database::sqlite".toList, "lookups.db".toList,
      "::table::Currency".toList, "::colour::red".toList] := by decide +kernel
  have hnoisy : lines colouredNoisily.toList =
      ['#' :: " rates".toList, "  ".toList ++ "::database::sqlite".toList ++ "\t".toList, [],
        "\t".toList ++ '#' :: " where".toList, [] ++ "lookups.db".toList ++ "  ".toList,
        [] ++ "::table::Currency".toList ++ [], "\t".toList ++ "::colour::red".toList ++ " ".toList,
        ['#']] := by decide +kernel
  have hspaces : Padding "  ".toList := by decide +kernel
  have htab : Padding "\t".toList := by decide +kernel
  have hspace : Padding " ".toList := by decide +kernel
  rw [hlines, hnoisy]
  refine .inserted (ignored_comment [] nofun _) ?_
  refine .padded hspaces htab (.inserted ⟨[], [], rfl, nofun, nofun⟩ ?_)
  refine .inserted (ignored_comment _ htab.isBlank _) (.padded nofun hspaces (.padded nofun nofun ?_))
  exact .padded htab hspace (.inserted (ignored_comment [] nofun _) .nil)

/-- Comments and an empty line move the line that is refused from place 4 to place 7. -/
theorem parse_noise_coloured :
    Noise (lines coloured.toList) (lines colouredNoisily.toList) ∧
    parse coloured = .error ⟨"Line 4: unknown directive '::colour::red'", none⟩ ∧
    parse colouredNoisily = .error ⟨"Line 7: unknown directive '::colour::red'", none⟩ ∧
    ((∃ config, parse coloured = .ok config ∧ parse colouredNoisily = .ok config) ∨
    (∃ f : WholeFault, parse coloured = .error f.error ∧ parse colouredNoisily = .error f.error) ∨
    ∃ (f : LineFault) (k n n' : Nat) (content : List Char), f.Offends content ∧
      Stands (lines coloured.toList) k n content ∧
      Stands (lines colouredNoisily.toList) k n' content ∧
      parse coloured = .error (f.error n content) ∧
      parse colouredNoisily = .error (f.error n' content)) := by
  have hplain : read coloured =
      .error ⟨"Line 4: unknown directive '::colour::red'", none⟩ := by decide +kernel
  have hnoisily : read colouredNoisily =
      .error ⟨"Line 7: unknown directive '::colour::red'", none⟩ := by decide +kernel
  refine ⟨noise_coloured, ?_, ?_, parse_noise noise_coloured⟩
  · rw [parse, hplain]
    rfl
  · rw [parse, hnoisily]
    rfl

end LookupEnums.MappingLines
