import LookupEnums.Mapping.Lines
import LookupEnums.Proofs.Text.Line
import LookupEnums.Proofs.Text.Separator
import Mathlib.Data.List.Forall2

/-! # Printing in the line format

A configuration is printed as one line for the kind of its database, one for the connection, and for
each table one line followed by the lines of its body in any order that keeps the attributes and the
columns in theirs. Reading the lines gives the configuration back.
-/
namespace LookupEnums.MappingLines
open Text

def optionalChars : Option String → List Char
  | none => []
  | some s => s.toList

def ColumnEntry.named (c : ColumnEntry) : List Char :=
  match c.accessor with
  | none => c.column.toList
  | some accessor => c.column.toList ++ asSeparator ++ accessor.toList

def ColumnEntry.line (c : ColumnEntry) : List Char :=
  c.named ++ colons ++ (optionalChars c.template ++ colons ++ optionalChars c.returns)

inductive BodyLine
  | key (s : String)
  | label (s : String)
  | attr (s : String)
  | column (c : ColumnEntry)

namespace BodyLine

def line : BodyLine → List Char
  | key s => directiveHead "key" ++ s.toList
  | label s => directiveHead "label" ++ s.toList
  | attr s => directiveHead "attribute" ++ s.toList
  | column c => c.line

def key? : BodyLine → Option String
  | key s => some s
  | _ => none

def label? : BodyLine → Option String
  | label s => some s
  | _ => none

def attribute? : BodyLine → Option String
  | attr s => some s
  | _ => none

def column? : BodyLine → Option ColumnEntry
  | column c => some c
  | _ => none

def add (t : TableEntry) : BodyLine → TableEntry
  | key s => { t with key := some s }
  | label s => { t with label := some s }
  | attr s => { t with attributes := t.attributes ++ [s] }
  | column c => { t with columns := t.columns ++ [c] }

end BodyLine

/-- The body of a table: one line for the key and one for the label, the attributes and the columns
each in order, and any interleaving of them all. -/
structure TableEntry.Body (t : TableEntry) (body : List BodyLine) : Prop where
  key : body.filterMap BodyLine.key? = t.key.toList
  label : body.filterMap BodyLine.label? = t.label.toList
  attributes : body.filterMap BodyLine.attribute? = t.attributes
  columns : body.filterMap BodyLine.column? = t.columns

def TableEntry.line (t : TableEntry) : List Char :=
  directiveHead "table" ++ (t.table.toList ++ asSeparator ++ t.typeName.toList)

def tableLines (t : TableEntry) (body : List BodyLine) : List (List Char) :=
  t.line :: body.map BodyLine.line

def Entries.printedLines (e : Entries) (bodies : List (List BodyLine)) : List (List Char) :=
  (directiveHead "database" ++ e.kind.toList) :: e.connection.toList ::
    (List.zipWith tableLines e.tables bodies).flatten

def Entries.print (e : Entries) (bodies : List (List BodyLine)) : String :=
  String.ofList ((e.printedLines bodies).flatMap (· ++ ['\n']))

/-- A text that can stand in a line: not empty, stripped, and without an end of a line. -/
structure Clean (s : String) : Prop where
  nonempty : s ≠ ""
  stripped : strip s.toList = s.toList
  unbroken : ∀ c ∈ s.toList, isLineEnd c = false

structure Separable (s : String) : Prop where
  inside : ¬ asSeparator <:+: s.toList
  behind : ¬ " as".toList <:+ s.toList

structure ColumnEntry.Printable (c : ColumnEntry) : Prop where
  column : Clean c.column
  separable : Separable c.column
  noColon : ':' ∉ c.column.toList
  noComment : c.column.toList.head? ≠ some '#'
  accessor : ∀ s ∈ c.accessor, Clean s ∧ ':' ∉ s.toList
  template : ∀ s ∈ c.template, Clean s ∧ ':' ∉ s.toList
  returns : ∀ s ∈ c.returns, Clean s ∧ ':' ∉ s.toList

structure TableEntry.Printable (t : TableEntry) : Prop where
  table : Clean t.table
  separable : Separable t.table
  typeName : Clean t.typeName
  key : ∃ key ∈ t.key, Clean key
  label : ∃ label ∈ t.label, Clean label
  attributes : ∀ a ∈ t.attributes, Clean a
  columns : ∀ c ∈ t.columns, c.Printable

structure Entries.Printable (e : Entries) : Prop where
  kind : Clean e.kind
  noColon : ':' ∉ e.kind.toList
  connection : Clean e.connection
  noComment : e.connection.toList.head? ≠ some '#'
  noColons : ¬ colons <+: e.connection.toList
  tables : ∀ t ∈ e.tables, t.Printable

section decidable

instance (s : String) : Decidable (Clean s) :=
  decidable_of_iff
    (s ≠ "" ∧ strip s.toList = s.toList ∧ (s.toList.all fun c => !isLineEnd c) = true)
    ⟨fun h => ⟨h.1, h.2.1, unbroken_of_all h.2.2⟩, fun h =>
      ⟨h.nonempty, h.stripped, by simpa using h.unbroken⟩⟩

instance (s : String) : Decidable (Separable s) :=
  decidable_of_iff (¬ asSeparator <:+: s.toList ∧ ¬ " as".toList <:+ s.toList)
    ⟨fun h => ⟨h.1, h.2⟩, fun h => ⟨h.inside, h.behind⟩⟩

instance (c : ColumnEntry) : Decidable c.Printable :=
  decidable_of_iff (Clean c.column ∧ Separable c.column ∧ ':' ∉ c.column.toList ∧
      c.column.toList.head? ≠ some '#' ∧ (∀ s ∈ c.accessor, Clean s ∧ ':' ∉ s.toList) ∧
      (∀ s ∈ c.template, Clean s ∧ ':' ∉ s.toList) ∧ ∀ s ∈ c.returns, Clean s ∧ ':' ∉ s.toList)
    ⟨fun ⟨h₁, h₂, h₃, h₄, h₅, h₆, h₇⟩ => ⟨h₁, h₂, h₃, h₄, h₅, h₆, h₇⟩, fun h =>
      ⟨h.column, h.separable, h.noColon, h.noComment, h.accessor, h.template, h.returns⟩⟩

instance (t : TableEntry) : Decidable t.Printable :=
  decidable_of_iff (Clean t.table ∧ Separable t.table ∧ Clean t.typeName ∧
      (∃ key ∈ t.key, Clean key) ∧ (∃ label ∈ t.label, Clean label) ∧
      (∀ a ∈ t.attributes, Clean a) ∧ ∀ c ∈ t.columns, c.Printable)
    ⟨fun ⟨h₁, h₂, h₃, h₄, h₅, h₆, h₇⟩ => ⟨h₁, h₂, h₃, h₄, h₅, h₆, h₇⟩, fun h =>
      ⟨h.table, h.separable, h.typeName, h.key, h.label, h.attributes, h.columns⟩⟩

instance (e : Entries) : Decidable e.Printable :=
  decidable_of_iff (Clean e.kind ∧ ':' ∉ e.kind.toList ∧ Clean e.connection ∧
      e.connection.toList.head? ≠ some '#' ∧ ¬ colons <+: e.connection.toList ∧
      ∀ t ∈ e.tables, t.Printable)
    ⟨fun ⟨h₁, h₂, h₃, h₄, h₅, h₆⟩ => ⟨h₁, h₂, h₃, h₄, h₅, h₆⟩, fun h =>
      ⟨h.kind, h.noColon, h.connection, h.noComment, h.noColons, h.tables⟩⟩

end decidable

/-- What a text is among the characters of a line where `Clean` holds of it. -/
structure Solid (s : List Char) : Prop where
  nonempty : s ≠ []
  trimmed : Trimmed s
  unbroken : ∀ c ∈ s, isLineEnd c = false

theorem Clean.solid {s : String} (h : Clean s) : Solid s.toList where
  nonempty hs := h.nonempty (String.toList_eq_nil_iff.mp hs)
  trimmed := strip_eq_self_iff.mp h.stripped
  unbroken := h.unbroken

theorem Solid.around {s t mid : List Char} (hs : Solid s) (hmid : ∀ c ∈ mid, isLineEnd c = false)
    (ht : Solid t) : Solid (s ++ mid ++ t) where
  nonempty h := hs.nonempty (List.append_eq_nil_iff.mp (List.append_eq_nil_iff.mp h).1).1
  trimmed := hs.trimmed.around hs.nonempty mid ht.trimmed ht.nonempty
  unbroken c hc := by
    rcases List.mem_append.mp hc with hc | hc
    · rcases List.mem_append.mp hc with hc | hc
      · exact hs.unbroken c hc
      · exact hmid c hc
    · exact ht.unbroken c hc

theorem Solid.append {s t : List Char} (hs : Solid s) (ht : Solid t) : Solid (s ++ t) := by
  have hboth : Solid (s ++ [] ++ t) := hs.around (by simp) ht
  rwa [List.append_nil] at hboth

theorem Solid.head?_append {s : List Char} (h : Solid s) (t : List Char) :
    (s ++ t).head? = s.head? := by
  cases s with
  | nil => exact absurd rfl h.nonempty
  | cons c s => rfl

/-- What counts of lines that stand for themselves is they themselves. -/
theorem content_significant {written : List (List Char)} (h : ∀ l ∈ written, Solid l)
    (hcomment : ∀ l ∈ written, l.head? ≠ some '#') :
    (significant (written.flatMap (· ++ ['\n']))).map (·.content) = written := by
  rw [significant, lines_flatMap fun l hl => (h l hl).unbroken]
  -- the numbers of the lines do not matter for their contents
  generalize 1 = first
  induction written generalizing first with
  | nil => rfl
  | cons l written ih =>
    rw [List.forall_mem_cons] at h hcomment
    obtain ⟨hne, htrimmed, -⟩ := h.1
    have hblank : isAllBlank l = false := isAllBlank_eq_false htrimmed hne
    have hcounts : isComment l = false := by
      rw [isComment, stripStart_eq_self htrimmed.head]
      exact decide_eq_false hcomment.1
    simp only [List.zipIdx_cons, List.filterMap_cons, hblank, hcounts, Bool.or_self,
      Bool.false_eq_true, if_false, List.map_cons, htrimmed.strip, ih h.2 hcomment.2]

theorem Clean.filled? {s : String} (h : Clean s) : filled? s.toList = some s := by
  rw [MappingLines.filled?, isAllBlank_eq_false h.solid.trimmed h.solid.nonempty, h.stripped,
    String.ofList_toList]
  rfl

theorem filled?_optionalChars {x : Option String} (h : ∀ s ∈ x, Clean s) :
    filled? (optionalChars x) = x := by
  cases x with
  | none => rfl
  | some s => exact (h s rfl).filled?

end LookupEnums.MappingLines
