import LookupEnums.Proofs.Mapping.Printing

/-! # Reading back what was printed

Each printed line is read as what it was printed from, whatever lines stand around it. So the lines
of a configuration are read as that configuration.
-/
namespace LookupEnums.MappingLines
open Text

theorem colons_ne_nil : colons ≠ [] := List.cons_ne_nil _ _

theorem asSeparator_ne_nil : asSeparator ≠ [] := by decide

theorem unbroken_asSeparator : ∀ c ∈ asSeparator, isLineEnd c = false :=
  unbroken_of_all (by decide)

theorem ahead_colons {s : List Char} (h : ':' ∉ s) : Ahead colons s := ahead_of_not_mem h

theorem not_infix_colons {s : List Char} (h : ':' ∉ s) : ¬ colons <:+: s :=
  fun hsep => h (hsep.subset List.mem_cons_self)

/-- A place of the separator that begins in a name and ends behind it would begin with ` as`. -/
theorem Separable.ahead {s : String} (h : Separable s) : Ahead asSeparator s.toList := by
  intro back hne hback after hsep
  have hseparator : asSeparator = [' ', 'a', 's', ' '] := by decide
  have hend : " as".toList = [' ', 'a', 's'] := by decide
  rw [hseparator] at hsep
  obtain ⟨hinside, hbehind⟩ := h
  rw [hseparator] at hinside
  rw [hend] at hbehind
  rcases back with _ | ⟨c₁, _ | ⟨c₂, _ | ⟨c₃, _ | ⟨c₄, back⟩⟩⟩⟩
  · exact hne rfl
  · simp at hsep
  · simp at hsep
  · simp only [List.cons_append, List.nil_append, List.cons_prefix_cons] at hsep
    obtain ⟨rfl, rfl, rfl, -⟩ := hsep
    exact hbehind hback
  · simp only [List.cons_append, List.cons_prefix_cons] at hsep
    obtain ⟨rfl, rfl, rfl, rfl, -⟩ := hsep
    exact hinside ((List.prefix_append [' ', 'a', 's', ' '] back).isInfix.trans hback.isInfix)

theorem isPrefixOf_directiveHead (name : String) (s : List Char) :
    colons.isPrefixOf (directiveHead name ++ s) = true := by
  rw [directiveHead, List.append_assoc, List.append_assoc]
  exact isPrefixOf_append colons _

theorem directive?_same (name : String) (s : List Char) :
    directive? name (directiveHead name ++ s) = some (strip s) := by
  rw [directive?, if_pos (isPrefixOf_append _ _), List.drop_left]

/-- The head of a directive is no start of another's line. -/
theorem directive?_other {name other : String} (h : name ≠ other) (hname : ':' ∉ name.toList)
    (hother : ':' ∉ other.toList) (s : List Char) :
    directive? name (directiveHead other ++ s) = none := by
  refine if_neg fun hhead => h ?_
  obtain ⟨after, hafter⟩ := List.isPrefixOf_iff_prefix.mp hhead
  simp only [directiveHead, List.append_assoc, List.append_cancel_left_eq] at hafter
  -- both names end at the first colon
  have hcut := cut?_append colons_ne_nil (ahead_colons hname) after
  rw [List.append_assoc, hafter, ← List.append_assoc,
    cut?_append colons_ne_nil (ahead_colons hother)] at hcut
  exact (String.toList_injective (Prod.mk.inj (Option.some.inj hcut)).1).symm

theorem directive?_of_not_colons {line : List Char} (h : colons.isPrefixOf line = false)
    (name : String) : directive? name line = none := by
  refine if_neg fun hhead => ?_
  have hcolons : colons <+: directiveHead name := by
    rw [directiveHead, List.append_assoc]
    exact List.prefix_append _ _
  have hprefix :=
    List.isPrefixOf_iff_prefix.mpr (hcolons.trans (List.isPrefixOf_iff_prefix.mp hhead))
  rw [h] at hprefix
  cases hprefix

section column
variable {c : ColumnEntry}

theorem ColumnEntry.Printable.colon_not_mem_named (h : c.Printable) : ':' ∉ c.named := by
  have hcolumn := h.noColon
  unfold ColumnEntry.named
  split
  · exact hcolumn
  next accessor haccessor =>
    have hpart := (h.accessor accessor haccessor).2
    have hseparator : ':' ∉ asSeparator := by decide
    simp [hcolumn, hpart, hseparator]

theorem colon_not_mem_optionalChars {x : Option String} (h : ∀ s ∈ x, ':' ∉ s.toList) :
    ':' ∉ optionalChars x := by
  cases x with
  | none => exact List.not_mem_nil
  | some s => exact h s rfl

theorem ColumnEntry.Printable.pieces_line (h : c.Printable) :
    pieces colons c.line = [c.named, optionalChars c.template, optionalChars c.returns] := by
  have htemplate := colon_not_mem_optionalChars fun s hs => (h.template s hs).2
  have hreturns := colon_not_mem_optionalChars fun s hs => (h.returns s hs).2
  rw [ColumnEntry.line, pieces_append colons_ne_nil (ahead_colons h.colon_not_mem_named),
    pieces_append colons_ne_nil (ahead_colons htemplate),
    pieces_of_not_infix (not_infix_colons hreturns)]

theorem ColumnEntry.Printable.cutOrAll_named (h : c.Printable) :
    cutOrAll asSeparator c.named = (c.column.toList, optionalChars c.accessor) := by
  unfold ColumnEntry.named
  split
  next hnone =>
    rw [hnone, cutOrAll_of_not_infix asSeparator_ne_nil h.separable.inside]
    rfl
  next accessor haccessor =>
    rw [haccessor, cutOrAll_append asSeparator_ne_nil h.separable.ahead]
    rfl

theorem readColumn_line (h : c.Printable) (n : Nat) : readColumn ⟨n, c.line⟩ = .ok c := by
  have haccessor := filled?_optionalChars fun s hs => (h.accessor s hs).1
  have htemplate := filled?_optionalChars fun s hs => (h.template s hs).1
  have hreturns := filled?_optionalChars fun s hs => (h.returns s hs).1
  simp only [readColumn, h.pieces_line, List.length_cons, List.length_nil, List.getD_cons_zero,
    List.getD_cons_succ, h.cutOrAll_named, haccessor, htemplate, hreturns, h.column.stripped,
    String.ofList_toList]
  rfl

theorem ColumnEntry.Printable.solid_named (h : c.Printable) : Solid c.named := by
  have hcolumn := h.column.solid
  unfold ColumnEntry.named
  split
  · exact hcolumn
  next accessor haccessor =>
    exact hcolumn.around unbroken_asSeparator (h.accessor accessor haccessor).1.solid

theorem ColumnEntry.Printable.head?_named (h : c.Printable) :
    c.named.head? = c.column.toList.head? := by
  unfold ColumnEntry.named
  split
  · rfl
  · rw [List.append_assoc, h.column.solid.head?_append]

theorem ColumnEntry.Printable.not_colons (h : c.Printable) : colons.isPrefixOf c.line = false := by
  refine isPrefixOf_eq_false ?_
  rw [ColumnEntry.line]
  exact ahead_colons h.colon_not_mem_named c.named h.solid_named.nonempty (List.suffix_refl _) _

theorem solid_colons : Solid colons :=
  ⟨by decide, strip_eq_self_iff.mp (by decide), unbroken_of_all (by decide)⟩

theorem solid_colons_optionalChars {x : Option String} (h : ∀ s ∈ x, Clean s) :
    Solid (colons ++ optionalChars x) := by
  cases x with
  | none => exact solid_colons
  | some s => exact solid_colons.append (h s rfl).solid

theorem ColumnEntry.Printable.solid_line (h : c.Printable) : Solid c.line := by
  have htemplate := solid_colons_optionalChars fun s hs => (h.template s hs).1
  have hreturns := solid_colons_optionalChars fun s hs => (h.returns s hs).1
  have hline := h.solid_named.around htemplate.unbroken hreturns
  simpa [ColumnEntry.line] using hline

theorem ColumnEntry.Printable.head?_line (h : c.Printable) : c.line.head? ≠ some '#' := by
  rw [ColumnEntry.line, List.append_assoc, h.solid_named.head?_append, h.head?_named]
  exact h.noComment

end column

theorem solid_directive {name : String} (hname : ∀ c ∈ name.toList, isLineEnd c = false)
    {s : List Char} (hs : Solid s) : Solid (directiveHead name ++ s) :=
  (solid_colons.around hname solid_colons).append hs

theorem head?_directive (name : String) (s : List Char) :
    (directiveHead name ++ s).head? ≠ some '#' := by
  rw [directiveHead, List.append_assoc, List.append_assoc, solid_colons.head?_append]
  decide

namespace BodyLine

def Printable : BodyLine → Prop
  | key s => Clean s
  | label s => Clean s
  | attr s => Clean s
  | column c => c.Printable

variable {b : BodyLine}

theorem Printable.solid (h : b.Printable) : Solid b.line := by
  cases b with
  | key s => exact solid_directive (unbroken_of_all (by decide)) h.solid
  | label s => exact solid_directive (unbroken_of_all (by decide)) h.solid
  | attr s => exact solid_directive (unbroken_of_all (by decide)) h.solid
  | column c => exact h.solid_line

theorem Printable.head? (h : b.Printable) : b.line.head? ≠ some '#' := by
  cases b with
  | key s => exact head?_directive "key" _
  | label s => exact head?_directive "label" _
  | attr s => exact head?_directive "attribute" _
  | column c => exact h.head?_line

theorem Printable.noTable (h : b.Printable) : directive? "table" b.line = none := by
  cases b with
  | key s => exact directive?_other (by decide) (by decide) (by decide) _
  | label s => exact directive?_other (by decide) (by decide) (by decide) _
  | attr s => exact directive?_other (by decide) (by decide) (by decide) _
  | column c => exact directive?_of_not_colons h.not_colons "table"

end BodyLine

/-- A printed line adds to its table what it was printed from. -/
theorem addLine_line {b : BodyLine} (h : b.Printable) (t : TableEntry) (n : Nat) :
    addLine t ⟨n, b.line⟩ = .ok (b.add t) := by
  unfold addLine
  cases b with
  | column c =>
    have hcolumn : colons.isPrefixOf c.line = false := h.not_colons
    simp only [BodyLine.line, hcolumn, Bool.not_false, if_true, readColumn_line h]
    rfl
  | key s =>
    simp only [BodyLine.line, isPrefixOf_directiveHead, directive?_same, h.stripped]
    simp [BodyLine.add]
  | label s =>
    have hkey : ∀ s, directive? "key" (directiveHead "label" ++ s) = none :=
      directive?_other (by decide) (by decide) (by decide)
    simp only [BodyLine.line, isPrefixOf_directiveHead, hkey, directive?_same, h.stripped]
    simp [BodyLine.add]
  | attr s =>
    have hkey : ∀ s, directive? "key" (directiveHead "attribute" ++ s) = none :=
      directive?_other (by decide) (by decide) (by decide)
    have hlabel : ∀ s, directive? "label" (directiveHead "attribute" ++ s) = none :=
      directive?_other (by decide) (by decide) (by decide)
    simp only [BodyLine.line, isPrefixOf_directiveHead, hkey, hlabel, directive?_same, h.stripped]
    simp [BodyLine.add]

/-- What a body leaves of a table depends on the lines of each kind alone, not on how they stand
among each other. -/
theorem foldl_add (body : List BodyLine) (t : TableEntry) :
    body.foldl BodyLine.add t =
      { t with
        key := (body.filterMap BodyLine.key?).getLast?.or t.key
        label := (body.filterMap BodyLine.label?).getLast?.or t.label
        attributes := t.attributes ++ body.filterMap BodyLine.attribute?
        columns := t.columns ++ body.filterMap BodyLine.column? } := by
  induction body generalizing t with
  | nil => simp
  | cons b body ih =>
    rw [List.foldl_cons, ih]
    cases b <;>
      simp [BodyLine.add, List.filterMap_cons, BodyLine.key?, BodyLine.label?, BodyLine.attribute?,
        BodyLine.column?, List.getLast?_cons]

section table
variable {t : TableEntry} {body : List BodyLine}

theorem TableEntry.Printable.solid_named (h : t.Printable) :
    Solid (t.table.toList ++ asSeparator ++ t.typeName.toList) :=
  h.table.solid.around unbroken_asSeparator h.typeName.solid

theorem TableEntry.Printable.solid_line (h : t.Printable) : Solid t.line :=
  solid_directive (unbroken_of_all (by decide)) h.solid_named

theorem readTable_line (h : t.Printable) :
    readTable (t.table.toList ++ asSeparator ++ t.typeName.toList) =
      { table := t.table, typeName := t.typeName } := by
  simp only [readTable, cutOrAll_append asSeparator_ne_nil h.separable.ahead, h.table.stripped,
    h.typeName.filled?, String.ofList_toList, Option.getD_some]

theorem printable_of_mem (h : t.Printable) (hbody : t.Body body) {b : BodyLine} (hb : b ∈ body) :
    b.Printable := by
  obtain ⟨key, hkey, hcleanKey⟩ := h.key
  obtain ⟨label, hlabel, hcleanLabel⟩ := h.label
  cases b with
  | key s =>
    have hs : s ∈ t.key.toList := hbody.key ▸ List.mem_filterMap.mpr ⟨_, hb, rfl⟩
    rw [Option.mem_def.mp hkey] at hs
    rwa [List.mem_singleton.mp hs]
  | label s =>
    have hs : s ∈ t.label.toList := hbody.label ▸ List.mem_filterMap.mpr ⟨_, hb, rfl⟩
    rw [Option.mem_def.mp hlabel] at hs
    rwa [List.mem_singleton.mp hs]
  | attr s => exact h.attributes s (hbody.attributes ▸ List.mem_filterMap.mpr ⟨_, hb, rfl⟩)
  | column c => exact h.columns c (hbody.columns ▸ List.mem_filterMap.mpr ⟨_, hb, rfl⟩)

theorem TableEntry.Body.foldl_add (h : t.Printable) (hbody : t.Body body) :
    body.foldl BodyLine.add { table := t.table, typeName := t.typeName } = t := by
  obtain ⟨key, hkey, -⟩ := h.key
  obtain ⟨label, hlabel, -⟩ := h.label
  rw [MappingLines.foldl_add, hbody.key, hbody.label, hbody.attributes, hbody.columns, hkey, hlabel]
  cases t
  cases hkey
  cases hlabel
  rfl

theorem complete_of_printable (h : t.Printable) : complete t = .ok t := by
  obtain ⟨key, hkey, -⟩ := h.key
  obtain ⟨label, hlabel, -⟩ := h.label
  cases t
  cases hkey
  cases hlabel
  rfl

/-- The lines of a body are read into the table that is current. -/
theorem readTables_body (hbody : ∀ b ∈ body, b.Printable) {numbered : List NumberedLine}
    (hlines : numbered.map (·.content) = body.map BodyLine.line) (t : TableEntry)
    (rest : List NumberedLine) :
    readTables (some t) (numbered ++ rest) = readTables (some (body.foldl BodyLine.add t)) rest := by
  induction body generalizing numbered t with
  | nil =>
    rw [List.map_nil, List.map_eq_nil_iff] at hlines
    rw [hlines]
    rfl
  | cons b body ih =>
    rw [List.forall_mem_cons] at hbody
    obtain ⟨⟨n, content⟩, numbered, rfl, hcontent, hothers⟩ := List.map_eq_cons_iff.mp hlines
    have hline : content = b.line := hcontent
    subst hline
    rw [List.cons_append, readTables, hbody.1.noTable, List.foldl_cons, ← ih hbody.2 hothers]
    simp only [addLine_line hbody.1]
    rfl

end table

theorem readTables_table {line : NumberedLine} {spec : List Char}
    (h : directive? "table" line.content = some spec) (current : Option TableEntry)
    (rest : List NumberedLine) :
    readTables current (line :: rest) =
      (readTables (some (readTable spec)) rest).map (current.toList ++ ·) := by
  rw [readTables.eq_def]
  simp only [h]
  rfl

/-- The lines of the tables are read as the tables. -/
theorem readTables_tables {tables : List TableEntry} {bodies : List (List BodyLine)}
    (hbodies : List.Forall₂ TableEntry.Body tables bodies) (h : ∀ t ∈ tables, t.Printable)
    {numbered : List NumberedLine}
    (hlines : numbered.map (·.content) = (List.zipWith tableLines tables bodies).flatten)
    (current : Option TableEntry) : readTables current numbered = .ok (current.toList ++ tables) := by
  -- while the lines of one table are read, the table before it waits as the current one
  induction hbodies generalizing numbered current with
  | nil =>
    rw [List.zipWith_nil_left, List.flatten_nil, List.map_eq_nil_iff] at hlines
    rw [hlines, List.append_nil]
    rfl
  | @cons t body tables bodies hbody _ ih =>
    rw [List.forall_mem_cons] at h
    rw [List.zipWith_cons_cons, List.flatten_cons, tableLines, List.cons_append] at hlines
    obtain ⟨line, below, rfl, hcontent, hbelow⟩ := List.map_eq_cons_iff.mp hlines
    obtain ⟨own, others, rfl, hown, hothers⟩ := List.map_eq_append_iff.mp hbelow
    have hspec : directive? "table" line.content =
        some (t.table.toList ++ asSeparator ++ t.typeName.toList) := by
      rw [hcontent, TableEntry.line, directive?_same, h.1.solid_named.trimmed.strip]
    rw [readTables_table hspec, readTable_line h.1,
      readTables_body (fun b hb => printable_of_mem h.1 hbody hb) hown, hbody.foldl_add h.1,
      ih h.2 hothers]
    rfl

theorem mapM_complete {tables : List TableEntry} (h : ∀ t ∈ tables, t.Printable) :
    tables.mapM complete = .ok tables := by
  induction tables with
  | nil => rfl
  | cons t tables ih =>
    rw [List.forall_mem_cons] at h
    rw [List.mapM_cons, complete_of_printable h.1, ih h.2]
    rfl

section entries
variable {e : Entries} {bodies : List (List BodyLine)}

theorem readKind_line (h : e.Printable) :
    readKind (directiveHead "database" ++ e.kind.toList) = .ok e.kind := by
  have hname : ':' ∉ "database".toList := by decide
  have hpieces : pieces colons (directiveHead "database" ++ e.kind.toList) =
      [[], "database".toList, e.kind.toList] := by
    rw [directiveHead, List.append_assoc, List.append_assoc, pieces_prefix colons_ne_nil,
      ← List.append_assoc, pieces_append colons_ne_nil (ahead_colons hname),
      pieces_of_not_infix (not_infix_colons h.noColon)]
  rw [readKind, hpieces]
  simp only [List.getElem?_cons_succ, List.getElem?_cons_zero, Option.bind_some, h.kind.filled?]

theorem tableLines_solid {t : TableEntry} {body : List BodyLine} (h : t.Printable)
    (hbody : t.Body body) : ∀ l ∈ tableLines t body, Solid l ∧ l.head? ≠ some '#' := by
  rw [tableLines, List.forall_mem_cons]
  refine ⟨⟨h.solid_line, head?_directive "table" _⟩, fun l hl => ?_⟩
  obtain ⟨b, hb, rfl⟩ := List.mem_map.mp hl
  have hprintable := printable_of_mem h hbody hb
  exact ⟨hprintable.solid, hprintable.head?⟩

theorem printedLines_solid (h : e.Printable) (hbodies : List.Forall₂ TableEntry.Body e.tables bodies) :
    ∀ l ∈ e.printedLines bodies, Solid l ∧ l.head? ≠ some '#' := by
  rw [Entries.printedLines, List.forall_mem_cons, List.forall_mem_cons]
  refine ⟨⟨solid_directive (unbroken_of_all (by decide)) h.kind.solid, head?_directive "database" _⟩,
    ⟨h.connection.solid, h.noComment⟩, fun l hl => ?_⟩
  obtain ⟨own, hown, hl⟩ := List.mem_flatten.mp hl
  rw [← List.map_uncurry_zip_eq_zipWith] at hown
  obtain ⟨⟨t, body⟩, hpair, rfl⟩ := List.mem_map.mp hown
  exact tableLines_solid (h.tables t (List.of_mem_zip hpair).1) (List.forall₂_zip hbodies hpair) l hl

theorem readLines_printed (h : e.Printable) (hbodies : List.Forall₂ TableEntry.Body e.tables bodies)
    {numbered : List NumberedLine} (hlines : numbered.map (·.content) = e.printedLines bodies) :
    readLines numbered = .ok e := by
  obtain ⟨first, below, rfl, hfirst, hbelow⟩ := List.map_eq_cons_iff.mp hlines
  obtain ⟨second, others, rfl, hsecond, hothers⟩ := List.map_eq_cons_iff.mp hbelow
  have hconnection : colons.isPrefixOf e.connection.toList = false := isPrefixOf_eq_false h.noColons
  have hhead : databaseHead.isPrefixOf (directiveHead "database" ++ e.kind.toList) = true := by
    have hsplit : directiveHead "database" = databaseHead ++ colons := by decide
    rw [hsplit, List.append_assoc]
    exact isPrefixOf_append _ _
  have htables := readTables_tables hbodies h.tables hothers none
  simp only [readLines, hfirst, hsecond, hhead, hconnection, readKind_line h, htables]
  simp [bind, Except.bind, pure, Except.pure, mapM_complete h.tables]

/-- **Printing and reading.** A configuration whose texts can stand in lines is printed, with the
bodies of its tables in any order that keeps the attributes and the columns in theirs, as a text that
is read as exactly that configuration. -/
theorem parse_print (h : e.Printable) (hbodies : List.Forall₂ TableEntry.Body e.tables bodies) :
    parse (e.print bodies) = .ok e.toValue := by
  have hsolid := printedLines_solid h hbodies
  have hlines := content_significant (fun l hl => (hsolid l hl).1) fun l hl => (hsolid l hl).2
  rw [parse, read, Entries.print, String.toList_ofList, readLines_printed h hbodies hlines]
  rfl

end entries

/-- Two tables whose texts hold much of what the format itself is made of. -/
def orders : Entries where
  kind := "sqlite"
  connection := "data/look ups::2.db"
  tables := [
    { table := "as", typeName := "Acme.Kind as is", key := some "#Id", label := some "::Name",
      attributes := ["Flags", "Note(\"x as y::z\")"],
      columns := [
        { column := "Currency Id", accessor := some "Currency", returns := some "Acme.Currency" },
        { column := "as", template := some "new Rate(%as%) as x" }] },
    { table := "Region:: assoc", typeName := "Region", key := some "Id", label := some "Id",
      columns := [{ column := "Code" }] }]

def ordersBodies : List (List BodyLine) :=
  [[.column { column := "Currency Id", accessor := some "Currency", returns := some "Acme.Currency" },
      .attr "Flags", .label "::Name", .column { column := "as", template := some "new Rate(%as%) as x" },
      .key "#Id", .attr "Note(\"x as y::z\")"],
    [.key "Id", .column { column := "Code" }, .label "Id"]]

theorem parse_print_orders :
    orders.Printable ∧ List.Forall₂ TableEntry.Body orders.tables ordersBodies ∧
      orders.printedLines ordersBodies = [
        "::database::sqlite", "data/look ups::2.db",
        "::table::as as Acme.Kind as is", "Currency Id as Currency::::Acme.Currency",
        "::attribute::Flags", "::label::::Name", "as::new Rate(%as%) as x::", "::key::#Id",
        "::attribute::Note(\"x as y::z\")",
        "::table::Region:: assoc as Region", "::key::Id", "Code::::", "::label::Id"].map String.toList ∧
      parse (orders.print ordersBodies) = .ok orders.toValue := by
  have hprintable : orders.Printable := by decide
  have hbodies : List.Forall₂ TableEntry.Body orders.tables ordersBodies :=
    .cons ⟨rfl, rfl, rfl, rfl⟩ (.cons ⟨rfl, rfl, rfl, rfl⟩ .nil)
  exact ⟨hprintable, hbodies, by decide, parse_print hprintable hbodies⟩

end LookupEnums.MappingLines
