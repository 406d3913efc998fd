import LookupEnums.Proofs.Config.Passwords
import LookupEnums.Proofs.Config.Substitution

/-! # What masking leaves

A configuration keeps its shape, its nulls and whatever is not secret. What masking leaves of it is
masked to itself, and is the same for other passwords in its texts.
-/
namespace LookupEnums.Masking

mutual

def TextKeyed : Value → Prop
  | .list items => TextKeyedItems items
  | .dict entries => TextKeyedEntries entries
  | _ => True

def TextKeyedItems : List Value → Prop
  | [] => True
  | v :: rest => TextKeyed v ∧ TextKeyedItems rest

def TextKeyedEntries : List (Value × Value) → Prop
  | [] => True
  | (k, v) :: rest => (∃ key, k = .text key) ∧ TextKeyed v ∧ TextKeyedEntries rest

end

mutual

/-- What a value below a key becomes: the keys in their order, the lengths of lists, and nulls stay.
Another leaf becomes stars below a key that names a secret; below any other key it stays as well but
for the passwords in a text. -/
inductive Becomes : (key : String) → Value → Value → Prop
  | null {key : String} : Becomes key .null .null
  | secret {key : String} {v : Value} (secret : NamesSecret key) (leaf : IsLeaf v)
      (present : v ≠ .null) : Becomes key v (.text (String.ofList stars))
  | other {key : String} {v : Value} (plain : ¬ NamesSecret key) (leaf : IsLeaf v)
      (untold : ∀ s, v ≠ .text s) : Becomes key v v
  | text {key s t : String} (plain : ¬ NamesSecret key) (masks : Masks s.toList t.toList) :
      Becomes key (.text s) (.text t)
  | list {key : String} {items items' : List Value} (each : BecomesItems key items items') :
      Becomes key (.list items) (.list items')
  | dict {key : String} {entries entries' : List (Value × Value)}
      (each : BecomesEntries entries entries') : Becomes key (.dict entries) (.dict entries')

inductive BecomesItems : (key : String) → List Value → List Value → Prop
  | nil {key : String} : BecomesItems key [] []
  | cons {key : String} {v v' : Value} {items items' : List Value} (first : Becomes key v v')
      (each : BecomesItems key items items') : BecomesItems key (v :: items) (v' :: items')

inductive BecomesEntries : List (Value × Value) → List (Value × Value) → Prop
  | nil : BecomesEntries [] []
  | cons {key : String} {v v' : Value} {entries entries' : List (Value × Value)}
      (first : Becomes key v v') (each : BecomesEntries entries entries') :
      BecomesEntries ((.text key, v) :: entries) ((.text key, v') :: entries')

end

theorem shown_null (key : String) : shown key .null = .null := by
  simp only [shown, Value.isNull, Bool.not_true, Bool.and_false, Bool.false_eq_true, if_false]

theorem shown_secret {key : String} {v : Value} (hkey : NamesSecret key) (hv : v ≠ .null) :
    shown key v = .text (String.ofList stars) := by
  refine shown_of_isSensitive (isSensitive_iff.mpr hkey) ?_
  cases v <;> first | rfl | exact absurd rfl hv

theorem isSensitive_eq_false {key : String} (hkey : ¬ NamesSecret key) : isSensitive key = false := by
  rwa [Bool.eq_false_iff, ne_eq, isSensitive_iff]

theorem shown_text {key : String} (hkey : ¬ NamesSecret key) (s : String) :
    shown key (.text s) = .text (hidePasswords s) := by
  simp only [shown, isSensitive_eq_false hkey, Bool.false_and, Bool.false_eq_true, if_false]

theorem shown_other {key : String} {v : Value} (hkey : ¬ NamesSecret key) (hv : ∀ s, v ≠ .text s) :
    shown key v = v := by
  simp only [shown, isSensitive_eq_false hkey, Bool.false_and, Bool.false_eq_true, if_false]
theorem becomes_shown {v : Value} (h : IsLeaf v) (key : String) : Becomes key v (shown key v) := by
  by_cases hkey : NamesSecret key
  · by_cases hnull : v = .null
    · rw [hnull, shown_null]
      exact .null
    · rw [shown_secret hkey hnull]
      exact .secret hkey h hnull
  · by_cases htext : ∃ s, v = .text s
    · obtain ⟨s, rfl⟩ := htext
      rw [shown_text hkey]
      exact .text hkey (masks_hidePasswords s)
    · have hother : ∀ s, v ≠ .text s := not_exists.mp htext
      rw [shown_other hkey hother]
      exact .other hkey h hother

mutual

theorem value_becomes {v : Value} (h : TextKeyed v) (key : String) :
    ∃ masked, value (.text key) v = .ok masked ∧ Becomes key v masked := by
  cases v with
  | list items =>
    obtain ⟨masked, hmasked, hbecomes⟩ := itemsOf_becomes (by simpa [TextKeyed] using h) key
    exact ⟨.list masked, by simp [value, hmasked, Except.map], .list hbecomes⟩
  | dict entries =>
    obtain ⟨masked, hmasked, hbecomes⟩ := entriesOf_becomes (by simpa [TextKeyed] using h)
    exact ⟨.dict masked, by simp [value, hmasked, Except.map], .dict hbecomes⟩
  | null | bool | int | float | decimal | text | bytes | date | moment | time | span | uuid =>
    exact ⟨_, value_of_isLeaf (by trivial) key, becomes_shown (by trivial) key⟩

theorem itemsOf_becomes {items : List Value} (h : TextKeyedItems items) (key : String) :
    ∃ masked, itemsOf (.text key) items = .ok masked ∧ BecomesItems key items masked := by
  cases items with
  | nil => exact ⟨[], rfl, .nil⟩
  | cons v rest =>
    obtain ⟨w, hw, hfirst⟩ := value_becomes h.1 key
    obtain ⟨masked, hmasked, heach⟩ := itemsOf_becomes h.2 key
    exact ⟨w :: masked, by simp [itemsOf, hw, hmasked, bind, Except.bind, pure, Except.pure],
      .cons hfirst heach⟩

theorem entriesOf_becomes {entries : List (Value × Value)} (h : TextKeyedEntries entries) :
    ∃ masked, entriesOf entries = .ok masked ∧ BecomesEntries entries masked := by
  cases entries with
  | nil => exact ⟨[], rfl, .nil⟩
  | cons entry rest =>
    obtain ⟨k, v⟩ := entry
    obtain ⟨⟨key, rfl⟩, hv, hrest⟩ := h
    obtain ⟨w, hw, hfirst⟩ := value_becomes hv key
    obtain ⟨masked, hmasked, heach⟩ := entriesOf_becomes hrest
    exact ⟨(.text key, w) :: masked,
      by simp [entriesOf, hw, hmasked, bind, Except.bind, pure, Except.pure], .cons hfirst heach⟩

end

mutual

theorem Becomes.again {key : String} {v w : Value} (h : Becomes key v w) :
    value (.text key) w = .ok w := by
  cases h with
  | null => rw [value_of_isLeaf (by trivial), shown_null]
  | secret secret leaf present =>
    rw [value_of_isLeaf (by trivial), shown_secret secret Value.noConfusion]
  | other plain leaf untold => rw [value_of_isLeaf leaf, shown_other plain untold]
  | text plain masks =>
    rw [value_of_isLeaf (by trivial), shown_text plain, hidePasswords_eq_of_masks masks.again]
  | list each => simp [value, each.again, Except.map]
  | dict each => simp [value, each.again, Except.map]

theorem BecomesItems.again {key : String} {items masked : List Value}
    (h : BecomesItems key items masked) : itemsOf (.text key) masked = .ok masked := by
  cases h with
  | nil => rfl
  | cons first each =>
    simp [itemsOf, first.again, each.again, bind, Except.bind, pure, Except.pure]

theorem BecomesEntries.again {entries masked : List (Value × Value)}
    (h : BecomesEntries entries masked) : entriesOf masked = .ok masked := by
  cases h with
  | nil => rfl
  | cons first each =>
    simp [entriesOf, first.again, each.again, bind, Except.bind, pure, Except.pure]

end

/-- The same text, or one with another password in one of its addresses. -/
def OtherPassword (s t : String) : Prop :=
  t = s ∨ ∃ (before : List Char) (l : Login) (password password' rest : List Char),
    IsPassword password ∧ IsPassword password' ∧
      s.toList = before ++ l.address password rest ∧ t.toList = before ++ l.address password' rest

theorem OtherPassword.hidePasswords_eq {s t : String} (h : OtherPassword s t) :
    hidePasswords t = hidePasswords s := by
  obtain rfl | ⟨before, l, password, password', rest, hpassword, hpassword', hs, ht⟩ := h
  · rfl
  · have hmasks := masks_hidePasswords s
    rw [hs] at hmasks
    have hother := hmasks.otherPassword hpassword hpassword'
    rw [← ht] at hother
    exact hidePasswords_eq_of_masks hother

theorem leaf_text (key : Value) (s : String) :
    leaf key (.text s) = (hidesLeaves key).map fun hides =>
      .text (if hides then String.ofList stars else hidePasswords s) := by
  rw [leaf]
  cases hidesLeaves key with
  | error e => rfl
  | ok hides => cases hides <;> rfl

variable {f : String → String}

mutual

theorem value_mapTexts (hf : ∀ s, OtherPassword s (f s)) (key v : Value) :
    value key (v.mapTexts f) = value key v := by
  cases v with
  | text s =>
    change leaf key (.text (f s)) = leaf key (.text s)
    rw [leaf_text, leaf_text, (hf s).hidePasswords_eq]
  | list items => simp only [Value.mapTexts, value, itemsOf_mapTexts hf key items]
  | dict entries => simp only [Value.mapTexts, value, entriesOf_mapTexts hf entries]
  | null | bool | int | float | decimal | bytes | date | moment | time | span | uuid => rfl

theorem itemsOf_mapTexts (hf : ∀ s, OtherPassword s (f s)) (key : Value) (items : List Value) :
    itemsOf key (Value.mapTextsOfItems f items) = itemsOf key items := by
  cases items with
  | nil => rfl
  | cons v rest =>
    simp only [Value.mapTextsOfItems, itemsOf, value_mapTexts hf key v, itemsOf_mapTexts hf key rest]

theorem entriesOf_mapTexts (hf : ∀ s, OtherPassword s (f s)) (entries : List (Value × Value)) :
    entriesOf (Value.mapTextsOfEntries f entries) = entriesOf entries := by
  cases entries with
  | nil => rfl
  | cons entry rest =>
    obtain ⟨k, v⟩ := entry
    simp only [Value.mapTextsOfEntries, entriesOf, value_mapTexts hf k v, entriesOf_mapTexts hf rest]

end

/-- Masking a configuration with texts for keys keeps its shape, its nulls and, below keys that name
no secret, all but the passwords of its texts. Masking it again changes nothing, and other passwords
in its texts are masked alike. -/
theorem masking_exact {entries : List (Value × Value)} (h : TextKeyedEntries entries) :
    ∃ masked, entriesOf entries = .ok masked ∧ BecomesEntries entries masked ∧
      entriesOf masked = .ok masked ∧
      ∀ f : String → String, (∀ s, OtherPassword s (f s)) →
        entriesOf (Value.mapTextsOfEntries f entries) = .ok masked := by
  obtain ⟨masked, hmasked, hbecomes⟩ := entriesOf_becomes h
  refine ⟨masked, hmasked, hbecomes, hbecomes.again, fun f hf => ?_⟩
  rw [entriesOf_mapTexts hf, hmasked]

def tunnel (address token : String) : List (Value × Value) :=
  [(.text "url", .text address), (.text "tokens", .list [.text token, .null]),
    (.text "options", .dict [(.text "host", .text "a://b:@c"), (.text "port", .int 5432)])]

theorem masking_exact_tunnel :
    TextKeyedEntries (tunnel "jdbc:ssh://gate:mysql://app:s3cret@db/x@y" "abc") ∧
    entriesOf (tunnel "jdbc:ssh://gate:mysql://app:s3cret@db/x@y" "abc") =
      .ok (tunnel "jdbc:ssh://gate:***@db/x@y" "***") ∧
    entriesOf (tunnel "jdbc:ssh://gate:***@db/x@y" "***") =
      .ok (tunnel "jdbc:ssh://gate:***@db/x@y" "***") ∧
    ∀ f : String → String, (∀ s, OtherPassword s (f s)) →
      entriesOf (Value.mapTextsOfEntries f (tunnel "jdbc:ssh://gate:mysql://app:s3cret@db/x@y" "abc")) =
        .ok (tunnel "jdbc:ssh://gate:***@db/x@y" "***") := by
  have hkeyed : TextKeyedEntries (tunnel "jdbc:ssh://gate:mysql://app:s3cret@db/x@y" "abc") := by
    simp [tunnel, TextKeyedEntries, TextKeyed, TextKeyedItems]
  have hhidden : entriesOf (tunnel "jdbc:ssh://gate:mysql://app:s3cret@db/x@y" "abc") =
      .ok (tunnel "jdbc:ssh://gate:***@db/x@y" "***") := by rfl
  obtain ⟨masked, hmasked, -, hagain, hother⟩ := masking_exact hkeyed
  obtain rfl : masked = tunnel "jdbc:ssh://gate:***@db/x@y" "***" :=
    Except.ok.inj (hmasked.symm.trans hhidden)
  exact ⟨hkeyed, hhidden, hagain, hother⟩

end LookupEnums.Masking
