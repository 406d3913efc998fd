import LookupEnums.CommandLine.Report
import LookupEnums.Proofs.Text.Separator

/-! # What masking hides

Two configurations that differ in secrets only are masked alike. Secrets are the leaves whose nearest
key names one, and the passwords of addresses that name a user. Neither what lies in a dictionary
below a secret key nor the password of an address without a user is among them.
-/
namespace LookupEnums.Masking
open Text

def NamesSecret (key : String) : Prop :=
  ∃ word ∈ sensitiveWords, word.toList <:+: lowered key.toList

theorem isSensitive_iff {key : String} : isSensitive key = true ↔ NamesSecret key := by
  have hne : ∀ word ∈ sensitiveWords, word.toList ≠ [] := by decide
  simp only [isSensitive, List.any_eq_true, NamesSecret]
  constructor
  · rintro ⟨word, hword, hoccurs⟩
    exact ⟨word, hword, (occursIn_iff (hne word hword)).mp hoccurs⟩
  · rintro ⟨word, hword, hinfix⟩
    exact ⟨word, hword, (occursIn_iff (hne word hword)).mpr hinfix⟩

def IsScheme (scheme : List Char) : Prop :=
  ∃ c rest, scheme = c :: rest ∧ isLowerLetter c = true ∧ ∀ d ∈ rest, isSchemeChar d = true

def IsUser (user : List Char) : Prop :=
  ∀ c ∈ user, c ≠ ':' ∧ c ≠ '/' ∧ c ≠ '@'

def IsPassword (password : List Char) : Prop :=
  password ≠ [] ∧ '@' ∉ password

instance (user : List Char) : Decidable (IsUser user) :=
  decidable_of_iff (user.all isUserChar = true) (by simp [IsUser, isUserChar, and_assoc])

instance (password : List Char) : Decidable (IsPassword password) :=
  inferInstanceAs (Decidable (_ ∧ _))

def beforePassword (scheme user : List Char) : List Char :=
  scheme ++ schemeMark ++ user ++ [':']

def address (scheme user password rest : List Char) : List Char :=
  beforePassword scheme user ++ password ++ '@' :: rest

theorem IsUser.isUserChar {user : List Char} (h : IsUser user) : ∀ c ∈ user, isUserChar c = true := by
  intro c hc
  obtain ⟨hcolon, hslash, hat⟩ := h c hc
  simp [Masking.isUserChar, hcolon, hslash, hat]

/-- An address is found with its password, and nothing of it depends on more than the length of the
password. -/
theorem address?_address {scheme user password : List Char} (hscheme : IsScheme scheme)
    (huser : IsUser user) (hne : user ≠ []) (hpassword : IsPassword password) (rest : List Char) :
    address? (address scheme user password rest) =
      some ((beforePassword scheme user).length, password.length) := by
  obtain ⟨c, body, rfl, hc, hbody⟩ := hscheme
  have hmark : schemeMark = [':', '/', '/'] := by decide
  have hspelled : address (c :: body) user password rest =
      c :: (body ++ ':' :: '/' :: '/' :: (user ++ ':' :: (password ++ '@' :: rest))) := by
    simp [address, beforePassword, hmark]
  have hschemeEnd := takeWhile_append_cons hbody (by decide : isSchemeChar ':' = false)
    ('/' :: '/' :: (user ++ ':' :: (password ++ '@' :: rest)))
  have huserEnd := takeWhile_append_cons huser.isUserChar (by decide : isUserChar ':' = false)
    (password ++ '@' :: rest)
  have hpasswordEnd := takeWhile_ne hpassword.2 rest
  rw [hspelled, address?]
  simp only [hschemeEnd, List.drop_left, hmark, hc]
  simp only [List.isPrefixOf, beq_self_eq_true, Bool.and_self, Bool.not_true, Bool.or_self,
    Bool.false_eq_true, if_false, List.drop_succ_cons, List.drop_zero, huserEnd, List.drop_left,
    hpasswordEnd]
  rw [if_neg]
  · simp [beforePassword, hmark]
    omega
  · simp [hne, hpassword.1]

theorem hideFrom_keep {kept : List Char} {c : Char} {hide : Nat} (hhide : 0 < hide)
    (s : List Char) : hideFrom (kept.length + 1) hide (kept ++ c :: s) =
      kept ++ c :: (stars ++ hideFrom 0 hide s) := by
  induction kept with
  | nil => simp [hideFrom, hhide]
  | cons d kept ih =>
    rw [List.cons_append, List.length_cons, hideFrom, ih]
    simp

theorem hideFrom_hide (hidden s : List Char) :
    hideFrom 0 hidden.length (hidden ++ s) = hideFrom 0 0 s := by
  induction hidden with
  | nil => rfl
  | cons c hidden ih =>
    rw [List.cons_append, List.length_cons, hideFrom]
    exact ih

theorem address_cons (c : Char) (body user password rest : List Char) :
    address (c :: body) user password rest =
      c :: (body ++ schemeMark ++ user ++ ':' :: (password ++ '@' :: rest)) := by
  simp [address, beforePassword]

/-- The password of an address becomes three stars, and what is behind it is masked as by itself. -/
theorem hideFrom_address {scheme user password : List Char} (hscheme : IsScheme scheme)
    (huser : IsUser user) (hne : user ≠ []) (hpassword : IsPassword password) (rest : List Char) :
    hideFrom 0 0 (address scheme user password rest) =
      beforePassword scheme user ++ stars ++ hideFrom 0 0 ('@' :: rest) := by
  have hfound := address?_address hscheme huser hne hpassword rest
  obtain ⟨c, body, rfl, hc, hbody⟩ := hscheme
  have hpos : 0 < password.length := List.length_pos_iff.mpr hpassword.1
  have hlength : (beforePassword (c :: body) user).length - 1 =
      (body ++ schemeMark ++ user).length + 1 := by
    simp [beforePassword]
    omega
  -- the first character is written before what stands in front of the password is counted off
  rw [address_cons] at hfound ⊢
  rw [hideFrom, hfound]
  simp only [hlength]
  rw [hideFrom_keep hpos, hideFrom_hide]
  simp [beforePassword]

theorem hidePasswords_address {scheme user password password' : List Char}
    (hscheme : IsScheme scheme) (huser : IsUser user) (hne : user ≠ []) (hpassword : IsPassword password)
    (hpassword' : IsPassword password') (rest : List Char) :
    hidePasswords (String.ofList (address scheme user password rest)) =
      hidePasswords (String.ofList (address scheme user password' rest)) := by
  simp only [hidePasswords, String.toList_ofList, hideFrom_address hscheme huser hne hpassword,
    hideFrom_address hscheme huser hne hpassword']

/-- Which secrets there are besides the leaves whose nearest key names one and the passwords behind
users. -/
structure Secrecy where
  /-- Leaves of dictionaries below a key that names a secret. -/
  inherited : Bool
  /-- Passwords of addresses that name no user. -/
  userless : Bool

def IsLeaf : Value → Prop
  | .list _ | .dict _ => False
  | _ => True

mutual

/-- Equal but for secrets, where `hidden` says whether the leaves are secret. -/
inductive Alike (x : Secrecy) : (hidden : Prop) → Value → Value → Prop
  | same {hidden : Prop} {v : Value} (leaf : IsLeaf v) : Alike x hidden v v
  | secret {hidden : Prop} {v v' : Value} (secret : hidden) (leaf : IsLeaf v) (leaf' : IsLeaf v')
      (present : v.isNull = false) (present' : v'.isNull = false) : Alike x hidden v v'
  | password {hidden : Prop} {scheme user password password' : List Char} (rest : List Char)
      (isScheme : IsScheme scheme) (isUser : IsUser user)
      (named : user = [] → x.userless = true)
      (isPassword : IsPassword password) (isPassword' : IsPassword password') :
      Alike x hidden (.text (String.ofList (address scheme user password rest)))
        (.text (String.ofList (address scheme user password' rest)))
  | list {hidden : Prop} {items items' : List Value} (each : AlikeItems x hidden items items') :
      Alike x hidden (.list items) (.list items')
  | dict {hidden : Prop} {entries entries' : List (Value × Value)}
      (each : AlikeEntries x hidden entries entries') : Alike x hidden (.dict entries) (.dict entries')

inductive AlikeItems (x : Secrecy) : (hidden : Prop) → List Value → List Value → Prop
  | nil {hidden : Prop} : AlikeItems x hidden [] []
  | cons {hidden : Prop} {v v' : Value} {items items' : List Value} (first : Alike x hidden v v')
      (each : AlikeItems x hidden items items') : AlikeItems x hidden (v :: items) (v' :: items')

inductive AlikeEntries (x : Secrecy) :
    (hidden : Prop) → List (Value × Value) → List (Value × Value) → Prop
  | nil {hidden : Prop} : AlikeEntries x hidden [] []
  | cons {hidden : Prop} {key : String} {v v' : Value} {entries entries' : List (Value × Value)}
      (first : Alike x (NamesSecret key ∨ x.inherited = true ∧ hidden) v v')
      (each : AlikeEntries x hidden entries entries') :
      AlikeEntries x hidden ((.text key, v) :: entries) ((.text key, v') :: entries')

end

def shown (key : String) (v : Value) : Value :=
  if isSensitive key && !v.isNull then .text (String.ofList stars)
  else match v with
    | .text s => .text (hidePasswords s)
    | v => v

theorem value_of_isLeaf {v : Value} (h : IsLeaf v) (key : String) :
    value (.text key) v = .ok (shown key v) := by
  have hleaf : value (.text key) v = leaf (.text key) v := by
    cases v <;> first | rfl | exact h.elim
  rw [hleaf]
  simp only [leaf, hidesLeaves, shown, bind, Except.bind, pure, Except.pure]
  split
  · rfl
  · cases v <;> rfl

theorem shown_of_isSensitive {key : String} {v : Value} (hkey : isSensitive key = true)
    (hv : v.isNull = false) : shown key v = .text (String.ofList stars) := by
  simp [shown, hkey, hv]

/-- Secrets of the leaf itself and of addresses with users. -/
abbrev Secrecy.near : Secrecy := ⟨false, false⟩

abbrev Secrecy.all : Secrecy := ⟨true, true⟩

mutual

/-- Values that differ in secrets only are masked alike, below a key that names a secret if they
differ in secret leaves. -/
theorem value_alike {hidden : Prop} {v v' : Value} (h : Alike .near hidden v v') {key : String}
    (hkey : hidden → NamesSecret key) :
    ∃ masked, value (.text key) v = .ok masked ∧ value (.text key) v' = .ok masked := by
  cases h with
  | same leaf => exact ⟨_, value_of_isLeaf leaf key, value_of_isLeaf leaf key⟩
  | secret secret leaf leaf' present present' =>
    have hhides := isSensitive_iff.mpr (hkey secret)
    refine ⟨_, value_of_isLeaf leaf key, ?_⟩
    rw [value_of_isLeaf leaf', shown_of_isSensitive hhides present,
      shown_of_isSensitive hhides present']
  | password rest isScheme isUser named isPassword isPassword' =>
    have hne : _ ≠ [] := fun hnil => Bool.false_ne_true (named hnil)
    have hsame := hidePasswords_address isScheme isUser hne isPassword isPassword' rest
    -- whether or not the key hides the leaf, it is the masked forms that have to agree
    refine ⟨_, value_of_isLeaf (by trivial) key, ?_⟩
    rw [value_of_isLeaf (by trivial)]
    simp [shown, Value.isNull, hsame]
  | list each =>
    obtain ⟨masked, hmasked, hmasked'⟩ := itemsOf_alike each hkey
    exact ⟨.list masked, by simp [value, hmasked, Except.map], by simp [value, hmasked', Except.map]⟩
  | dict each =>
    obtain ⟨masked, hmasked, hmasked'⟩ := entriesOf_alike each
    exact ⟨.dict masked, by simp [value, hmasked, Except.map], by simp [value, hmasked', Except.map]⟩

theorem itemsOf_alike {hidden : Prop} {items items' : List Value}
    (h : AlikeItems .near hidden items items') {key : String} (hkey : hidden → NamesSecret key) :
    ∃ masked, itemsOf (.text key) items = .ok masked ∧ itemsOf (.text key) items' = .ok masked := by
  cases h with
  | nil => exact ⟨[], rfl, rfl⟩
  | cons first each =>
    obtain ⟨v, hv, hv'⟩ := value_alike first hkey
    obtain ⟨masked, hmasked, hmasked'⟩ := itemsOf_alike each hkey
    refine ⟨v :: masked, ?_, ?_⟩
    · simp [itemsOf, hv, hmasked, bind, Except.bind, pure, Except.pure]
    · simp [itemsOf, hv', hmasked', bind, Except.bind, pure, Except.pure]

theorem entriesOf_alike {hidden : Prop} {entries entries' : List (Value × Value)}
    (h : AlikeEntries .near hidden entries entries') :
    ∃ masked, entriesOf entries = .ok masked ∧ entriesOf entries' = .ok masked := by
  cases h with
  | nil => exact ⟨[], rfl, rfl⟩
  | @cons _ key _ _ _ _ first each =>
    have hkey : NamesSecret key ∨ Secrecy.near.inherited = true ∧ hidden → NamesSecret key := by
      rintro (hnames | ⟨hinherited, -⟩)
      · exact hnames
      · exact absurd hinherited Bool.false_ne_true
    obtain ⟨v, hv, hv'⟩ := value_alike first hkey
    obtain ⟨masked, hmasked, hmasked'⟩ := entriesOf_alike each
    refine ⟨(.text key, v) :: masked, ?_, ?_⟩
    · simp [entriesOf, hv, hmasked, bind, Except.bind, pure, Except.pure]
    · simp [entriesOf, hv', hmasked', bind, Except.bind, pure, Except.pure]

end

/-- Configurations that differ only in leaves whose nearest key names a secret and in passwords
behind users are masked alike, and a report of the one is a report of the other. -/
theorem near_secrets_hidden {entries entries' : List (Value × Value)}
    (h : AlikeEntries .near False entries entries') :
    (∃ masked, entriesOf entries = .ok masked ∧ entriesOf entries' = .ok masked) ∧
      ∀ kind tables, Report.document? ⟨some ⟨kind, entries⟩, tables⟩ =
        Report.document? ⟨some ⟨kind, entries'⟩, tables⟩ := by
  obtain ⟨masked, hmasked, hmasked'⟩ := entriesOf_alike h
  refine ⟨⟨masked, hmasked, hmasked'⟩, fun kind tables => ?_⟩
  simp only [Report.document?, Report.source?, Report.tables, hmasked, hmasked']

def reader (password token pin : List Char) : List (Value × Value) :=
  [(.text "url", .text (String.ofList
      (address "postgresql".toList "app".toList password "db:5432/lookups".toList))),
    (.text "tokens", .list [.text (String.ofList token), .null]),
    (.text "options", .dict [(.text "host", .text "localhost"),
      (.text "Password", .text (String.ofList pin))])]

theorem near_secrets_hidden_reader :
    AlikeEntries .near False (reader "s3cret".toList "abc".toList "4711".toList)
        (reader "a:b/c".toList "xyz".toList "0".toList) ∧
      Report.document? ⟨some ⟨"postgresql", reader "s3cret".toList "abc".toList "4711".toList⟩, []⟩ =
        Report.document? ⟨some ⟨"postgresql", reader "a:b/c".toList "xyz".toList "0".toList⟩, []⟩ := by
  have hscheme : IsScheme "postgresql".toList := ⟨'p', "ostgresql".toList, rfl, rfl, List.all_eq_true.mp (by decide)⟩
  have huser : IsUser "app".toList := by decide
  have htokens : NamesSecret "tokens" := ⟨"token", by decide, by decide⟩
  have hpassword : NamesSecret "Password" := ⟨"password", by decide, by decide⟩
  have halike : AlikeEntries .near False (reader "s3cret".toList "abc".toList "4711".toList)
      (reader "a:b/c".toList "xyz".toList "0".toList) :=
    .cons (.password _ hscheme huser (by decide) (by decide) (by decide))
      (.cons (.list (.cons (.secret (.inl htokens) trivial trivial rfl rfl)
        (.cons (.same trivial) .nil)))
      (.cons (.dict (.cons (.same trivial)
        (.cons (.secret (.inl hpassword) trivial trivial rfl rfl) .nil))) .nil))
  exact ⟨halike, (near_secrets_hidden halike).2 "postgresql" []⟩

def pinned (pin : String) : List (Value × Value) :=
  [(.text "credentials", .dict [(.text "pin", .text pin)])]

def userless (password : List Char) : List (Value × Value) :=
  [(.text "url", .text (String.ofList
    (address "postgresql".toList [] password "db:5432/lookups".toList)))]

/-- The other secrets show: of a dictionary below a key that names a secret, and of an address
without a user. -/
theorem far_secrets_shown :
    (AlikeEntries .all False (pinned "4711") (pinned "0815") ∧
        entriesOf (pinned "4711") = .ok (pinned "4711") ∧
        entriesOf (pinned "0815") = .ok (pinned "0815") ∧ pinned "4711" ≠ pinned "0815") ∧
      AlikeEntries .all False (userless "s3cret".toList) (userless "hunter2".toList) ∧
        entriesOf (userless "s3cret".toList) = .ok (userless "s3cret".toList) ∧
        entriesOf (userless "hunter2".toList) = .ok (userless "hunter2".toList) ∧
        userless "s3cret".toList ≠ userless "hunter2".toList := by
  have hcredentials : NamesSecret "credentials" := ⟨"credential", by decide, by decide⟩
  have hscheme : IsScheme "postgresql".toList := ⟨'p', "ostgresql".toList, rfl, rfl, List.all_eq_true.mp (by decide)⟩
  have hpins : AlikeEntries .all False (pinned "4711") (pinned "0815") :=
    .cons (.dict (.cons (.secret (.inr ⟨rfl, .inl hcredentials⟩) trivial trivial rfl rfl) .nil)) .nil
  have hpasswords :
      AlikeEntries .all False (userless "s3cret".toList) (userless "hunter2".toList) :=
    .cons (.password _ hscheme (by decide) (by decide) (by decide) (by decide)) .nil
  refine ⟨⟨hpins, rfl, rfl, by simp [pinned]⟩, hpasswords, rfl, rfl, ?_⟩
  simp [userless]
  decide

end LookupEnums.Masking
