import LookupEnums.Proofs.Config.Masking

/-! # Passwords in a text

In a text masking takes the first address, then the first one behind it, and so on, and writes stars
for their passwords. An address is found by its scheme and user and some password in front of an `@`,
whatever password that is. So the stars hide no less a second time, and they neither make a new
address nor tell one password from another.
-/
namespace LookupEnums.Masking
open Text

structure Login where
  scheme : List Char
  user : List Char
  isScheme : IsScheme scheme
  isUser : IsUser user
  named : user ≠ []

def Login.head (l : Login) : List Char :=
  beforePassword l.scheme l.user

def Login.address (l : Login) (password rest : List Char) : List Char :=
  Masking.address l.scheme l.user password rest

theorem Login.address_eq (l : Login) (password rest : List Char) :
    l.address password rest = l.head ++ password ++ '@' :: rest := rfl

/-- An address stands at the front. -/
def IsAddress (s : List Char) : Prop :=
  ∃ (l : Login) (password rest : List Char), IsPassword password ∧ s = l.address password rest

theorem not_mem_of_isScheme {scheme : List Char} (h : IsScheme scheme) {c : Char}
    (hc : isSchemeChar c = false) : c ∉ scheme := by
  obtain ⟨d, rest, rfl, hd, hrest⟩ := h
  rw [List.mem_cons, not_or]
  constructor
  · rintro rfl
    rw [isSchemeChar, hd] at hc
    cases hc
  · intro hmem
    rw [hrest c hmem] at hc
    cases hc

namespace Login
variable (l l' : Login) {before after tail : List Char}

theorem at_notMem_head : '@' ∉ l.head := by
  have hscheme : '@' ∉ l.scheme := not_mem_of_isScheme l.isScheme (by decide)
  have huser : '@' ∉ l.user := fun h => (l.isUser '@' h).2.2 rfl
  have hmark : '@' ∉ schemeMark := by decide
  simp [head, beforePassword, hscheme, huser, hmark]

/-- There are two colons in front of a password, and the second one is the last character there. -/
theorem exists_head_eq : ∃ front, l.head = front ++ [':'] ∧ front.count ':' = 1 := by
  have hscheme : ':' ∉ l.scheme := not_mem_of_isScheme l.isScheme (by decide)
  have huser : ':' ∉ l.user := fun h => (l.isUser ':' h).1 rfl
  have hmark : schemeMark.count ':' = 1 := by decide
  refine ⟨l.scheme ++ schemeMark ++ l.user, rfl, ?_⟩
  rw [List.count_append, List.count_append, List.count_eq_zero_of_not_mem hscheme,
    List.count_eq_zero_of_not_mem huser, hmark]

/-- A password begins behind the second colon: not later in one address than in another one that
begins before it. -/
theorem head_within (h : l.head ++ tail = before ++ l'.head ++ after) :
    l.head <+: before ++ l'.head := by
  have hshort : before ++ l'.head <+: l.head ++ tail := h ▸ List.prefix_append _ after
  rcases List.prefix_or_prefix_of_prefix (List.prefix_append l.head tail) hshort with hpre | hpre
  · exact hpre
  · obtain ⟨front, hfront, hcount⟩ := l.exists_head_eq
    obtain ⟨front', hfront', hcount'⟩ := l'.exists_head_eq
    rw [hfront] at hpre
    rcases List.prefix_concat_iff.mp hpre with heq | hproper
    · rw [hfront, heq]
    · have hle := hproper.count_le ':'
      rw [hfront', List.count_append, List.count_append, hcount, hcount'] at hle
      simp at hle

end Login

/-- Behind the user something stands in front of an `@`. -/
theorem isAddress_iff {s : List Char} :
    IsAddress s ↔ ∃ (l : Login) (tail : List Char),
      s = l.head ++ tail ∧ '@' ∈ tail ∧ tail.head? ≠ some '@' := by
  constructor
  · rintro ⟨l, password, rest, ⟨hne, hat⟩, rfl⟩
    refine ⟨l, password ++ '@' :: rest, List.append_assoc _ _ _, by simp, ?_⟩
    rw [List.head?_append_of_ne_nil _ hne]
    exact fun hhead => hat (List.mem_of_mem_head? hhead)
  · rintro ⟨l, tail, rfl, hat, hhead⟩
    obtain ⟨password, rest, rfl, hpassword⟩ := List.eq_append_cons_of_mem hat
    refine ⟨l, password, rest, ⟨?_, hpassword⟩, (List.append_assoc _ _ _).symm⟩
    rintro rfl
    exact hhead rfl

/-- Whether an address begins at a place does not depend on a password behind the place, nor on what
follows the password. -/
theorem IsAddress.exchange (before : List Char) {password password' rest rest' : List Char} {l : Login}
    (hpassword' : IsPassword password') (h : IsAddress (before ++ l.address password rest)) :
    IsAddress (before ++ l.address password' rest') := by
  obtain ⟨l', tail, hs, hat, hhead⟩ := isAddress_iff.mp h
  have hs' : l'.head ++ tail = before ++ l.head ++ (password ++ '@' :: rest) := by
    rw [← hs, Login.address_eq]
    simp
  obtain ⟨between, hbetween⟩ := l'.head_within l hs'
  have htail : tail = between ++ (password ++ '@' :: rest) := by
    rw [← hbetween, List.append_assoc] at hs'
    exact List.append_cancel_left hs'
  refine isAddress_iff.mpr ⟨l', between ++ (password' ++ '@' :: rest'), ?_, by simp, ?_⟩
  · rw [← List.append_assoc, hbetween, Login.address_eq]
    simp
  · cases between with
    | nil =>
      rw [List.nil_append, List.head?_append_of_ne_nil _ hpassword'.1]
      exact fun hmem => hpassword'.2 (List.mem_of_mem_head? hmem)
    | cons c between =>
      rw [htail] at hhead
      exact hhead

theorem takeWhile_append_drop (p : Char → Bool) (s : List Char) :
    s.takeWhile p ++ s.drop (s.takeWhile p).length = s :=
  List.prefix_iff_eq_append.mp (List.takeWhile_prefix p)

theorem of_address? {s : List Char} {x : Nat × Nat} (h : address? s = some x) : IsAddress s := by
  cases s with
  | nil => cases h
  | cons c r =>
    rw [address?] at h
    simp only at h
    -- each part goes as far as its characters do: the scheme, then the user, then what an `@` ends
    have hr := takeWhile_append_drop isSchemeChar r
    have hscheme : ∀ d ∈ r.takeWhile isSchemeChar, isSchemeChar d = true := fun d hd =>
      List.mem_takeWhile_imp hd
    generalize r.takeWhile isSchemeChar = scheme at *
    generalize r.drop scheme.length = afterScheme at *
    split at h
    next => cases h
    next hstart =>
      simp only [Bool.or_eq_true, Bool.not_eq_true', not_or, Bool.not_eq_false] at hstart
      obtain ⟨hc, hmark⟩ := hstart
      obtain ⟨rest, rfl⟩ := List.isPrefixOf_iff_prefix.mp hmark
      have hdrop : (schemeMark ++ rest).drop 3 = rest := by simp [schemeMark]
      rw [hdrop] at h
      have hrest := takeWhile_append_drop isUserChar rest
      have huser : IsUser (rest.takeWhile isUserChar) := by
        intro d hd
        have hchar := List.mem_takeWhile_imp hd
        simpa [isUserChar, and_assoc] using hchar
      generalize rest.takeWhile isUserChar = user at *
      split at h
      next tail htail =>
        split at h
        next => cases h
        next hfilled =>
          simp only [Bool.or_eq_true, List.isEmpty_iff, decide_eq_true_eq, not_or] at hfilled
          obtain ⟨⟨hnamed, hsome⟩, hended⟩ := hfilled
          refine isAddress_iff.mpr
            ⟨⟨c :: scheme, user, ⟨c, scheme, rfl, hc, hscheme⟩, huser, hnamed⟩, tail, ?_, ?_, ?_⟩
          · rw [← hr, ← hrest, htail]
            simp [Login.head, beforePassword]
          · by_contra hat
            refine hended (congrArg List.length (List.takeWhile_eq_self_iff.mpr fun d hd => ?_))
            simpa using ne_of_mem_of_not_mem hd hat
          · intro hhead
            obtain ⟨rest, rfl⟩ := List.head?_eq_some_iff.mp hhead
            exact hsome rfl
      next => cases h

/-- Behind the scheme and the user of an address stars stand for its password; where no address
begins the character stays. -/
inductive Masks : List Char → List Char → Prop
  | nil : Masks [] []
  | plain {c : Char} {s t : List Char} :
      ¬ IsAddress (c :: s) → Masks s t → Masks (c :: s) (c :: t)
  | password {l : Login} {password rest rest' : List Char} :
      IsPassword password → Masks rest rest' → Masks (l.address password rest) (l.address stars rest')

theorem Login.address?_address (l : Login) {password : List Char} (h : IsPassword password)
    (rest : List Char) :
    address? (l.address password rest) = some (l.head.length, password.length) :=
  Masking.address?_address l.isScheme l.isUser l.named h rest

theorem address?_eq_none_iff {s : List Char} : address? s = none ↔ ¬ IsAddress s := by
  constructor
  · rintro h ⟨l, password, rest, hpassword, rfl⟩
    rw [l.address?_address hpassword] at h
    cases h
  · intro h
    cases hfound : address? s with
    | none => rfl
    | some x => exact absurd (of_address? hfound) h

theorem hideFrom_plain {c : Char} {s : List Char} (h : ¬ IsAddress (c :: s)) :
    hideFrom 0 0 (c :: s) = c :: hideFrom 0 0 s := by
  rw [hideFrom, address?_eq_none_iff.mpr h]

theorem Login.hideFrom_address (l : Login) {password : List Char} (h : IsPassword password)
    (rest : List Char) :
    hideFrom 0 0 (l.address password rest) = l.address stars (hideFrom 0 0 rest) := by
  have hat : hideFrom 0 0 ('@' :: rest) = '@' :: hideFrom 0 0 rest :=
    hideFrom_plain (address?_eq_none_iff.mp rfl)
  calc hideFrom 0 0 (l.address password rest)
      = l.head ++ stars ++ hideFrom 0 0 ('@' :: rest) :=
        Masking.hideFrom_address l.isScheme l.isUser l.named h rest
    _ = l.address stars (hideFrom 0 0 rest) := by rw [hat, Login.address_eq]

theorem masks_hideFrom (s : List Char) : Masks s (hideFrom 0 0 s) := by
  -- what follows an address is masked next, so the induction is on the length
  induction hlength : s.length using Nat.strong_induction_on generalizing s with
  | _ n ih =>
    by_cases h : IsAddress s
    · obtain ⟨l, password, rest, hpassword, rfl⟩ := h
      have hshorter : rest.length < n := by
        rw [← hlength, Login.address_eq, List.length_append, List.length_cons]
        omega
      rw [l.hideFrom_address hpassword]
      exact .password hpassword (ih _ hshorter rest rfl)
    · cases s with
      | nil => exact .nil
      | cons c s =>
        rw [hideFrom_plain h]
        exact .plain h (ih s.length (by simp [← hlength]) s rfl)

theorem masks_iff {s t : List Char} : Masks s t ↔ t = hideFrom 0 0 s := by
  constructor
  · intro h
    induction h with
    | nil => rfl
    | plain hplain _ ih => rw [hideFrom_plain hplain, ih]
    | @password l _ _ _ hpassword _ ih => rw [l.hideFrom_address hpassword, ih]
  · rintro rfl
    exact masks_hideFrom s

/-- No address begins in the masked text where none did before. -/
theorem Masks.isAddress {s t : List Char} (h : Masks s t) :
    ∀ before, IsAddress (before ++ t) → IsAddress (before ++ s) := by
  induction h with
  | nil => exact fun _ haddress => haddress
  | @plain c s t _ _ ih =>
    -- a character that stays is one more in front of the rest
    intro before haddress
    rw [List.append_cons] at haddress ⊢
    exact ih (before ++ [c]) haddress
  | password hpassword _ _ => exact fun before => IsAddress.exchange before hpassword

theorem Masks.again {s t : List Char} (h : Masks s t) : Masks t t := by
  have hstars : IsPassword stars := by decide
  induction h with
  | nil => exact .nil
  | @plain c s t hplain hmasks ih => exact .plain (mt (hmasks.isAddress [c]) hplain) ih
  | password _ _ ih => exact .password hstars ih

/-- Two texts up to their first `@`, and behind it. -/
theorem append_at_inj {a a' b b' : List Char} (h : a ++ '@' :: b = a' ++ '@' :: b') (ha : '@' ∉ a)
    (ha' : '@' ∉ a') : a = a' ∧ b = b' := by
  have hfirst : a = a' := by rw [← takeWhile_ne ha b, h, takeWhile_ne ha' b']
  subst hfirst
  exact ⟨rfl, (List.cons.inj (List.append_cancel_left h)).2⟩

/-- A password is hidden alike whatever it is, also where what is taken for an address begins before
its own. -/
theorem Masks.otherPassword {l : Login} {password password' rest before t : List Char}
    (h : Masks (before ++ l.address password rest) t) (hpassword : IsPassword password)
    (hpassword' : IsPassword password') : Masks (before ++ l.address password' rest) t := by
  generalize hs : before ++ l.address password rest = s at h
  induction h generalizing before with
  | nil => simp [Login.address_eq] at hs
  | @plain c s t hplain hmasks ih =>
    cases before with
    | nil => exact absurd ⟨l, password, rest, hpassword, hs.symm⟩ hplain
    | cons d before =>
      obtain ⟨rfl, rfl⟩ := List.cons.inj hs
      exact .plain (mt (IsAddress.exchange (d :: before) hpassword) hplain) (ih rfl)
  | @password l₁ password₁ rest₁ t hpassword₁ hmasks ih =>
    have hfront : '@' ∉ l₁.head ++ password₁ := by simp [l₁.at_notMem_head, hpassword₁.2]
    by_cases hat : '@' ∈ before
    · -- the address that is taken ends in front of this one
      obtain ⟨a, b, rfl, ha⟩ := List.eq_append_cons_of_mem hat
      rw [List.append_assoc, List.cons_append] at hs ⊢
      obtain ⟨rfl, rfl⟩ := append_at_inj hs ha hfront
      exact .password hpassword₁ (ih rfl)
    · -- it ends with this one, whose password is the end of the one taken
      have hwhole : '@' ∉ before ++ l.head ++ password := by
        simp [hat, l.at_notMem_head, hpassword.2]
      rw [Login.address_eq, ← List.append_assoc, ← List.append_assoc] at hs
      obtain ⟨hhead, rfl⟩ := append_at_inj hs hwhole hfront
      obtain ⟨between, hbetween⟩ := l₁.head_within l hhead.symm
      have hlonger : before ++ l.address password' rest = l₁.address (between ++ password') rest := by
        rw [Login.address_eq, Login.address_eq, ← List.append_assoc, ← List.append_assoc, ← hbetween,
          List.append_assoc l₁.head]
      have hbetweenAt : '@' ∉ between := by
        intro hmem
        have hfrontAt : '@' ∈ before ++ l.head := hbetween ▸ List.mem_append_right _ hmem
        exact hwhole (List.mem_append_left _ hfrontAt)
      rw [hlonger]
      exact .password ⟨by simp [hpassword'.1], by simp [hbetweenAt, hpassword'.2]⟩ hmasks

theorem masks_hidePasswords (s : String) : Masks s.toList (hidePasswords s).toList := by
  rw [hidePasswords, String.toList_ofList]
  exact masks_hideFrom s.toList

theorem hidePasswords_eq_of_masks {s t : String} (h : Masks s.toList t.toList) :
    hidePasswords s = t := by
  rw [hidePasswords, ← masks_iff.mp h, String.ofList_toList]

end LookupEnums.Masking
