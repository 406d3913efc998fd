import LookupEnums.Config.Substitution
import LookupEnums.Proofs.Text.Separator

/-! # Where variables stand

How a variable is written, and into which variables and plain characters a text falls: a variable is
taken at the first place where one is written, then at the first place behind it, and so on. There is
one such way for each text, and it is the one that substitution goes.
-/
namespace LookupEnums.Substitution
open Text
variable {s rest : List Char} {x : Variable} {n : Nat}

def Variable.written (x : Variable) : List Char :=
  match x.fallback with
  | none => '$' :: '{' :: (x.name ++ ['}'])
  | some d => '$' :: '{' :: (x.name ++ ':' :: '-' :: (d ++ ['}']))

/-- What can be written: the name has characters and none of those that may follow it, and the
default ends at the first brace. -/
structure Variable.Proper (x : Variable) : Prop where
  nonempty : x.name ≠ []
  name : ∀ c ∈ x.name, c ≠ '}' ∧ c ≠ ':' ∧ c ≠ '-'
  fallback : ∀ d ∈ x.fallback, '}' ∉ d

theorem Variable.Proper.isNameChar (h : x.Proper) : ∀ c ∈ x.name, isNameChar c = true := by
  intro c hc
  obtain ⟨hbrace, hcolon, hdash⟩ := h.name c hc
  simp [Substitution.isNameChar, hbrace, hcolon, hdash]

end LookupEnums.Substitution
