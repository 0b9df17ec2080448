/-
Rendering a prompt template with the client's text.

This is `string.Template.safe_substitute` with the one key `input`: a doubled
dollar sign stands for one, and whatever is no placeholder of a known key stays.
-/

import Mathlib.Data.List.Basic

set_option autoImplicit false

namespace ModelBudget

def isIdentifierStart (c : Char) : Bool :=
  c = '_' || ('a' ≤ c && c ≤ 'z') || ('A' ≤ c && c ≤ 'Z')

def isIdentifierCharacter (c : Char) : Bool :=
  isIdentifierStart c || ('0' ≤ c && c ≤ '9')

/-- The longest identifier that the text starts with. -/
def takeIdentifier : List Char → Option (List Char)
  | first :: rest =>
      if isIdentifierStart first then some (first :: rest.takeWhile isIdentifierCharacter)
      else none
  | [] => none

inductive Placeholder
  | escaped
  | named (name : List Char) (length : Nat)
  | invalid

/-- What a dollar sign before this text is. -/
def readPlaceholder (rest : List Char) : Placeholder :=
  match rest with
  | '$' :: _ => .escaped
  | '{' :: braced =>
      match takeIdentifier braced with
      | some name =>
          if (braced.drop name.length).take 1 = ['}'] then .named name (name.length + 2)
          else .invalid
      | none => .invalid
  | _ =>
      match takeIdentifier rest with
      | some name => .named name name.length
      | none => .invalid

/-- Substitute from the left; the number counts characters of a placeholder that are
still to be passed over. -/
def safeSubstitute (input : List Char) : Nat → List Char → List Char
  | _, [] => []
  | skip + 1, _ :: rest => safeSubstitute input skip rest
  | 0, c :: rest =>
      if c = '$' then
        match readPlaceholder rest with
        | .escaped => '$' :: safeSubstitute input 1 rest
        | .named name length =>
            (if name = "input".toList then input else '$' :: rest.take length) ++
              safeSubstitute input length rest
        | .invalid => '$' :: safeSubstitute input 0 rest
      else c :: safeSubstitute input 0 rest

def renderPromptTemplate (template userInput : String) : String :=
  String.ofList (safeSubstitute userInput.toList 0 template.toList)

example : renderPromptTemplate "Say ${input}, $$5, $inputs, $" "hi" =
    "Say hi, $5, $inputs, $" := by decide

end ModelBudget
