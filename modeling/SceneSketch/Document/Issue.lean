/-!
# Faults of a document

A value that does not fit is reported by where it stands and what is wrong with it.
-/

namespace SceneSketch

inductive Step
  | key (name : String)
  | index (position : Nat)
deriving DecidableEq

inductive Problem
  | missing
  | notModel (name : String)
  | notTagged
  | tagMissing (key : String)
  | tagUnknown (key tag : String) (expected : List String)
  | notNumber
  | unreadableNumber
  | notFinite
  | notPositive
  | notBool
  | unreadableBool
  | notText
  | notUnicode
  | notChoice (choices : List String)
  | notList
  | unreadableInt
  | oversizedInt
  | nullCharacter
deriving DecidableEq

structure Issue where
  path : List Step
  problem : Problem
deriving DecidableEq

def quotedChoice (s : String) : String :=
  "'" ++ s ++ "'"

/-- Choices in a row, the last one after `or`. -/
def choiceText : List String → String
  | [] => ""
  | [s] => quotedChoice s
  | [s, t] => quotedChoice s ++ " or " ++ quotedChoice t
  | s :: rest => quotedChoice s ++ ", " ++ choiceText rest

namespace Problem

def code : Problem → String
  | missing => "missing"
  | notModel _ => "model_type"
  | notTagged => "model_attributes_type"
  | tagMissing _ => "union_tag_not_found"
  | tagUnknown .. => "union_tag_invalid"
  | notNumber => "float_type"
  | unreadableNumber => "float_parsing"
  | notFinite => "finite_number"
  | notPositive => "greater_than"
  | notBool => "bool_type"
  | unreadableBool => "bool_parsing"
  | notText => "string_type"
  | notUnicode => "string_unicode"
  | notChoice _ => "literal_error"
  | notList => "list_type"
  | unreadableInt => "int_parsing"
  | oversizedInt => "int_parsing_size"
  | nullCharacter => "value_error"

def message : Problem → String
  | missing => "Field required"
  | notModel name => "Input should be a valid dictionary or instance of " ++ name
  | notTagged => "Input should be a valid dictionary or object to extract fields from"
  | tagMissing key => "Unable to extract tag using discriminator " ++ quotedChoice key
  | tagUnknown key tag expected =>
    "Input tag " ++ quotedChoice tag ++ " found using " ++ quotedChoice key ++
      " does not match any of the expected tags: " ++
      String.intercalate ", " (expected.map quotedChoice)
  | notNumber => "Input should be a valid number"
  | unreadableNumber => "Input should be a valid number, unable to parse string as a number"
  | notFinite => "Input should be a finite number"
  | notPositive => "Input should be greater than 0"
  | notBool => "Input should be a valid boolean"
  | unreadableBool => "Input should be a valid boolean, unable to interpret input"
  | notText => "Input should be a valid string"
  | notUnicode =>
    "Input should be a valid string, unable to parse raw data as a unicode string"
  | notChoice choices => "Input should be " ++ choiceText choices
  | notList => "Input should be a valid list"
  | unreadableInt => "Input should be a valid integer, unable to parse string as an integer"
  | oversizedInt => "Unable to parse input string as an integer, exceeded maximum size"
  | nullCharacter => "Value error, embedded null byte"

end Problem

end SceneSketch
