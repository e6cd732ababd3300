/-
What can be wrong with a definition for which an implementation is to be derived.
-/

namespace EnvSettings.Derive

/-- What stands where the key of an option should. -/
inductive NoKey
  | literal
  | mark
  /-- Nothing, behind a path's colons that begin it. -/
  | nothing
  /-- No word, or nothing at all, behind a path's colons in the middle of it. -/
  | noWord (atEnd : Bool)
  deriving Repr, DecidableEq

/-- The reason why nothing can be derived from a definition. -/
inductive Fault
  /-- The definition is neither a record nor anything that looks like one. -/
  | notStruct
  /-- The definition is a record whose fields have no names. -/
  | unnamedFields
  /-- An attribute of the definition holds something that is not a known option. -/
  | unknownSetting
  /-- The stem is given without a value. -/
  | missingValue
  /-- The stem is given a value that is no text, or none where the list ends. -/
  | valueNotText (atEnd : Bool)
  /-- An attribute of the definition has no arguments. -/
  | missingArguments
  /-- An attribute of the definition has a value in the place of arguments. -/
  | valueForArguments
  /-- An attribute of a field has no list of options. -/
  | optionsNotListed
  /-- An option has no key. -/
  | noKey (found : NoKey)
  /-- The key of a field's option is a path. -/
  | optionNotName
  /-- Behind the equals sign of a field's option stands no literal, or nothing where the list
  ends. -/
  | optionNotLiteral (atEnd : Bool)
  /-- The value of a field's option is neither a text nor a truth value. -/
  | optionValue
  /-- Something stands between an option and the next comma. -/
  | missingComma
  /-- A requirement is stated by a text. -/
  | requiredNotBool
  /-- An option that needs a text has none. -/
  | optionNotText (key : String)
  /-- There is no such option in this form. -/
  | unknownOption (key : String)
  /-- Two options say in different ways how a field is visited. -/
  | severalModes
  deriving Repr, DecidableEq

/-- What is said about something that was expected. Where the text ends instead, that comes
first. -/
def expected (what : String) (atEnd : Bool) : String :=
  (if atEnd then "unexpected end of input, " else "") ++ "expected " ++ what

/-- What is said of an item that does not begin with a key. -/
def NoKey.message : NoKey → String
  | .literal => "unexpected literal in nested attribute, expected ident"
  | .mark => "unexpected token in nested attribute, expected ident"
  | .nothing => expected "nested attribute" true
  | .noWord atEnd => expected "ident" atEnd

/-- What is wrong with a definition, in words. -/
def Fault.message : Fault → String
  | .notStruct => "Config can only be derived for structs"
  | .unnamedFields => "Config can only be derived for structs with named fields"
  | .unknownSetting => "unsupported config attribute, expected `prefix = \"...\"`"
  | .missingValue => "expected `=`"
  | .valueNotText atEnd => expected "string literal" atEnd
  | .missingArguments => "expected attribute arguments in parentheses: #[config(...)]"
  | .valueForArguments => "expected parentheses: #[config(...)]"
  | .optionsNotListed => "field attribute must be a list: #[field(required, default = \"...\")]"
  | .noKey found => found.message
  | .optionNotName => "expected identifier"
  | .optionNotLiteral atEnd => expected "literal" atEnd
  | .optionValue => "expected a string or boolean literal"
  | .missingComma => "expected `,`"
  | .requiredNotBool => "required must be a flag or a boolean: required = true"
  | .optionNotText key => key ++ " must be a string literal"
  | .unknownOption key =>
    "unknown field option `" ++ key ++
      "`, expected one of: required, default, doc, nested, registered, skip"
  | .severalModes => "only one of nested, registered or skip may be given"

end EnvSettings.Derive
