/-!
# Faults of patterns

What can be wrong with the text of a pattern.
-/

namespace RuleDelta

/-- Why a text is no pattern. -/
inductive PatternFault
  | unclosedGroup
  | unopenedGroup
  | lookAround
  | groupName
  | repeatedGroupName
  | groupFlag
  | nothingToRepeat
  | repetitionCount
  | repetitionBounds
  | escapeAtEnd
  | unknownEscape
  | backreference
  | hexadecimalEscape
  | wordCondition
  | unclosedClass
  | classRange
  | escapeInClass
  | unknownProperty
  /-- A construct that needs Unicode while Unicode is turned off. -/
  | unicodeOff
  /-- A construct that could match a part of a character. -/
  | partOfCharacter
  | tooDeep
  | tooLarge
  deriving DecidableEq, Repr

/-- The wording of a fault. -/
def PatternFault.message : PatternFault → String
  | unclosedGroup => "unclosed group"
  | unopenedGroup => "unopened group"
  | lookAround => "look-around is not supported"
  | groupName => "invalid name of a group"
  | repeatedGroupName => "duplicate name of a group"
  | groupFlag => "invalid flags of a group"
  | nothingToRepeat => "repetition operator missing expression"
  | repetitionCount => "invalid repetition count"
  | repetitionBounds => "the start of a repetition must not exceed its end"
  | escapeAtEnd => "incomplete escape sequence"
  | unknownEscape => "unrecognized escape sequence"
  | backreference => "backreferences are not supported"
  | hexadecimalEscape => "invalid hexadecimal escape"
  | wordCondition => "invalid word boundary"
  | unclosedClass => "unclosed character class"
  | classRange => "invalid character class range"
  | escapeInClass => "invalid escape sequence in a character class"
  | unknownProperty => "Unicode property not found"
  | unicodeOff => "Unicode is not allowed here"
  | partOfCharacter => "pattern can match invalid UTF-8"
  | tooDeep => "the limit on nesting is exceeded"
  | tooLarge => "the limit on the size is exceeded"

end RuleDelta
