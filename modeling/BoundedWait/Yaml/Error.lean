import BoundedWait.Value.Moment
import BoundedWait.Fault.Misuse

namespace BoundedWait

namespace Yaml

inductive Error where
  -- A character that no text may hold.
  | unprintable
  -- A character that begins nothing.
  | strayCharacter
  -- An entry of a sequence, a key or a value of a mapping where there can be none.
  | misplacedEntry
  | misplacedKey
  | misplacedValue
  | missingColon
  | unclosedQuote
  | unknownEscape
  | malformedTag
  | malformedName
  | malformedIndicator
  | malformedDirective
  -- A token that does not fit what came before.
  | unexpectedToken
  | repeatedDirective
  | unsupportedVersion
  | unknownTagHandle
  | undefinedAlias
  | repeatedAnchor
  | secondDocument
  -- A tag that stands for no value here.
  | unknownTag
  | unhashableKey
  | wrongKind
  -- A text that is not what its tag says: none of two words, no number, no moment.
  | unknownWord (word : String)
  | misread (m : Misuse)
  | noSuchMoment (e : Moment.Error)
deriving DecidableEq, Repr

namespace Error

def cls : Error → BuiltinClass
  | unprintable        => .reader
  | strayCharacter     => .scanner
  | misplacedEntry     => .scanner
  | misplacedKey       => .scanner
  | misplacedValue     => .scanner
  | missingColon       => .scanner
  | unclosedQuote      => .scanner
  | unknownEscape      => .scanner
  | malformedTag       => .scanner
  | malformedName      => .scanner
  | malformedIndicator => .scanner
  | malformedDirective => .scanner
  | unexpectedToken    => .parser
  | repeatedDirective  => .parser
  | unsupportedVersion => .parser
  | unknownTagHandle   => .parser
  | undefinedAlias     => .composer
  | repeatedAnchor     => .composer
  | secondDocument     => .composer
  | unknownTag         => .constructor
  | unhashableKey      => .constructor
  | wrongKind          => .constructor
  | unknownWord _      => .keyError
  | misread m          => m.cls
  | noSuchMoment _     => .valueError

def fault : Error → Fault
  | unknownWord w  => Fault.missingKey (.text w)
  | misread m      => m.fault
  | noSuchMoment e => Fault.saying .valueError e.message
  | e              => .mk 0 e.cls (.plain []) none

end Error

end Yaml

end BoundedWait
