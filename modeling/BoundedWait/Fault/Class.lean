namespace BoundedWait

inductive BuiltinClass where
  | baseException
  | exception
  | keyboardInterrupt
  | systemExit
  | arithmeticError
  | overflowError
  | zeroDivisionError
  | assertionError
  | attributeError
  | lookupError
  | indexError
  | keyError
  | osError
  | connectionError
  | blockingIo
  | childProcess
  | brokenPipe
  | connectionAborted
  | permission
  | processLookup
  | connectionRefused
  | connectionReset
  | fileExists
  | fileNotFound
  | interrupted
  | isADirectory
  | notADirectory
  | timeoutError
  | runtimeError
  | recursionError
  | stopIteration
  | typeError
  | valueError
  | validationError
  | markup
  | scanner
  | parser
  | composer
  | constructor
  | reader
  | representer
  | deferred
  | temporarilyUnavailable
  | permanentlyUnavailable
  | predicateMismatch
  | ensureFailed
  | deadlineExceeded
  | eventuallyAssertion
deriving DecidableEq, Repr

namespace BuiltinClass

def name : BuiltinClass → String
  | baseException          => "BaseException"
  | exception              => "Exception"
  | keyboardInterrupt      => "KeyboardInterrupt"
  | systemExit             => "SystemExit"
  | arithmeticError        => "ArithmeticError"
  | overflowError          => "OverflowError"
  | zeroDivisionError      => "ZeroDivisionError"
  | assertionError         => "AssertionError"
  | attributeError         => "AttributeError"
  | lookupError            => "LookupError"
  | indexError             => "IndexError"
  | keyError               => "KeyError"
  | osError                => "OSError"
  | connectionError        => "ConnectionError"
  | blockingIo             => "BlockingIOError"
  | childProcess           => "ChildProcessError"
  | brokenPipe             => "BrokenPipeError"
  | connectionAborted      => "ConnectionAbortedError"
  | permission             => "PermissionError"
  | processLookup          => "ProcessLookupError"
  | connectionRefused      => "ConnectionRefusedError"
  | connectionReset        => "ConnectionResetError"
  | fileExists             => "FileExistsError"
  | fileNotFound           => "FileNotFoundError"
  | interrupted            => "InterruptedError"
  | isADirectory           => "IsADirectoryError"
  | notADirectory          => "NotADirectoryError"
  | timeoutError           => "TimeoutError"
  | runtimeError           => "RuntimeError"
  | recursionError         => "RecursionError"
  | stopIteration          => "StopIteration"
  | typeError              => "TypeError"
  | valueError             => "ValueError"
  | validationError        => "ValidationError"
  | markup                 => "YAMLError"
  | scanner                => "ScannerError"
  | parser                 => "ParserError"
  | composer               => "ComposerError"
  | constructor            => "ConstructorError"
  | reader                 => "ReaderError"
  | representer            => "RepresenterError"
  | deferred               => "DeferredError"
  | temporarilyUnavailable => "TemporarilyUnavailableError"
  | permanentlyUnavailable => "PermanentlyUnavailableError"
  | predicateMismatch      => "PredicateMismatchError"
  | ensureFailed           => "EnsureFailedError"
  | deadlineExceeded       => "DeadlineExceededError"
  | eventuallyAssertion    => "EventuallyAssertionError"

def parent : BuiltinClass → Option BuiltinClass
  | baseException          => none
  | exception              => some .baseException
  | keyboardInterrupt      => some .baseException
  | systemExit             => some .baseException
  | arithmeticError        => some .exception
  | overflowError          => some .arithmeticError
  | zeroDivisionError      => some .arithmeticError
  | assertionError         => some .exception
  | attributeError         => some .exception
  | lookupError            => some .exception
  | indexError             => some .lookupError
  | keyError               => some .lookupError
  | osError                => some .exception
  | connectionError        => some .osError
  | blockingIo             => some .osError
  | childProcess           => some .osError
  | brokenPipe             => some .connectionError
  | connectionAborted      => some .connectionError
  | permission             => some .osError
  | processLookup          => some .osError
  | connectionRefused      => some .connectionError
  | connectionReset        => some .connectionError
  | fileExists             => some .osError
  | fileNotFound           => some .osError
  | interrupted            => some .osError
  | isADirectory           => some .osError
  | notADirectory          => some .osError
  | timeoutError           => some .osError
  | runtimeError           => some .exception
  | recursionError         => some .runtimeError
  | stopIteration          => some .exception
  | typeError              => some .exception
  | valueError             => some .exception
  | validationError        => some .valueError
  | markup                 => some .exception
  | scanner                => some .markup
  | parser                 => some .markup
  | composer               => some .markup
  | constructor            => some .markup
  | reader                 => some .markup
  | representer            => some .markup
  | deferred               => some .exception
  | temporarilyUnavailable => some .deferred
  | permanentlyUnavailable => some .deferred
  | predicateMismatch      => some .temporarilyUnavailable
  | ensureFailed           => some .deferred
  | deadlineExceeded       => some .ensureFailed
  | eventuallyAssertion    => some .assertionError

def all : List BuiltinClass :=
  [.baseException, .exception, .keyboardInterrupt, .systemExit, .arithmeticError,
   .overflowError, .zeroDivisionError, .assertionError, .attributeError, .lookupError,
   .indexError, .keyError, .osError, .connectionError, .blockingIo, .childProcess,
   .brokenPipe, .connectionAborted, .permission, .processLookup, .connectionRefused,
   .connectionReset, .fileExists, .fileNotFound, .interrupted, .isADirectory, .notADirectory,
   .timeoutError, .runtimeError, .recursionError, .stopIteration, .typeError, .valueError,
   .validationError, .markup, .scanner, .parser, .composer, .constructor, .reader,
   .representer, .deferred, .temporarilyUnavailable, .permanentlyUnavailable,
   .predicateMismatch, .ensureFailed, .deadlineExceeded, .eventuallyAssertion]

theorem mem_all (c : BuiltinClass) : c ∈ all := by
  cases c <;> decide

-- The class itself, its parent, the parent of that, and so on, to the given depth.
def climb : Nat → BuiltinClass → List BuiltinClass
  | 0, _     => []
  | n + 1, c => c :: (c.parent.map (climb n)).getD []

def ancestors (c : BuiltinClass) : List BuiltinClass :=
  climb 8 c

theorem baseException_mem_ancestors (c : BuiltinClass) : .baseException ∈ c.ancestors := by
  cases c <;> decide

def isA (c d : BuiltinClass) : Bool :=
  c.ancestors.contains d

def ofName? (s : String) : Option BuiltinClass :=
  all.find? (·.name == s)

end BuiltinClass

-- `derived` and `joined` are classes that users define over one or two others.
inductive FaultClass where
  | builtin (c : BuiltinClass)
  | derived (name : String) (base : FaultClass)
  | joined (name : String) (first second : FaultClass)
deriving DecidableEq, Repr

namespace FaultClass

instance : Coe BuiltinClass FaultClass := ⟨builtin⟩

def name : FaultClass → String
  | builtin c    => c.name
  | derived n _  => n
  | joined n _ _ => n

def lineage : FaultClass → List String
  | builtin c             => c.ancestors.map BuiltinClass.name
  | derived n base        => n :: base.lineage
  | joined n first second => n :: (first.lineage ++ second.lineage)

def isA (c d : FaultClass) : Bool :=
  c == d ||
  match c with
  | builtin b =>
    match d with
    | builtin e => b.isA e
    | _         => false
  | derived _ base        => base.isA d
  | joined _ first second => first.isA d || second.isA d

theorem isA_refl (c : FaultClass) : c.isA c = true := by
  unfold isA
  simp

-- Faults that a handler for ordinary exceptions takes; the others end the whole program.
def isException (c : FaultClass) : Bool :=
  c.isA BuiltinClass.exception

theorem isException_of_ne {c : BuiltinClass} (base : c ≠ .baseException)
    (interrupt : c ≠ .keyboardInterrupt) (exit : c ≠ .systemExit) :
    FaultClass.isException c = true := by
  cases c <;> first | contradiction | decide

end FaultClass

end BoundedWait
